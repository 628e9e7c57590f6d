import SqlTemplate.Proofs.Argument.Collection
import SqlTemplate.Proofs.Builder.Collection
import SqlTemplate.Proofs.Builder.Comment
import SqlTemplate.Proofs.Builder.Concatenation
import SqlTemplate.Proofs.Builder.Events
import SqlTemplate.Proofs.Builder.FlatText
import SqlTemplate.Proofs.Builder.FloatText
import SqlTemplate.Proofs.Builder.Juncture
import SqlTemplate.Proofs.Builder.Members
import SqlTemplate.Proofs.Builder.Numeric
import SqlTemplate.Proofs.Builder.NumericText
import SqlTemplate.Proofs.Builder.Positions
import SqlTemplate.Proofs.Builder.Strictness
import SqlTemplate.Proofs.Builder.StringValues
import SqlTemplate.Proofs.Dialect.Grammar
import SqlTemplate.Proofs.Escaping.Connection
import SqlTemplate.Proofs.Escaping.Literal
import SqlTemplate.Proofs.Fragment.Dropping
import SqlTemplate.Proofs.Fragment.Span
import SqlTemplate.Proofs.Fragment.Stabilisation
import SqlTemplate.Proofs.Log.Delivery
import SqlTemplate.Proofs.Log.Journal
import SqlTemplate.Proofs.Numeral.Minus
import SqlTemplate.Proofs.Profile.Draft
import SqlTemplate.Proofs.Registry.History
import SqlTemplate.Proofs.Registry.Refusal
import SqlTemplate.Proofs.Session.Insulation
import SqlTemplate.Proofs.Text.Reader
import SqlTemplate.Proofs.Token.Canonical
import SqlTemplate.Proofs.Token.Juncture
import SqlTemplate.Proofs.Token.Modes
import SqlTemplate.Proofs.Token.Place
import SqlTemplate.Session
