import RecordFilter.Detection.Session
import RecordFilter.Filter
import RecordFilter.Json.Conditions
import RecordFilter.Json.Queries
import RecordFilter.Json.Reader
import RecordFilter.Json.Text
import RecordFilter.Proofs.Like.Spelling
import RecordFilter.Proofs.Regex.Reader
import RecordFilter.Proofs.Regex.Search
import RecordFilter.Proofs.Regex.Sequence
import RecordFilter.Proofs.Text.CaseFolding
import RecordFilter.Proofs.Regex.Parser
import RecordFilter.Proofs.Regex.Tokens
import RecordFilter.Proofs.Like.Pattern
import RecordFilter.Proofs.Downgrade.Scan
import RecordFilter.Proofs.Downgrade.Tokenized
import RecordFilter.Proofs.Downgrade.Reading
import RecordFilter.Proofs.Downgrade.Conversion
import RecordFilter.Proofs.Like.Literal
import RecordFilter.Proofs.Like.Lines
import RecordFilter.Proofs.Downgrade.Lossless
import RecordFilter.Proofs.Fragment.Reading
import RecordFilter.Proofs.Filter.Conjunction
import RecordFilter.Proofs.Fragment.Scope
import RecordFilter.Proofs.Text.LowerCase
import RecordFilter.Proofs.Downgrade.Equality
import RecordFilter.Proofs.Downgrade.Expressible
import RecordFilter.Proofs.Fragment.Equality
import RecordFilter.Proofs.Condition.Insertion
import RecordFilter.Proofs.Detection.Answers
import RecordFilter.Proofs.Detection.Session
import RecordFilter.Proofs.Detection.Backend
import RecordFilter.Proofs.Number.Comparison
import RecordFilter.Proofs.Text.ByteOrder
import RecordFilter.Proofs.Number.Rational
import RecordFilter.Proofs.Value.Order
import RecordFilter.Proofs.Filter.Composition
import RecordFilter.Proofs.Operator.Interchange
import RecordFilter.Proofs.Downgrade.Escaped
import RecordFilter.Proofs.Like.Canonical
import RecordFilter.Proofs.Downgrade.Canonical
import RecordFilter.Proofs.Operator.Downgraded
import RecordFilter.Proofs.Like.Escape
import RecordFilter.Proofs.Operator.Affix
import RecordFilter.Proofs.Detection.Protocol
import RecordFilter.Proofs.Condition.Nulls
import RecordFilter.Proofs.Condition.Ranges
import RecordFilter.Proofs.Condition.Membership
import RecordFilter.Proofs.Filter.Complement
import RecordFilter.Proofs.Json.Numbers
import RecordFilter.Proofs.Json.Strings
import RecordFilter.Proofs.Json.Trees
import RecordFilter.Proofs.Json.RoundTrip
import RecordFilter.Proofs.Downgrade.Pieces
import RecordFilter.Proofs.Number.Shortest
import RecordFilter.Proofs.Json.Doubles
import RecordFilter.Proofs.Json.Distinct
import RecordFilter.Proofs.Json.Conditions
