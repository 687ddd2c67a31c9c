import DuckTyping.Session.Script
import DuckTyping.Text.Literal
import DuckTyping.Proofs.Guard.OfDocument
import DuckTyping.Proofs.Guard.OwnBinding
import DuckTyping.Proofs.Narrowing
import DuckTyping.Proofs.Expectations.Text
import DuckTyping.Proofs.Expectations.RoundTrip
import DuckTyping.Proofs.Expectations.History
import DuckTyping.Proofs.Guard.Subsumption
import DuckTyping.Proofs.Guard.Edits
import DuckTyping.Proofs.Guard.Expressible
import DuckTyping.Proofs.Value.Equality
import DuckTyping.Proofs.Shape.Outcomes
import DuckTyping.Proofs.Session.Freshness
import DuckTyping.Proofs.Guard.Diagnosis
import DuckTyping.Proofs.Guard.Extension
import DuckTyping.Proofs.Text.ByteOrder
import DuckTyping.Proofs.Expectations.Acceptance
import DuckTyping.Proofs.IntegerKeys
import DuckTyping.Proofs.Value.Lookup
import DuckTyping.Proofs.Guard.EqualValues
import DuckTyping.Proofs.Value.OfDocument
import DuckTyping.Proofs.Shape.Points
import DuckTyping.Proofs.Value.Navigation
import DuckTyping.Proofs.Guard.ObjectHistory
import DuckTyping.Proofs.Guard.PlainObject
import DuckTyping.Proofs.KeyOrder
import DuckTyping.Proofs.Value.Numbers
