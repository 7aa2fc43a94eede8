import TriggerLogic.ConfigFile
import TriggerLogic.Json.Notice
import TriggerLogic.Table
import TriggerLogic.Proofs.Descent
import TriggerLogic.Proofs.Lexing
import TriggerLogic.Proofs.Reading
import TriggerLogic.Proofs.Diagnosis
import TriggerLogic.Proofs.Matching
import TriggerLogic.Proofs.History
import TriggerLogic.Proofs.Binding
import TriggerLogic.Proofs.Meaning
import TriggerLogic.Proofs.Freshness
import TriggerLogic.Proofs.Spelling
import TriggerLogic.Proofs.Passes
import TriggerLogic.Proofs.Calls
import TriggerLogic.Proofs.Disjunction
import TriggerLogic.Proofs.Canonical
import TriggerLogic.Proofs.Display
import TriggerLogic.Proofs.Edits
import TriggerLogic.Proofs.Policies
import TriggerLogic.Proofs.Trace
import TriggerLogic.Proofs.FixedPoint
import TriggerLogic.Proofs.Regex
import TriggerLogic.Proofs.Places
import TriggerLogic.Proofs.Asking
import TriggerLogic.Proofs.Stopped
import TriggerLogic.Proofs.Positions
import TriggerLogic.Proofs.Layout
import TriggerLogic.Proofs.Json.Written
import TriggerLogic.Proofs.Json.Postconditions
import TriggerLogic.Proofs.Json.RoundTrip
import TriggerLogic.Proofs.Pulling
import TriggerLogic.Proofs.Segments
import TriggerLogic.Proofs.Combining
import TriggerLogic.Proofs.Json.WellFormed
import TriggerLogic.Proofs.Json.Configurations
import TriggerLogic.Proofs.Results
import TriggerLogic.Proofs.Cursor
import TriggerLogic.Proofs.Traversals
