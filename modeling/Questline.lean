import Questline.Main
import Questline.MemoryClient
import Questline.Proofs.Parts
import Questline.Proofs.Turns
import Questline.Proofs.Moves
import Questline.Proofs.Calls
import Questline.Proofs.Queues
import Questline.Proofs.Subscriptions
import Questline.Proofs.Matching
import Questline.Proofs.Interruption
import Questline.Proofs.Announcements
import Questline.Proofs.Holdings
import Questline.Proofs.Spelling
import Questline.Proofs.Keywords
import Questline.Proofs.Roundtime
import Questline.Proofs.Failures
import Questline.Proofs.Attention
import Questline.Proofs.Reading
import Questline.Proofs.Delivery
import Questline.Proofs.Heading
import Questline.Proofs.Suspension
import Questline.Proofs.Stopping
import Questline.Proofs.Interlude
import Questline.Proofs.Tracing
import Questline.Proofs.Debugging
import Questline.Proofs.Homes
import Questline.Proofs.Acts
import Questline.Proofs.Requests
import Questline.Proofs.Verdict
import Questline.Proofs.ExitCode
import Questline.Proofs.Drawing
import Questline.Proofs.RoundTrip
import Questline.Proofs.Restart
import Questline.Proofs.Entry
import Questline.Proofs.Persistence
import Questline.Proofs.Branches
import Questline.Proofs.References
import Questline.Proofs.LineBreaks
import Questline.Proofs.HandOver
import Questline.Proofs.CustomCommands
import Questline.Proofs.Shifting
import Questline.Proofs.Arrivals
import Questline.Proofs.RunningTime
import Questline.Proofs.Fairness
import Questline.Proofs.Delimiters
import Questline.Proofs.Lowering
import Questline.Proofs.LabelForms
import Questline.Proofs.Jumps
import Questline.Proofs.Counter
import Questline.Proofs.Doubles
import Questline.Proofs.WholeNumbers
import Questline.Proofs.Numerals
import Questline.Proofs.Reckoning
