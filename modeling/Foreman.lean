import Foreman.Build.Rehearsal
import Foreman.Command.Carried
import Foreman.Config.Sample
import Foreman.Main
import Foreman.Proofs.Build.Retry
import Foreman.Proofs.Log.Following
import Foreman.Proofs.Watch.Agreement
import Foreman.Proofs.Watch.Delivery
import Foreman.Proofs.Watch.Judgement
import Foreman.Proofs.Log.Truncation
import Foreman.Proofs.Log.Replacement
import Foreman.Proofs.Watch.Quiet
import Foreman.Proofs.Watch.Promptness
import Foreman.Proofs.Build.Crash
import Foreman.Proofs.Build.Pairing
import Foreman.Proofs.Build.Isolation
import Foreman.Proofs.Build.LogOption
import Foreman.Proofs.Watch.Timing
import Foreman.Proofs.Config.Overflow
import Foreman.Proofs.Build.Preview
import Foreman.Proofs.Build.Halted
import Foreman.Proofs.Config.Override
import Foreman.Proofs.Watch.Footprint
import Foreman.Proofs.Build.Showing
import Foreman.Proofs.Build.Cleaning
import Foreman.Proofs.Watch.Leniency
import Foreman.Proofs.Watch.Silence
import Foreman.Proofs.Duration.Spelling
import Foreman.Proofs.Build.Supervision
import Foreman.Proofs.Log.Outage
import Foreman.Proofs.Build.Hooks
import Foreman.Proofs.Command.Escaping
import Foreman.Proofs.Command.Marks
import Foreman.Proofs.Build.Dumping
