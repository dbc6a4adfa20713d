import Attendant.Channel.Timed
import Attendant.Frame.Source
import Attendant.Host.Farewell
import Attendant.Host.Shell.Words
import Attendant.Json.Members
import Attendant.Main
import Attendant.Proofs.Channel.Clock
import Attendant.Proofs.Channel.Hearing
import Attendant.Proofs.Channel.Teardown
import Attendant.Proofs.Channel.Wire
import Attendant.Proofs.Coordinator.Phases
import Attendant.Proofs.Frame.Stream
import Attendant.Proofs.Log.Attaching
import Attendant.Proofs.Log.Retry
import Attendant.Proofs.Program.Watch
import Attendant.Proofs.Supervisor.Clock
import Attendant.Proofs.Channel.Letters
import Attendant.Proofs.Supervisor.Deeds
import Attendant.Proofs.Supervisor.Errands
import Attendant.Proofs.Supervisor.Order
import Attendant.Proofs.Supervisor.Parting
import Attendant.Proofs.Supervisor.Gate
import Attendant.Proofs.Frame.Block
import Attendant.Proofs.Program.Interrupts
import Attendant.Proofs.Log.Detaching
import Attendant.Proofs.Coordinator.Showing
import Attendant.Proofs.Settings.Defaults
import Attendant.Proofs.Launch.Line
import Attendant.Proofs.Channel.Replies
import Attendant.Proofs.Message.Payload
import Attendant.Proofs.Text.Chunks
