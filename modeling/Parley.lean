import Parley.LogFilter
import Parley.Main
import Parley.Proofs.Failure.Snippet
import Parley.Proofs.Script.Deeds
import Parley.Proofs.Script.Smoke
import Parley.Proofs.Session.Escalation
import Parley.Proofs.Session.Lifecycle
import Parley.Proofs.Session.Outcome
import Parley.Proofs.Session.Endless
import Parley.Proofs.Session.Timeline
import Parley.Proofs.Session.Reaping
import Parley.Proofs.Session.Resume
import Parley.Proofs.Number.Nearest
import Parley.Proofs.Environment
import Parley.Proofs.Settings.Overlay
import Parley.Proofs.Settings.Timeout
import Parley.Proofs.Settings.Layers
import Parley.Proofs.Settings.Usable
import Parley.Proofs.StandIn.Transcript
import Parley.Proofs.Window.Ahead
import Parley.Proofs.Window.HeldBack
import Parley.Proofs.Window.Intact
import Parley.Proofs.Window.Partition
import Parley.Proofs.Window.Plain
import Parley.Proofs.Window.Pursuit
import Parley.Proofs.Window.Room
import Parley.Proofs.Window.Stream
import Parley.Proofs.Window.Overflow
import Parley.Proofs.Session.Merging
