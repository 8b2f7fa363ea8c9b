import Workpad.Console.Session
import Workpad.Editor.Buffer
import Workpad.Editors
import Workpad.Fetch.Offline
import Workpad.Plot.Bench
import Workpad.Proofs.Completion.Ghost
import Workpad.Proofs.Completion.Reached
import Workpad.Proofs.Completion.Small
import Workpad.Proofs.Completion.Trailing
import Workpad.Proofs.Completion.Typing
import Workpad.Proofs.Console.Cancel
import Workpad.Proofs.Console.Command
import Workpad.Proofs.Console.Entering
import Workpad.Proofs.Console.Readiness
import Workpad.Proofs.Console.Record
import Workpad.Proofs.Console.Script
import Workpad.Proofs.Console.Shown
import Workpad.Proofs.Console.Table
import Workpad.Proofs.Console.Wrapping
import Workpad.Proofs.Editor.Stored
import Workpad.Proofs.Editor.Surface
import Workpad.Proofs.Fetch.Limit
import Workpad.Proofs.Plot.Ownership
import Workpad.Proofs.Plot.Prepare
import Workpad.Proofs.Plot.Relabelling
import Workpad.Proofs.Plot.Rewriting
import Workpad.Proofs.Queue.Order
import Workpad.Proofs.Queue.Progress
import Workpad.Proofs.Queue.Sequential
import Workpad.Proofs.Queue.Simulation
import Workpad.Proofs.Queue.Tickets
import Workpad.Proofs.Run.Capture
import Workpad.Proofs.Run.Fragment
import Workpad.Proofs.Run.Handling
import Workpad.Proofs.Run.Independence
import Workpad.Proofs.Run.Leak
import Workpad.Proofs.Run.Moves
import Workpad.Proofs.Run.Protocol
import Workpad.Proofs.Run.Schedule
import Workpad.Proofs.Run.Targets
import Workpad.Proofs.Settings.Document
import Workpad.Proofs.Settings.Setters
import Workpad.Proofs.Startup.Dropped
import Workpad.Queue.Clients
import Workpad.Run.Desk
import Workpad.Settings.Document
