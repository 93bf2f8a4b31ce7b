import PanelDriver.Bench
import PanelDriver.BitBuffer
import PanelDriver.Panel.Describe
import PanelDriver.Panel.Lifecycle
import PanelDriver.Program.Builder
import PanelDriver.Record.Timing
import PanelDriver.Proofs.Execution.Requests
import PanelDriver.Proofs.Program.Assembly
import PanelDriver.Proofs.Execution.LaneFilter
import PanelDriver.Proofs.Wire.Framing
import PanelDriver.Proofs.Wire.Timeline
import PanelDriver.Proofs.Wire.Delivery
import PanelDriver.Proofs.Execution.Agreement
import PanelDriver.Proofs.Execution.Isolation
import PanelDriver.Proofs.Panel.Transitions
import PanelDriver.Proofs.Panel.Reset
import PanelDriver.Proofs.Panel.Pairing
import PanelDriver.Proofs.Execution.Bounds
import PanelDriver.Proofs.Panel.Errors
import PanelDriver.Proofs.Panel.Safety
import PanelDriver.Proofs.Panel.Monitor
import PanelDriver.Proofs.Panel.Sequence
import PanelDriver.Program.Reader
import PanelDriver.Proofs.Program.Table
import PanelDriver.Proofs.Program.Tiling
import PanelDriver.Proofs.Execution.Verdict
import PanelDriver.Proofs.Execution.Attempts
import PanelDriver.Proofs.Execution.Replies
import PanelDriver.Proofs.Program.Prefix
import PanelDriver.Proofs.Execution.Malformed
import PanelDriver.Proofs.Wire.Capacity
import PanelDriver.Proofs.Execution.Course
import PanelDriver.Proofs.Wire.Retries
import PanelDriver.Proofs.Wire.Packets
import PanelDriver.Proofs.Wire.FailStop
import PanelDriver.Proofs.Execution.LastWrite
import PanelDriver.Proofs.Wire.BitBuffer
import PanelDriver.Proofs.Wire.InMemory
import PanelDriver.Proofs.Wire.Packing
import PanelDriver.Proofs.Execution.Links
import PanelDriver.Proofs.Panel.Echoes
import PanelDriver.Proofs.Panel.Scripts
import PanelDriver.Proofs.Panel.Future
import PanelDriver.Proofs.Execution.NormalForm
import PanelDriver.Proofs.Wire.Alignment
import PanelDriver.Proofs.Panel.Refusal
import PanelDriver.Proofs.Panel.Darkness
import PanelDriver.Proofs.Program.Append
import PanelDriver.ScratchBuffer
import PanelDriver.Proofs.Execution.Rounds
import PanelDriver.Proofs.Wire.Extraction
import PanelDriver.Proofs.Wire.Reading
import PanelDriver.Proofs.Timing.Spans
import PanelDriver.Proofs.Timing.Refresh
import PanelDriver.Proofs.Timing.Advertised
import PanelDriver.Proofs.Panel.Grounds
