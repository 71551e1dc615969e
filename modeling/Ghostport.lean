import Ghostport.Lib.Machine
import Ghostport.Lib.Network
import Ghostport.Lib.Progress
import Ghostport.Lib.SlidingWindow
import Ghostport.Lib.Backoff
import Ghostport.Lib.LinearStore
import Ghostport.Lib.Frames
import Ghostport.Lib.Lines
import Ghostport.Lib.Regex
import Ghostport.Lib.Demux
import Ghostport.Lib.Keyed
import Ghostport.Lib.FileTree
import Ghostport.Lib.Exposition
import Ghostport.Lib.ExpositionText
import Ghostport.Lib.Http
import Ghostport.Net.Addr
import Ghostport.Net.RoundTrip
import Ghostport.Core.Ratelimit
import Ghostport.Core.Keys
import Ghostport.Core.Config
import Ghostport.Core.Peermatch
import Ghostport.Core.Theme
import Ghostport.Core.Protocol
import Ghostport.Core.Framing
import Ghostport.Core.Stats
import Ghostport.Core.Validation
import Ghostport.Core.Matching
import Ghostport.Core.Relay
import Ghostport.Core.Wire
import Ghostport.Core.Save
import Ghostport.Core.KeyFiles
import Ghostport.Core.Ipc
import Ghostport.Core.Keygen
import Ghostport.Control.Session
import Ghostport.Control.Integrity
import Ghostport.Client.State
import Ghostport.Client.Step
import Ghostport.Client.Cases
import Ghostport.Client.Links
import Ghostport.Client.Dials
import Ghostport.Client.Backoff
import Ghostport.Client.Availability
import Ghostport.Server.Log
import Ghostport.Server.State
import Ghostport.Server.Step
import Ghostport.Server.Cases
import Ghostport.Server.Streams
import Ghostport.Server.Pairing
import Ghostport.Server.Access
import Ghostport.Server.Signals
import Ghostport.Server.Delivery
import Ghostport.Server.Expiry
import Ghostport.Server.Replay
import Ghostport.Server.Limits
import Ghostport.Server.Availability
import Ghostport.Server.Origin
import Ghostport.System.Datagrams
import Ghostport.System.Direction
import Ghostport.System.Messages
import Ghostport.Udp.Server
import Ghostport.Udp.Access
import Ghostport.Udp.Client
import Ghostport.Udp.Cases
import Ghostport.Udp.Flows
import Ghostport.Udp.Survival
import Ghostport.System.Binding
import Ghostport.System.Daemon
import Ghostport.System.KeyExchange
import Ghostport.Firewall.Detector
import Ghostport.Firewall.Daemon
import Ghostport.Firewall.Phrases
import Ghostport.Firewall.Reading
import Ghostport.Firewall.Attribution
import Ghostport.Firewall.Extraction
import Ghostport.Firewall.WrongKeys
import Ghostport.Firewall.Honest
import Ghostport.Firewall.Mapped
import Ghostport.Firewall.Threshold
import Ghostport.Firewall.FailedBans
import Ghostport.Firewall.Detection
import Ghostport.Tui.App
import Ghostport.Tui.Keys
import Ghostport.Tui.Cases
import Ghostport.Tui.Effects
import Ghostport.Tui.Saved
import Ghostport.Tui.Prompts
import Ghostport.Tui.Wizards
import Ghostport.Tui.References
import Ghostport.Tui.Pending
import Ghostport.Tui.Rates
import Ghostport.Tui.Editing
import Ghostport.Tui.Screen
import Ghostport.Tui.Shown
import Ghostport.Tui.Foretold
import Ghostport.Metrics.Http
import Ghostport.Metrics.Render
import Ghostport.Metrics.Response
import Ghostport.System.Status
import Ghostport.System.Monitoring
import Ghostport.System.EndToEnd
import Ghostport.System.Availability
import Ghostport.System.Restart
