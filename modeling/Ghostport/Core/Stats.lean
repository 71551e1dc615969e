import Ghostport.Core.Config

/-!
# Live counters (`crates/ghostport-core/src/stats.rs`, `relay.rs`)

The counters are `AtomicU64`s, so they wrap.
-/

namespace Ghostport.Core

/-- `LinkStats` (stats.rs, lines 19-29). -/
structure LinkStats where
  activeStreams : UInt64
  totalStreams : UInt64
  bytesForward : UInt64
  bytesBack : UInt64
  deriving DecidableEq, Repr

/-- `LinkStats::default()`. -/
def LinkStats.zero : LinkStats := ⟨0, 0, 0, 0⟩

/-- What `relay` does before it starts to copy (relay.rs, lines 20-21). -/
def LinkStats.relayStart (s : LinkStats) : LinkStats :=
  { s with activeStreams := s.activeStreams + 1, totalStreams := s.totalStreams + 1 }

/-- What `relay` does once `copy_bidirectional` has returned (relay.rs, lines
    25-41): the bytes copied from `a` to `b` and from `b` to `a`, or an error. -/
def LinkStats.relayEnd (s : LinkStats) (result : Except String (UInt64 × UInt64)) : LinkStats :=
  let s := { s with activeStreams := s.activeStreams - 1 }
  match result with
  | .ok (aToB, bToA) =>
    { s with bytesForward := s.bytesForward + aToB, bytesBack := s.bytesBack + bToA }
  | .error _ => s

/-- `SharedState::links`: one entry for each link of the config. -/
def initialStats (c : Config) : String → Option LinkStats :=
  fun id => if id ∈ c.links.map (·.id) then some .zero else none

/-- `ControlStatus` (stats.rs, lines 47-60). -/
structure ControlStatus where
  connected : Bool
  connectedSince : Option UInt64
  peerAddr : Option (List Char)
  peerName : Option String
  deriving DecidableEq, Repr

/-- `ControlStatus::default()`. -/
def ControlStatus.initial : ControlStatus := ⟨false, none, none, none⟩

/-- `set_connected` (stats.rs, lines 65-70). -/
def ControlStatus.setConnected (_ : ControlStatus) (nowUnix : UInt64) (peerAddr : List Char)
    (peerName : Option String) : ControlStatus :=
  ⟨true, some nowUnix, some peerAddr, peerName⟩

/-- `set_disconnected` (stats.rs, lines 76-78). -/
def ControlStatus.setDisconnected (s : ControlStatus) : ControlStatus :=
  { s with connected := false }

/-- `LinkSnapshot` (stats.rs, lines 153-166). -/
structure LinkSnapshot where
  id : String
  mode : String
  activeStreams : UInt64
  totalStreams : UInt64
  bytesForward : UInt64
  bytesBack : UInt64
  deriving DecidableEq, Repr

/-- `StatusSnapshot` (stats.rs, lines 171-187). -/
structure StatusSnapshot where
  role : String
  uptimeSecs : UInt64
  controlConnected : Bool
  controlConnectedSinceSecsAgo : Option UInt64
  controlPeerAddr : Option String
  controlPeerName : Option String
  links : List LinkSnapshot
  deriving DecidableEq, Repr

/-! ## Snapshots -/

/-- `LinkStats::snapshot` (stats.rs, lines 32-41). -/
def LinkStats.snapshot (s : LinkStats) (id mode : String) : LinkSnapshot :=
  ⟨id, mode, s.activeStreams, s.totalStreams, s.bytesForward, s.bytesBack⟩

/-- `SharedState` (stats.rs, lines 90-100). -/
structure SharedState where
  role : Role
  startedAt : UInt64
  control : ControlStatus
  links : String → Option LinkStats

/-- `SharedState::new` (stats.rs, lines 104-116). -/
def SharedState.new (c : Config) (nowUnix : UInt64) : SharedState :=
  ⟨c.role, nowUnix, .initial, initialStats c⟩

/-- `saturating_sub`. -/
def saturatingSub (a b : UInt64) : UInt64 := if b ≤ a then a - b else 0

/-- `to_lowercase` of the names of roles and modes. -/
def toLowercase (s : String) : String := String.ofList (s.toList.map Char.toLower)

/-- `SharedState::snapshot` (stats.rs, lines 122-147), which reads the clock twice. -/
def SharedState.snapshot (s : SharedState) (c : Config) (nowUnix laterUnix : UInt64) :
    StatusSnapshot where
  role := toLowercase s.role.debug
  uptimeSecs := saturatingSub nowUnix s.startedAt
  controlConnected := s.control.connected
  controlConnectedSinceSecsAgo :=
    (s.control.connectedSince.filter fun _ => s.control.connected).map fun t =>
      saturatingSub laterUnix t
  controlPeerAddr := s.control.peerAddr.map String.ofList
  controlPeerName := s.control.peerName
  links := c.links.filterMap fun l =>
    (s.links l.id).map fun stats => stats.snapshot l.id (toLowercase l.mode.debug)

end Ghostport.Core
