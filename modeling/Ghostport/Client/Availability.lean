import Ghostport.Client.Step
import Ghostport.Lib.Progress

/-!
# A connection to a forward link

What the client does for a connection that one of its listeners accepts is in nobody's way and
waits for nobody but the server.

Results:
* `canReach_hello`: it dials a data tunnel and gets to its hello.
* `canReach_relay`: when the hello is sent, it relays.
-/

namespace Ghostport.Client

open Ghostport.Core Ghostport.Net Ghostport.Lib

variable {ctx : Context} {s : State} {stream : Stream}

/-- What the client does for a connection to a forward link: it accepts it and dials the tunnel
    of `stream`, which succeeds. -/
inductive Forwards (stream : Stream) (s : State) : Action → Prop
  | accept {i : ℕ} {l : ForwardListener} {peerAddr : SocketAddr} : s.listeners[i]? = some l →
    stream = ⟨l.linkId, .accepted peerAddr⟩ →
    Forwards stream s (.listener i (.accept (.ok peerAddr)))
  | connect {i : ℕ} {phase : TunnelPhase} : s.tunnels[i]? = some ⟨stream, phase⟩ →
    Forwards stream s (.tunnel i (.connect (.ok ())))
  | handshake {i : ℕ} {phase : TunnelPhase} : s.tunnels[i]? = some ⟨stream, phase⟩ →
    Forwards stream s (.tunnel i (.handshake (.ok ())))
  | sent {i : ℕ} {phase : TunnelPhase} : s.tunnels[i]? = some ⟨stream, phase⟩ →
    Forwards stream s (.tunnel i (.sent (.ok ())))

/-- The client dials a tunnel for a connection that it accepts, and gets to its hello. -/
theorem canReach_hello {i : ℕ} {linkId listenAddr addr : String}
    (hl : s.listeners[i]? = some ⟨linkId, listenAddr, .accepting⟩)
    (haddr : ctx.config.serverDataAddr = some addr) (hinitiator : ctx.initiator = .ok ())
    (peerAddr : SocketAddr) :
    CanReach (step ctx) (Forwards ⟨linkId, .accepted peerAddr⟩) s fun t tr =>
      tr = [.dialing ⟨linkId, .accepted peerAddr⟩, .hello ⟨linkId, .accepted peerAddr⟩] ∧
        t.tunnels[s.tunnels.length]? = some ⟨⟨linkId, .accepted peerAddr⟩, .sendingHello⟩ ∧
        t.stats = s.stats ∧ t.clock = s.clock := by
  set stream : Stream := ⟨linkId, .accepted peerAddr⟩ with hstream
  set n := s.tunnels.length with hn
  have hst₁ : step ctx s (.listener i (.accept (.ok peerAddr))) =
      some ({ s with tunnels := s.tunnels ++ [⟨stream, .connecting addr⟩] },
        [.dialing stream]) := by
    simp [step, runForwardListener, hl, dialDataTunnelAndRelay, haddr, hstream]
  have hget : ∀ t : Tunnel, (s.tunnels ++ [t])[n]? = some t := by simp [hn]
  have hset : ∀ t u : Tunnel, (s.tunnels ++ [t]).set n u = s.tunnels ++ [u] := by simp [hn]
  have hst₂ : step ctx { s with tunnels := s.tunnels ++ [⟨stream, .connecting addr⟩] }
      (.tunnel n (.connect (.ok ()))) = some ({ s with
        tunnels := s.tunnels ++ [⟨stream, .handshaking (s.clock + handshakeTimeout)⟩] }, []) := by
    simp only [step, runTunnel, hget, hinitiator, hset]
  have hst₃ : step ctx { s with
        tunnels := s.tunnels ++ [⟨stream, .handshaking (s.clock + handshakeTimeout)⟩] }
      (.tunnel n (.handshake (.ok ()))) =
        some ({ s with tunnels := s.tunnels ++ [⟨stream, .sendingHello⟩] }, [.hello stream]) := by
    simp only [step, runTunnel, hget, hset]
  refine .next (.accept hl rfl) hst₁ (.next (.connect (hget _)) hst₂
    (.next (.handshake (hget _)) hst₃ (.now ⟨rfl, hget _, rfl, rfl⟩)))

/-- The hello is sent, and the client relays. -/
theorem canReach_relay (ctx : Context) {i : ℕ} (hi : s.tunnels[i]? = some ⟨stream, .sendingHello⟩)
    (hstats : (s.stats stream.linkId).isSome) :
    CanReach (step ctx) (Forwards stream) s fun t tr =>
      .relayStarted stream ∈ tr ∧ t.clock = s.clock := by
  obtain ⟨stats, hstats⟩ := Option.isSome_iff_exists.mp hstats
  obtain ⟨t, hst, hclock⟩ : ∃ t, step ctx s (.tunnel i (.sent (.ok ()))) =
      some (t, [.relayStarted stream]) ∧ t.clock = s.clock := by
    simp only [step, runTunnel, hi, hstats]
    exact ⟨_, rfl, rfl⟩
  exact .next (.sent hi) hst (.now ⟨by simp, hclock⟩)

end Ghostport.Client
