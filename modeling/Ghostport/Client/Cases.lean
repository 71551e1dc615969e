import Ghostport.Client.Step

/-!
# What a step of the client can do

For each group of steps, its cases: the guard, the state after and the events.
-/

namespace Ghostport.Client

open Ghostport.Core Ghostport.Net Ghostport.Lib

attribute [simp] State.setControl State.backOff

variable {ctx : Context} {s s' : State} {es : List Event}

/-! ## Cases -/

/-- A data tunnel is dialed, unless there is no address to dial. -/
inductive DialCase (ctx : Context) (s : State) (stream : Stream) : State → List Event → Prop
  | dialed {serverDataAddr : String} : ctx.config.serverDataAddr = some serverDataAddr →
    DialCase ctx s stream
      { s with tunnels := s.tunnels ++ [⟨stream, .connecting serverDataAddr⟩] } [.dialing stream]
  | panicked : ctx.config.serverDataAddr = none → DialCase ctx s stream s [.panicked]

theorem dial_cases (ctx : Context) (s : State) (stream : Stream) :
    DialCase ctx s stream (dialDataTunnelAndRelay ctx s stream).1
      (dialDataTunnelAndRelay ctx s stream).2 := by
  unfold dialDataTunnelAndRelay
  split
  · rename_i hnone
    exact .panicked hnone
  · rename_i hsome
    exact .dialed hsome

/-- The cases of a data tunnel. -/
inductive TunnelCase (s : State) (i : ℕ) : TunnelAction → State → List Event → Prop
  | failed {stream : Stream} {phase : TunnelPhase} {a : TunnelAction} {e : String} :
    s.tunnels[i]? = some ⟨stream, phase⟩ → (∀ result, a ≠ .relayEnd result) →
    TunnelCase s i a { s with tunnels := s.tunnels.eraseIdx i } [.print (stream.failed e)]
  | connected {stream : Stream} {addr : String} {phase : TunnelPhase} :
    s.tunnels[i]? = some ⟨stream, .connecting addr⟩ → phase ≠ .relaying →
    TunnelCase s i (.connect (.ok ())) { s with tunnels := s.tunnels.set i ⟨stream, phase⟩ } []
  | hello {stream : Stream} {deadline : Instant} :
    s.tunnels[i]? = some ⟨stream, .handshaking deadline⟩ →
    TunnelCase s i (.handshake (.ok ()))
      { s with tunnels := s.tunnels.set i ⟨stream, .sendingHello⟩ } [.hello stream]
  | started {stream : Stream} {stats : LinkStats} :
    s.tunnels[i]? = some ⟨stream, .sendingHello⟩ → s.stats stream.linkId = some stats →
    TunnelCase s i (.sent (.ok ()))
      { s with
        tunnels := s.tunnels.set i ⟨stream, .relaying⟩
        stats := Function.update s.stats stream.linkId (some stats.relayStart) }
      [.relayStarted stream]
  | panicked {stream : Stream} :
    s.tunnels[i]? = some ⟨stream, .sendingHello⟩ → s.stats stream.linkId = none →
    TunnelCase s i (.sent (.ok ())) { s with tunnels := s.tunnels.eraseIdx i } [.panicked]
  | ended {stream : Stream} {result : Except String (UInt64 × UInt64)} :
    s.tunnels[i]? = some ⟨stream, .relaying⟩ →
    TunnelCase s i (.relayEnd result)
      { s with
        tunnels := s.tunnels.eraseIdx i
        stats := Function.update s.stats stream.linkId
          ((s.stats stream.linkId).map fun st => st.relayEnd result) }
      [.relayEnded stream result, .print (.relay (Server.relayLine stream.linkId result))]

theorem runTunnel_cases {i : ℕ} {a : TunnelAction} (h : runTunnel ctx s i a = some (s', es)) :
    TunnelCase s i a s' es := by
  unfold runTunnel at h
  simp only at h
  split at h
  case h_1 hi => cases h; exact .failed hi (by simp)
  case h_2 hi =>
    split at h
    · cases h
      exact .failed hi (by simp)
    · cases h
      exact .connected hi (by simp)
  case h_3 hi => cases h; exact .failed hi (by simp)
  case h_4 hi => cases h; exact .hello hi
  case h_5 hi =>
    split at h
    · cases h
      exact .failed hi (by simp)
    · cases h
  case h_6 hi => cases h; exact .failed hi (by simp)
  case h_7 hi =>
    split at h
    · rename_i hnone
      cases h
      exact .panicked hi hnone
    · rename_i stats hstats
      cases h
      exact .started hi hstats
  case h_8 hi => cases h; exact .ended hi
  case h_9 => cases h

/-- The cases of a forward listener. -/
inductive ListenerCase (ctx : Context) (s : State) (i : ℕ) :
    ListenerAction → State → List Event → Prop
  | bound {linkId listenAddr : String} {phase : ListenerPhase} {result : Except String Unit}
    {line : LogLine} :
    s.listeners[i]? = some ⟨linkId, listenAddr, .binding⟩ →
    ListenerCase ctx s i (.bind result)
      { s with listeners := s.listeners.set i ⟨linkId, listenAddr, phase⟩ } [.print line]
  | acceptFailed {linkId listenAddr e : String} :
    s.listeners[i]? = some ⟨linkId, listenAddr, .accepting⟩ →
    ListenerCase ctx s i (.accept (.error e)) s [.print (.acceptFailed linkId e)]
  | accepted {linkId listenAddr : String} {peerAddr : SocketAddr} {s' : State}
    {es : List Event} :
    s.listeners[i]? = some ⟨linkId, listenAddr, .accepting⟩ →
    DialCase ctx s ⟨linkId, .accepted peerAddr⟩ s' es →
    ListenerCase ctx s i (.accept (.ok peerAddr)) s' es

theorem runForwardListener_cases {i : ℕ} {a : ListenerAction}
    (h : runForwardListener ctx s i a = some (s', es)) : ListenerCase ctx s i a s' es := by
  unfold runForwardListener at h
  split at h
  case h_1 hi => cases h; exact .bound hi
  case h_2 hi => cases h; exact .bound hi
  case h_3 hi => cases h; exact .acceptFailed hi
  case h_4 linkId _ peerAddr hi =>
    have hcase := dial_cases ctx s ⟨linkId, .accepted peerAddr⟩
    rw [Option.some.inj h] at hcase
    exact .accepted hi hcase
  case h_5 => cases h

/-- The cases of a call of `handle_open_stream`. -/
inductive OpeningCase (ctx : Context) (s : State) (i : ℕ) :
    Except String Unit → State → List Event → Prop
  | failed {opening : Opening} {e : String} :
    s.openings[i]? = some opening →
    OpeningCase ctx s i (.error e) { s with openings := s.openings.eraseIdx i }
      [.print (.targetFailed opening.linkId opening.target e)]
  | opened {opening : Opening} {s₁ s' : State} {es : List Event} :
    s.openings[i]? = some opening → s₁ = { s with openings := s.openings.eraseIdx i } →
    DialCase ctx s₁ ⟨opening.linkId, .signalled opening.streamId opening.target⟩ s' es →
    OpeningCase ctx s i (.ok ()) s' es

theorem runOpening_cases {i : ℕ} {result : Except String Unit}
    (h : runOpening ctx s i result = some (s', es)) : OpeningCase ctx s i result s' es := by
  unfold runOpening at h
  split at h
  · cases h
  · rename_i linkId streamId target hi
    simp only at h
    split at h
    · cases h
      exact .failed hi
    · have hcase := dial_cases ctx { s with openings := s.openings.eraseIdx i }
        ⟨linkId, .signalled streamId target⟩
      rw [Option.some.inj h] at hcase
      exact .opened hi rfl hcase

/-- The cases of the control loop: what changes outside of `control`. -/
inductive ControlCase (ctx : Context) (s : State) : State → List Event → Prop
  | quiet {control : Control} {es : List Event} :
    (∀ e ∈ es, e ≠ .panicked ∧ ∀ stream, e ≠ .hello stream) →
    ControlCase ctx s { s with control := control } es
  | opening {linkId target : String} {streamId : UInt64} {opening : Opening} :
    Control.linkExpectsReverse ctx.config linkId = true → opening = ⟨linkId, streamId, target⟩ →
    ControlCase ctx s { s with openings := s.openings ++ [opening] }
      [.received (.openStream linkId streamId), .opening opening]

theorem runControlLoop_cases {a : ControlAction} (h : runControlLoop ctx s a = some (s', es)) :
    ControlCase ctx s s' es := by
  unfold runControlLoop at h
  simp only at h
  split at h
  case h_1 | h_3 | h_7 | h_8 | h_10 | h_11 | h_12 | h_4 =>
    cases h
    exact .quiet (by simp)
  case h_2 | h_5 | h_6 | h_13 =>
    split at h
    · cases h
      exact .quiet (by simp)
    · cases h <;> exact .quiet (by simp)
  case h_9 linkId streamId _ =>
    split at h
    · rename_i hreverse
      unfold handleOpenStream at h
      split at h
      · cases h
        exact .quiet (by simp)
      · split at h
        · cases h
          exact .quiet (by simp)
        · cases h
          exact .opening hreverse rfl
    · cases h
      exact .quiet (by simp)
  case h_14 => cases h

/-- The cases of a step, by group. -/
inductive StepCase (ctx : Context) (s : State) : Action → State → List Event → Prop
  | tick {now : Instant} : s.clock ≤ now → StepCase ctx s (.tick now) { s with clock := now } []
  | listener {i : ℕ} {a : ListenerAction} {s' : State} {es : List Event} :
    ListenerCase ctx s i a s' es → StepCase ctx s (.listener i a) s' es
  | opening {i : ℕ} {result : Except String Unit} {s' : State} {es : List Event} :
    OpeningCase ctx s i result s' es → StepCase ctx s (.opening i result) s' es
  | tunnel {i : ℕ} {a : TunnelAction} {s' : State} {es : List Event} :
    TunnelCase s i a s' es → StepCase ctx s (.tunnel i a) s' es
  | control {a : ControlAction} {s' : State} {es : List Event} :
    ControlCase ctx s s' es → StepCase ctx s (.control a) s' es

theorem step_cases {a : Action} (h : step ctx s a = some (s', es)) : StepCase ctx s a s' es := by
  match a with
  | .tick now =>
    simp only [step] at h
    split at h
    · rename_i hle
      cases h
      exact .tick hle
    · cases h
  | .listener i a => exact .listener (runForwardListener_cases h)
  | .opening i result => exact .opening (runOpening_cases h)
  | .tunnel i a => exact .tunnel (runTunnel_cases h)
  | .control a => exact .control (runControlLoop_cases h)

end Ghostport.Client
