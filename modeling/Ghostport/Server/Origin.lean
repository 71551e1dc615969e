import Ghostport.Server.Expiry
import Ghostport.Server.Streams

/-!
# Where relays and signals come from

Results:
* `originInv_run`: a relay was asked for by a hello, and one of an external connection by the
  hello that claimed it.
* `writing_owned`: a signal that is written is for a connection that the listener of its link
  has accepted.
-/

namespace Ghostport.Server

open Ghostport.Core Ghostport.Net Ghostport.Lib

variable {ctx : Context} {C : State → Action → Prop} {as : List Action} {s s' : State}
  {tr es : List Event}

/-! ## Relays -/

/-- The hello of the relay was received: it had its target dialed, or claimed its connection. -/
def Relay.AskedFor (tr : List Event) (relay : Relay) : Prop :=
  match relay.other with
  | .target _ => .dialed relay ∈ tr
  | .external conn => ∃ streamId, .claimed relay streamId conn ∈ tr

theorem Relay.AskedFor.mono {relay : Relay} (h : relay.AskedFor tr) (es : List Event) :
    relay.AskedFor (tr ++ es) := by
  unfold Relay.AskedFor at *
  split at h
  · exact List.mem_append_left _ h
  · obtain ⟨streamId, hmem⟩ := h
    exact ⟨streamId, List.mem_append_left _ hmem⟩

structure OriginInv (s : State) (tr : List Event) : Prop where
  connecting : ∀ r ∈ s.data.connecting, r.AskedFor tr
  started : ∀ r, .relayStarted r ∈ tr → r.AskedFor tr

namespace OriginInv

/-- A step that starts no relay. -/
theorem frame (h : OriginInv s tr) (hes : ∀ r, .relayStarted r ∉ es)
    (hconnecting : ∀ r ∈ s'.data.connecting, r.AskedFor (tr ++ es)) :
    OriginInv s' (tr ++ es) := by
  refine ⟨hconnecting, ?_⟩
  intro r hr
  rcases List.mem_append.mp hr with hr | hr
  · exact (h.started r hr).mono es
  · exact absurd hr (hes r)

theorem same (h : OriginInv s tr) (hes : ∀ r, .relayStarted r ∉ es)
    (hdata : s'.data.connecting = s.data.connecting) : OriginInv s' (tr ++ es) := by
  apply h.frame hes
  intro r hr
  rw [hdata] at hr
  exact (h.connecting r hr).mono es

theorem data (h : OriginInv s tr) {a : DataAction} (hst : DataCase ctx s a s' es) :
    OriginInv s' (tr ++ es) := by
  cases hst with
  | @dialed i hello h' link target relay hi hv hrelay =>
    apply h.frame (by simp)
    intro r hr
    rcases List.mem_append.mp hr with hr | hr
    · exact (h.connecting r hr).mono _
    · rw [List.mem_singleton.mp hr, hrelay]
      show Event.dialed _ ∈ _
      simp
  | @claimed i h' hello link streamId conn relay s₁ hi hv hp hrelay hs₁ =>
    subst hs₁
    have hnew : relay.AskedFor (tr ++ [.claimed relay streamId conn, .relayStarted relay]) := by
      rw [hrelay]
      exact ⟨streamId, by simp⟩
    refine ⟨?_, ?_⟩
    · intro r hr
      exact (h.connecting r hr).mono _
    · intro r hr
      rcases List.mem_append.mp hr with hr | hr
      · exact (h.started r hr).mono _
      · obtain rfl : r = relay := by simpa using hr
        exact hnew
  | connectFailed hi =>
    apply h.frame (by simp)
    intro r hr
    exact (h.connecting r (List.mem_of_mem_eraseIdx hr)).mono _
  | @connected i relay s₁ hi hs₁ =>
    subst hs₁
    refine ⟨?_, ?_⟩
    · intro r hr
      exact (h.connecting r (List.mem_of_mem_eraseIdx hr)).mono _
    · intro r hr
      rcases List.mem_append.mp hr with hr | hr
      · exact (h.started r hr).mono _
      · obtain rfl : r = relay := by simpa using hr
        exact (h.connecting r (List.mem_of_getElem? hi)).mono _
  | _ => exact h.same (by simp) rfl

theorem step (h : OriginInv s tr) {a : Action} (hst : Server.step ctx s a = some (s', es)) :
    OriginInv s' (tr ++ es) := by
  cases step_cases hst with
  | tick hle => exact h.same (by simp) rfl
  | listener hc => cases hc <;> (subst_vars; exact h.same (by simp) rfl)
  | cleanup hc => cases hc <;> (subst_vars; exact h.same (by simp) rfl)
  | accept hc => cases hc <;> exact h.same (by simp) rfl
  | handshake hc =>
    have hquiet := hc.quiet
    apply h.same _ hquiet.2.1
    intro r hr
    exact absurd (hquiet.2.2 _ hr) (by simp [Event.ofStream])
  | control hc =>
    have hquiet := hc.quiet
    apply h.same _ (by rw [hquiet.2.1])
    intro r hr
    exact absurd (hquiet.2.2 _ hr) (by simp [Event.ofStream])
  | data hc => exact h.data hc

end OriginInv

theorem originInv_run (h : ServerRun ctx C as s tr) : OriginInv s tr := by
  refine h.invariant (I := OriginInv) ?_ fun _ _ _ _ _ hi _ hst => hi.step hst
  intro clock s₀ hstart
  obtain ⟨-, -, -, -, -, -, -, -, -, -, -, hdata⟩ := start_spec hstart
  exact ⟨by simp [hdata], by simp⟩

/-! ## Signals -/

/-- A listener queues signals only for the connections that it has accepted. -/
theorem signalled_owned (h : ServerRun ctx C as s tr) (hlt : (acceptedIn tr).length < 2 ^ 64) :
    ∀ linkId streamId, .signalled linkId streamId ∈ tr →
      ∃ conn, (streamId, conn) ∈ acceptedIn tr ∧ conn.listener = linkId := by
  obtain ⟨clock, s₀, hstart, hrun⟩ := h
  induction hrun with
  | nil => simp
  | @snoc as s s' tr es a hr _ hst ih =>
    rw [acceptedIn_append, List.length_append] at hlt
    intro linkId streamId hmem
    rw [acceptedIn_append]
    rcases List.mem_append.mp hmem with hmem | hmem
    · obtain ⟨conn, hconn, hlistener⟩ := ih (by omega) linkId streamId hmem
      exact ⟨conn, List.mem_append_left _ hconn, hlistener⟩
    · obtain ⟨l, hl, rfl, peerAddr, hphase⟩ := sending_of_signalled hst hmem
      have hrun : ServerRun ctx C as s tr := ⟨clock, s₀, hstart, hr⟩
      have howns := (streamInv_run hrun (by omega)).1.owns l hl
      unfold ReverseListener.Owns at howns
      rw [hphase] at howns
      obtain ⟨conn, hconn, hlistener⟩ := howns
      exact ⟨conn, List.mem_append_left _ hconn, hlistener⟩

theorem writing_owned (h : ServerRun ctx C as s tr) (hlt : (acceptedIn tr).length < 2 ^ 64)
    {stream : NoiseStream} {linkId : String} {streamId : UInt64}
    (hmem : .writing stream (.openStream linkId streamId) ∈ tr) :
    ∃ conn, (streamId, conn) ∈ acceptedIn tr ∧ conn.listener = linkId := by
  have htaken : .openStream linkId streamId ∈ takenIn tr :=
    List.mem_filterMap.mpr ⟨_, hmem, rfl⟩
  have hsignalled : .openStream linkId streamId ∈ signalledIn tr := by
    rw [(signalInv_run h).queue]
    exact List.mem_append_left _ htaken
  obtain ⟨e, he, heq⟩ := List.mem_filterMap.mp hsignalled
  split at heq
  · cases heq
    exact signalled_owned h hlt linkId streamId he
  · cases heq

end Ghostport.Server
