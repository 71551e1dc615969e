import Ghostport.Server.Cases

/-!
# Access control on the TCP channels

Results:
* `accessInv_run`: every connection the server works with, from the end of its
  handshake on, was matched with a configured peer; and every relay was asked for
  by a hello that its peer is allowed, over a link of the right transport and mode.
* `refused_frame`: a refused hello changes no counter and no pending stream.
-/

namespace Ghostport.Server

open Ghostport.Core Ghostport.Net Ghostport.Lib

/-- The relay's hello names a TCP link of its peer, and fits the mode of the link. -/
def Relay.Allowed (ctx : Context) (r : Relay) : Prop :=
  r.hello.linkId ∈ r.tunnel.peer.links ∧
    ∃ link, ctx.config.links.find? (fun l => l.id = r.hello.linkId) = some link ∧
      r.linkId = link.id ∧ link.transport = .tcp ∧
      match r.other with
      | .target addr =>
        link.mode = .forward ∧ r.hello.streamId = none ∧ link.target = some addr
      | .external _ => link.mode = .reverse ∧ r.hello.streamId.isSome

theorem allowed_of_dial {ctx : Context} {stats : String → Option LinkStats}
    {tunnel : NoiseStream} {hello : StreamHello} {link : LinkConfig} {target : String}
    (h : checkHello ctx stats tunnel.peer hello = .dial link target) :
    Relay.Allowed ctx ⟨tunnel, hello, link.id, .target target⟩ := by
  obtain ⟨hlinks, hfind, htcp, -, hmode, hid, htarget⟩ := checkHello_dial_iff.mp h
  exact ⟨hlinks, link, hfind, rfl, htcp, hmode, hid, htarget⟩

theorem allowed_of_claim {ctx : Context} {stats : String → Option LinkStats}
    {tunnel : NoiseStream} {hello : StreamHello} {link : LinkConfig} {id : UInt64}
    (h : checkHello ctx stats tunnel.peer hello = .claim link id) (conn : ExternalConn) :
    Relay.Allowed ctx ⟨tunnel, hello, link.id, .external conn⟩ := by
  obtain ⟨hlinks, hfind, htcp, -, hmode, hid⟩ := checkHello_claim_iff.mp h
  exact ⟨hlinks, link, hfind, rfl, htcp, hmode, by simp [hid]⟩

/-- The handshake of `stream` on `channel` began with a message that the responder
    of its peer, a configured one, accepted. -/
def MatchedIn (ctx : Context) (tr : List Event) (channel : Channel) (stream : NoiseStream) :
    Prop :=
  ∃ message index state, .matched channel stream message ∈ tr ∧
    ctx.peers[index]? = some stream.peer ∧
    matchPeerBytes ctx.snow message ctx.privateKey ctx.peers = .ok (index, state)

theorem MatchedIn.append {ctx : Context} {tr : List Event} {channel : Channel}
    {stream : NoiseStream} (h : MatchedIn ctx tr channel stream) (es : List Event) :
    MatchedIn ctx (tr ++ es) channel stream := by
  obtain ⟨message, index, state, hm, hp, hb⟩ := h
  exact ⟨message, index, state, List.mem_append_left _ hm, hp, hb⟩

/-- The connections that the control loop has been handed. -/
def Control.streams (c : Control) : List NoiseStream :=
  c.handoffs ++ c.authenticated ++ (c.session.map ControlSession.stream).toList

/-- The connections whose data handler has matched a peer. -/
def Data.tunnels (d : Data) : List NoiseStream :=
  d.hellos.map AwaitingHello.tunnel ++ d.connecting.map Relay.tunnel ++ d.relays.map Relay.tunnel

theorem Control.mem_streams {c : Control} {stream : NoiseStream} :
    stream ∈ c.streams ↔ stream ∈ c.handoffs ∨ stream ∈ c.authenticated ∨
      ∃ session, c.session = some session ∧ session.stream = stream := by
  simp [Control.streams]

theorem Data.mem_tunnels {d : Data} {tunnel : NoiseStream} :
    tunnel ∈ d.tunnels ↔ (∃ h ∈ d.hellos, h.tunnel = tunnel) ∨
      (∃ r ∈ d.connecting, r.tunnel = tunnel) ∨ ∃ r ∈ d.relays, r.tunnel = tunnel := by
  simp [Data.tunnels]

/-- Every connection past its handshake was matched, and every relay is allowed. -/
structure AccessInv (ctx : Context) (s : State) (tr : List Event) : Prop where
  control : ∀ stream ∈ s.control.streams, MatchedIn ctx tr .control stream
  data : ∀ tunnel ∈ s.data.tunnels, MatchedIn ctx tr .data tunnel
  connected : ∀ stream, .connected stream ∈ tr → MatchedIn ctx tr .control stream
  connecting : ∀ r ∈ s.data.connecting, r.Allowed ctx
  dialed : ∀ r, .dialed r ∈ tr → r.Allowed ctx ∧ MatchedIn ctx tr .data r.tunnel
  started : ∀ r, .relayStarted r ∈ tr → r.Allowed ctx ∧ MatchedIn ctx tr .data r.tunnel

/-- The events that the invariant speaks about. -/
def Event.ofAccess : Event → Bool
  | .connected _ | .dialed _ | .relayStarted _ => true
  | _ => false

namespace AccessInv

variable {ctx : Context} {s s' : State} {tr es : List Event}

/-- A step that hands nothing over and starts nothing. -/
theorem frame (h : AccessInv ctx s tr) (hes : ∀ e ∈ es, e.ofAccess = false)
    (hcontrol : s'.control.streams ⊆ s.control.streams)
    (hdata : s'.data.tunnels ⊆ s.data.tunnels)
    (hconnecting : s'.data.connecting ⊆ s.data.connecting) : AccessInv ctx s' (tr ++ es) where
  control stream hm := (h.control stream (hcontrol hm)).append es
  data tunnel hm := (h.data tunnel (hdata hm)).append es
  connected stream hm := by
    rcases List.mem_append.mp hm with hm | hm
    · exact (h.connected stream hm).append es
    · exact absurd (hes _ hm) (by simp [Event.ofAccess])
  connecting r hr := h.connecting r (hconnecting hr)
  dialed r hr := by
    rcases List.mem_append.mp hr with hr | hr
    · exact ⟨(h.dialed r hr).1, (h.dialed r hr).2.append es⟩
    · exact absurd (hes _ hr) (by simp [Event.ofAccess])
  started r hr := by
    rcases List.mem_append.mp hr with hr | hr
    · exact ⟨(h.started r hr).1, (h.started r hr).2.append es⟩
    · exact absurd (hes _ hr) (by simp [Event.ofAccess])

theorem same (h : AccessInv ctx s tr) (hes : ∀ e ∈ es, e.ofAccess = false)
    (hcontrol : s'.control = s.control) (hdata : s'.data = s.data) :
    AccessInv ctx s' (tr ++ es) :=
  h.frame hes (by rw [hcontrol]; exact List.Subset.refl _)
    (by rw [hdata]; exact List.Subset.refl _) (by rw [hdata]; exact List.Subset.refl _)

theorem handshake (h : AccessInv ctx s tr) {channel : Channel} {i : ℕ}
    {outcome : HandshakeOutcome} (hst : HandshakeCase ctx s channel i outcome s' es) :
    AccessInv ctx s' (tr ++ es) := by
  cases hst with
  | timedOut _ _ hs =>
    subst hs
    exact h.same (by simp [Event.ofAccess]) rfl rfl
  | failed _ _ hs =>
    subst hs
    exact h.same (by simp [Event.ofAccess]) rfl rfl
  | @matched hs incoming reply peerIndex peer message s₁ hi hfuture hpeer hmessage hs₁ =>
    subst hs₁
    obtain ⟨message', state, hmessage', hbytes⟩ := handshakeFuture_ok hfuture
    obtain rfl : message' = message := by
      rw [hmessage] at hmessage'
      exact (Option.some.inj hmessage').symm
    have hnew : MatchedIn ctx (tr ++ [.matched channel ⟨hs.tcp, peer⟩ message']) channel
        ⟨hs.tcp, peer⟩ := ⟨message', peerIndex, state, by simp, hpeer, hbytes⟩
    have hold : AccessInv ctx s (tr ++ [.matched channel ⟨hs.tcp, peer⟩ message']) :=
      h.same (by simp [Event.ofAccess]) rfl rfl
    cases channel with
    | control =>
      refine { hold with control := fun stream hm => ?_ }
      have hcases : stream = ⟨hs.tcp, peer⟩ ∨ stream ∈ s.control.streams := by
        simp only [Control.mem_streams, State.handOver, State.setHandshakes, List.mem_append,
          List.mem_singleton] at hm ⊢
        tauto
      rcases hcases with rfl | hm
      · exact hnew
      · exact hold.control stream hm
    | data =>
      refine { hold with data := fun tunnel hm => ?_ }
      have hcases : tunnel = ⟨hs.tcp, peer⟩ ∨ tunnel ∈ s.data.tunnels := by
        simp only [Data.mem_tunnels, State.handOver, State.setHandshakes, List.mem_append,
          List.mem_singleton, or_and_right, exists_or, exists_eq_left] at hm ⊢
        rcases hm with (hm | hm) | hm
        · exact .inr (.inl hm)
        · exact .inl hm.symm
        · exact .inr (.inr hm)
      rcases hcases with rfl | hm
      · exact hnew
      · exact hold.data tunnel hm

theorem controlCase (h : AccessInv ctx s tr) {a : ControlAction} (hst : ControlCase s a s' es) :
    AccessInv ctx s' (tr ++ es) := by
  cases hst with
  | @handedOff i stream hi hroom =>
    refine h.frame (by simp) (fun st hm => ?_) (List.Subset.refl _) (List.Subset.refl _)
    have hmem : stream ∈ s.control.handoffs := List.mem_of_getElem? hi
    simp only [Control.mem_streams, List.mem_append, List.mem_singleton] at hm ⊢
    rcases hm with hm | (hm | rfl) | hm
    · exact .inl (List.mem_of_mem_eraseIdx hm)
    · exact .inr (.inl hm)
    · exact .inl hmem
    · exact .inr (.inr hm)
  | @connected nowUnix stream rest hs hrest =>
    have hmem : stream ∈ s.control.streams :=
      Control.mem_streams.mpr (.inr (.inl (by simp [hrest])))
    have hsub : ∀ st, st = stream ∨ st ∈ s.control.handoffs ∨ st ∈ rest →
        st ∈ s.control.streams := by
      rintro st (rfl | hm | hm)
      · exact hmem
      · exact Control.mem_streams.mpr (.inl hm)
      · exact Control.mem_streams.mpr (.inr (.inl (by simp [hrest, hm])))
    constructor
    · intro st hm
      refine (h.control st (hsub st ?_)).append _
      simp only [Control.mem_streams, Option.some.injEq, exists_eq_left'] at hm
      tauto
    · exact fun tunnel hm => (h.data tunnel hm).append _
    · intro st hm
      rcases List.mem_append.mp hm with hm | hm
      · exact (h.connected st hm).append _
      · obtain rfl : st = stream := by simpa using hm
        exact (h.control st hmem).append _
    · exact h.connecting
    · intro r hr
      obtain hr : .dialed r ∈ tr := by simpa using hr
      exact ⟨(h.dialed r hr).1, (h.dialed r hr).2.append _⟩
    · intro r hr
      obtain hr : .relayStarted r ∈ tr := by simpa using hr
      exact ⟨(h.started r hr).1, (h.started r hr).2.append _⟩
  | ping hs | took hs _ | wrotePong hs | wrote hs =>
    refine h.frame (by simp [Event.ofAccess]) (fun st hm => ?_) (List.Subset.refl _)
      (List.Subset.refl _)
    simp only [Control.mem_streams, State.setSession, Option.some.injEq, exists_eq_left'] at hm
    simp only [Control.mem_streams, hs, Option.some.injEq, exists_eq_left']
    exact hm
  | ignored hs _ => exact h.same (by simp) rfl rfl
  | readFailed hs | writeFailed hs _ =>
    refine h.frame (by simp [Event.ofAccess, endSession]) (fun st hm => ?_) (List.Subset.refl _)
      (List.Subset.refl _)
    simp only [Control.mem_streams, endSession, reduceCtorEq, false_and, exists_false,
      or_false] at hm ⊢
    tauto

/-- A hello or a relay ends: one connection fewer. -/
theorem fewer (h : AccessInv ctx s tr) (hes : ∀ e ∈ es, e.ofAccess = false)
    (hcontrol : s'.control = s.control) (hhellos : s'.data.hellos ⊆ s.data.hellos)
    (hconnecting : s'.data.connecting ⊆ s.data.connecting)
    (hrelays : s'.data.relays ⊆ s.data.relays) : AccessInv ctx s' (tr ++ es) := by
  refine h.frame hes (by rw [hcontrol]; exact List.Subset.refl _) (fun t hm => ?_) hconnecting
  rw [Data.mem_tunnels] at hm ⊢
  rcases hm with ⟨a, ha, rfl⟩ | ⟨r, hr, rfl⟩ | ⟨r, hr, rfl⟩
  · exact .inl ⟨a, hhellos ha, rfl⟩
  · exact .inr (.inl ⟨r, hconnecting hr, rfl⟩)
  · exact .inr (.inr ⟨r, hrelays hr, rfl⟩)

/-- A relay's target is dialed on a tunnel that was matched. -/
theorem dial (h : AccessInv ctx s tr) {r : Relay} (hallowed : r.Allowed ctx)
    (hmatched : MatchedIn ctx tr .data r.tunnel) :
    AccessInv ctx { s with data := { s.data with connecting := s.data.connecting ++ [r] } }
      (tr ++ [.dialed r]) where
  control st hm := (h.control st hm).append _
  data t hm := by
    simp only [Data.mem_tunnels, List.mem_append, List.mem_singleton, or_and_right, exists_or,
      exists_eq_left] at hm
    rcases hm with hm | (hm | rfl) | hm
    · exact (h.data t (Data.mem_tunnels.mpr (.inl hm))).append _
    · exact (h.data t (Data.mem_tunnels.mpr (.inr (.inl hm)))).append _
    · exact hmatched.append _
    · exact (h.data t (Data.mem_tunnels.mpr (.inr (.inr hm)))).append _
  connected st hm := (h.connected st (by simpa using hm)).append _
  connecting r' hr := by
    rcases List.mem_append.mp hr with hr | hr
    · exact h.connecting r' hr
    · rw [List.mem_singleton.mp hr]
      exact hallowed
  dialed r' hr := by
    rcases List.mem_append.mp hr with hr | hr
    · exact ⟨(h.dialed r' hr).1, (h.dialed r' hr).2.append _⟩
    · obtain rfl : r' = r := by simpa using hr
      exact ⟨hallowed, hmatched.append _⟩
  started r' hr := by
    obtain hr : .relayStarted r' ∈ tr := by simpa using hr
    exact ⟨(h.started r' hr).1, (h.started r' hr).2.append _⟩

/-- A relay starts on a tunnel that was matched. -/
theorem startRelay (h : AccessInv ctx s tr) {r : Relay} (hallowed : r.Allowed ctx)
    (hmatched : MatchedIn ctx tr .data r.tunnel) :
    AccessInv ctx (s.startRelay r) (tr ++ [.relayStarted r]) where
  control st hm := (h.control st hm).append _
  data t hm := by
    simp only [Data.mem_tunnels, State.startRelay, List.mem_append, List.mem_singleton,
      or_and_right, exists_or, exists_eq_left] at hm
    rcases hm with hm | hm | hm | rfl
    · exact (h.data t (Data.mem_tunnels.mpr (.inl hm))).append _
    · exact (h.data t (Data.mem_tunnels.mpr (.inr (.inl hm)))).append _
    · exact (h.data t (Data.mem_tunnels.mpr (.inr (.inr hm)))).append _
    · exact hmatched.append _
  connected st hm := (h.connected st (by simpa using hm)).append _
  connecting := h.connecting
  dialed r' hr := by
    obtain hr : .dialed r' ∈ tr := by simpa using hr
    exact ⟨(h.dialed r' hr).1, (h.dialed r' hr).2.append _⟩
  started r' hr := by
    rcases List.mem_append.mp hr with hr | hr
    · exact ⟨(h.started r' hr).1, (h.started r' hr).2.append _⟩
    · obtain rfl : r' = r := by simpa using hr
      exact ⟨hallowed, hmatched.append _⟩

theorem dataCase (h : AccessInv ctx s tr) {a : DataAction} (hst : DataCase ctx s a s' es) :
    AccessInv ctx s' (tr ++ es) := by
  have erase : ∀ {α : Type} (l : List α) (i : ℕ), l.eraseIdx i ⊆ l :=
    fun l i => List.eraseIdx_subset
  have tunnel : ∀ {i : ℕ} {hs : AwaitingHello}, s.data.hellos[i]? = some hs →
      MatchedIn ctx tr .data hs.tunnel :=
    fun hi => h.data _ (Data.mem_tunnels.mpr (.inl ⟨_, List.mem_of_getElem? hi, rfl⟩))
  -- the state once the task at `i` has left the list of those that wait for a hello
  have waited : ∀ i s₁, s₁ = { s with data := { s.data with hellos := s.data.hellos.eraseIdx i } } →
      AccessInv ctx s₁ tr := by
    rintro i s₁ hs₁
    have hleft : AccessInv ctx s₁ (tr ++ []) :=
      h.fewer (by simp) (by rw [hs₁]) (by rw [hs₁]; exact erase _ i)
        (by rw [hs₁]; exact List.Subset.refl _) (by rw [hs₁]; exact List.Subset.refl _)
    rwa [List.append_nil] at hleft
  cases hst with
  | helloTimedOut hi _ | helloFailed hi | refused hi _ | panicked hi _ | unknown hi _ _ =>
    exact h.fewer (by simp [Event.ofAccess]) rfl (erase _ _) (List.Subset.refl _)
      (List.Subset.refl _)
  | @dialed i hs hello link target relay hi hdial hrelay =>
    subst hrelay
    exact (waited i _ rfl).dial (allowed_of_dial hdial) (tunnel hi)
  | @claimed i hs hello link id conn relay s₁ hi hclaim hp hrelay hs₁ =>
    have hclaimed : AccessInv ctx (s₁.setPending id none) (tr ++ [.claimed relay id conn]) :=
      (waited i s₁ hs₁).same (by simp [Event.ofAccess]) rfl rfl
    have hmatched : MatchedIn ctx tr .data relay.tunnel := by
      rw [hrelay]
      exact tunnel hi
    have hallowed : relay.Allowed ctx := hrelay ▸ allowed_of_claim hclaim conn
    have hstarted := hclaimed.startRelay hallowed (hmatched.append _)
    rwa [List.append_assoc] at hstarted
  | connectFailed hi =>
    exact h.fewer (by simp [Event.ofAccess]) rfl (List.Subset.refl _) (erase _ _)
      (List.Subset.refl _)
  | @connected i relay s₁ hi hs₁ =>
    subst hs₁
    have hmem : relay ∈ s.data.connecting := List.mem_of_getElem? hi
    have hleft : AccessInv ctx
        { s with data := { s.data with connecting := s.data.connecting.eraseIdx i } } (tr ++ []) :=
      h.fewer (by simp) rfl (List.Subset.refl _) (erase _ i) (List.Subset.refl _)
    rw [List.append_nil] at hleft
    exact hleft.startRelay (h.connecting relay hmem)
      (h.data _ (Data.mem_tunnels.mpr (.inr (.inl ⟨relay, hmem, rfl⟩))))
  | relayEnded hi =>
    exact h.fewer (by simp [Event.ofAccess]) rfl (List.Subset.refl _) (List.Subset.refl _)
      (erase _ _)

theorem step (h : AccessInv ctx s tr) {a : Action} (hst : Server.step ctx s a = some (s', es)) :
    AccessInv ctx s' (tr ++ es) := by
  cases step_cases hst with
  | tick hle => exact h.same (by simp) rfl rfl
  | listener hc =>
    cases hc <;> (subst_vars; exact h.same (by simp [Event.ofAccess]) rfl rfl)
  | cleanup hc =>
    cases hc <;> (subst_vars; exact h.same (by simp [Event.ofAccess]) rfl rfl)
  | accept hc => cases hc <;> exact h.same (by simp [Event.ofAccess]) rfl rfl
  | handshake hc => exact h.handshake hc
  | control hc => exact h.controlCase hc
  | data hc => exact h.dataCase hc

end AccessInv

variable {ctx : Context} {C : State → Action → Prop} {as : List Action} {s : State}
  {tr : List Event}

theorem accessInv_run (h : ServerRun ctx C as s tr) : AccessInv ctx s tr := by
  refine h.invariant (I := AccessInv ctx) ?_ fun _ _ _ _ _ hi _ hst => hi.step hst
  intro clock s₀ hstart
  obtain ⟨-, -, -, -, -, -, -, -, -, -, hcontrol, hdata⟩ := start_spec hstart
  constructor <;> simp [hcontrol, hdata, Control.streams, Data.tunnels]

/-! ## Refused hellos -/

/-- A step that refuses a hello changes no counter and no pending stream. -/
theorem refused_frame {s' : State} {a : Action} {es : List Event} {tunnel : NoiseStream}
    {hello : StreamHello} (hst : step ctx s a = some (s', es))
    (hrefused : .refused tunnel hello ∈ es) :
    s'.data.stats = s.data.stats ∧ s'.reverse.pending = s.reverse.pending := by
  cases step_cases hst with
  | tick hle => simp at hrefused
  | listener hc => cases hc <;> simp at hrefused
  | cleanup hc => cases hc <;> simp at hrefused
  | accept hc => cases hc <;> simp at hrefused
  | handshake hc => cases hc <;> simp at hrefused
  | control hc => cases hc <;> simp [endSession] at hrefused
  | data hc =>
    cases hc with
    | refused hi hv => exact ⟨rfl, rfl⟩
    | unknown hi hv hp => exact ⟨rfl, rfl⟩
    | _ => simp at hrefused

/-- The hello names a TCP link of the peer, and has a stream id exactly if the link is
    a reverse link. -/
def HelloFits (config : Config) (peer : ResolvedPeer) (hello : StreamHello) : Prop :=
  hello.linkId ∈ peer.links ∧
    ∃ link ∈ config.links, link.id = hello.linkId ∧ link.transport = .tcp ∧
      (link.mode = .reverse ↔ hello.streamId.isSome)

theorem checkHello_of_not_fits {stats : String → Option LinkStats} {peer : ResolvedPeer}
    {hello : StreamHello} (hstats : ∀ link ∈ ctx.config.links, (stats link.id).isSome)
    (h : ¬ HelloFits ctx.config peer hello) : ∃ e, checkHello ctx stats peer hello = .refuse e := by
  unfold checkHello
  split
  · exact ⟨_, rfl⟩
  · rename_i hlinks
    split
    · exact ⟨_, rfl⟩
    · rename_i link hfind
      have hmem : link ∈ ctx.config.links := List.mem_of_find?_eq_some hfind
      have hid : link.id = hello.linkId := by simpa using List.find?_some hfind
      split
      · exact ⟨_, rfl⟩
      · rename_i htcp
        rw [not_not] at hlinks htcp
        have hmismatch : ¬ (link.mode = .reverse ↔ hello.streamId.isSome) :=
          fun hiff => h ⟨hlinks, link, hmem, hid, htcp, hiff⟩
        rw [Option.isNone_eq_false_iff.mpr (hstats link hmem)]
        split
        · rename_i hfalse
          cases hfalse
        · split
          · rename_i hmode hstream
            exact absurd (by simp [hmode, hstream]) hmismatch
          · rename_i hmode hstream
            exact absurd (by simp [hmode, hstream]) hmismatch
          · exact ⟨_, rfl⟩

/-- A hello that does not fit is refused. -/
theorem refused_of_not_fits {s' : State} {i : ℕ} {hello : StreamHello} {h : AwaitingHello}
    {es : List Event} (hstats : ∀ link ∈ ctx.config.links, (s.data.stats link.id).isSome)
    (hi : s.data.hellos[i]? = some h) (hfits : ¬ HelloFits ctx.config h.tunnel.peer hello)
    (hst : step ctx s (.data (.hello i (.received hello))) = some (s', es)) :
    .refused h.tunnel hello ∈ es := by
  obtain ⟨e, he⟩ := checkHello_of_not_fits hstats hfits
  simp only [step, handleDataConnection, hi, he, Option.some.injEq, Prod.mk.injEq] at hst
  rw [← hst.2]
  simp

end Ghostport.Server
