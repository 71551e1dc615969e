import Ghostport.Core.Wire
import Ghostport.Udp.Survival

/-!
# The link of a UDP session and the link of its flow

The hello of a flow is one datagram among its others, and a session takes whatever datagram
comes first as its hello.

Results:
* `boundInv_run`, `bound_to_link`: a session serves the link of its flow if the hello comes
  first, or what comes first does not read as a hello.
* `strayPayload_bound`: with a lost hello and a payload that reads as one, it serves another.
-/

namespace Ghostport.System

open Ghostport.Core Ghostport.Net Ghostport.Lib Ghostport.Udp

/-! ## A flow over the network -/

section

variable (ctx : Udp.Context) (keys : ctx.snowstorm.Transport)
  (encrypt : ℕ → List UInt8 → List UInt8) (msgs : List (List UInt8)) (serial : ℕ)

/-- The network between a flow that sends `msgs` and the session `serial`: what arrives for the
    session is datagrams of the flow, in any order and any number; the keys are the session's. -/
def FromFlow (s : Udp.State ctx.snowstorm.Transport) :
    Udp.Action ctx.snowstorm.Transport → Prop
  | .demux (.recv (.ok (src, datagram))) =>
    s.sessions src = some serial → ∃ m ∈ msgs.zipIdx, datagram = encrypt m.2 m.1
  | .session i (.handshake (.ok transport)) =>
    ∀ session ∈ s.tasks[i]?, session.party.serial = serial → transport = keys
  | _ => True

/-- The payload is a hello of a UDP forward link that the peer has. -/
def ReadsAsHello (peer : ResolvedPeer) (payload : List UInt8) : Prop :=
  ∃ hello ∈ (ctx.json.fromSlice payload).toOption,
    ∃ link ∈ ctx.config.links.find? fun l => l.id = hello.linkId,
      link.transport = .udp ∧ link.mode = .forward ∧ link.id ∈ peer.links

def awaitsHello {T : Type} : SessionPhase T → Bool
  | .awaitingHello _ _ => true
  | _ => false

/-- The first datagram that the session takes carries the hello of the flow, or a payload that
    does not read as a hello. -/
def HelloFirst (s : Udp.State ctx.snowstorm.Transport) :
    Udp.Action ctx.snowstorm.Transport → Prop
  | .session i .recv =>
    ∀ session ∈ s.tasks[i]?, session.party.serial = serial → awaitsHello session.phase = true →
      ∀ datagram ∈ session.inbound.head?, ∀ m ∈ msgs.zipIdx, datagram = encrypt m.2 m.1 →
        m.2 = 0 ∨ ¬ ReadsAsHello ctx session.party.peer m.1
  | _ => True

end

instance (ctx : Udp.Context) (peer : ResolvedPeer) (payload : List UInt8) :
    Decidable (ReadsAsHello ctx peer payload) :=
  inferInstanceAs (Decidable (∃ hello ∈ (ctx.json.fromSlice payload).toOption,
    ∃ link ∈ ctx.config.links.find? fun l => l.id = hello.linkId,
      link.transport = .udp ∧ link.mode = .forward ∧ link.id ∈ peer.links))

instance (ctx : Udp.Context) [DecidableEq ctx.snowstorm.Transport]
    (keys : ctx.snowstorm.Transport) (encrypt : ℕ → List UInt8 → List UInt8)
    (msgs : List (List UInt8)) (serial : ℕ) (s : Udp.State ctx.snowstorm.Transport)
    (a : Udp.Action ctx.snowstorm.Transport) :
    Decidable (FromFlow ctx keys encrypt msgs serial s a) :=
  match a with
  | .demux (.recv (.ok (src, datagram))) =>
    inferInstanceAs (Decidable (s.sessions src = some serial →
      ∃ m ∈ msgs.zipIdx, datagram = encrypt m.2 m.1))
  | .session i (.handshake (.ok transport)) =>
    inferInstanceAs (Decidable (∀ session ∈ s.tasks[i]?, session.party.serial = serial →
      transport = keys))
  | .tick _ | .demux (.bind _) | .demux (.recv (.error _)) | .demux (.acquire _ _)
  | .demux .insert | .session _ (.handshake (.error _)) | .session _ .recv
  | .session _ .helloTimeout | .session _ (.bind _) | .session _ (.connect _)
  | .session _ (.target _) | .session _ .idle | .session _ .remove => .isTrue trivial

instance (ctx : Udp.Context) (encrypt : ℕ → List UInt8 → List UInt8) (msgs : List (List UInt8))
    (serial : ℕ) (s : Udp.State ctx.snowstorm.Transport)
    (a : Udp.Action ctx.snowstorm.Transport) :
    Decidable (HelloFirst ctx encrypt msgs serial s a) :=
  match a with
  | .session i .recv =>
    inferInstanceAs (Decidable (∀ session ∈ s.tasks[i]?, session.party.serial = serial →
      awaitsHello session.phase = true → ∀ datagram ∈ session.inbound.head?,
        ∀ m ∈ msgs.zipIdx, datagram = encrypt m.2 m.1 →
          m.2 = 0 ∨ ¬ ReadsAsHello ctx session.party.peer m.1))
  | .tick _ | .demux _ | .session _ (.handshake _) | .session _ .helloTimeout
  | .session _ (.bind _) | .session _ (.connect _) | .session _ (.target _) | .session _ .idle
  | .session _ .remove => .isTrue trivial

/-- What the session `serial` reaches is a target of the link `linkId`. -/
def OnLink (serial : ℕ) (linkId : String) : Udp.Event → Prop
  | .dialed party link _ | .toTarget party link _ _ | .toPeer party link _ _ =>
    party.serial = serial → link.id = linkId
  | _ => True

/-! ## What is received -/

theorem receivedIn_append (serial : ℕ) (seen new : List (Seen Party Udp.Event)) :
    receivedIn serial (seen ++ new) = receivedIn serial seen ++ receivedIn serial new := by
  rw [receivedIn, List.filterMap_append, Demux.tookIn_append]
  rfl

theorem receivedIn_events (serial : ℕ) (es : List Udp.Event) :
    receivedIn serial (es.map .event) = [] := by
  refine List.eq_nil_iff_forall_not_mem.mpr fun datagram hm => ?_
  obtain ⟨x, hx, heq⟩ := List.mem_filterMap.mp (Demux.mem_of_tookIn hm)
  obtain ⟨e, -, rfl⟩ := List.mem_map.mp hx
  cases e <;> cases heq

theorem receivedIn_took {party : Party} {datagram : List UInt8} {es : List Udp.Event} :
    receivedIn party.serial (.took party datagram :: es.map .event) = [datagram] := by
  have hcons : (.took party datagram :: es.map Seen.event : List (Seen Party Udp.Event)) =
      [.took party datagram] ++ es.map .event := rfl
  rw [hcons, receivedIn_append, receivedIn_events]
  simp [receivedIn, Seen.demux, Demux.tookIn]

theorem receivedIn_other {T : Type} {s : Udp.State T} {i serial : ℕ} {session : Session T}
    {a : SessionAction T} {es : List Udp.Event} (hi : s.tasks[i]? = some session)
    (hne : session.party.serial ≠ serial) :
    receivedIn serial (observed s (.session i a) es) = [] := by
  by_cases ha : a = .recv
  · subst ha
    cases hinbound : session.inbound with
    | nil =>
      rw [observed_recv_nil hi hinbound]
      exact receivedIn_events serial es
    | cons datagram rest =>
      have hcons : observed s (.session i .recv) es =
          [.took session.party datagram] ++ es.map .event := observed_recv hi hinbound
      rw [hcons, receivedIn_append, receivedIn_events]
      simp [receivedIn, Seen.demux, Demux.tookIn, hne]
  · rw [observed_of_ne_recv ha]
    exact receivedIn_events serial es

/-! ## The invariant -/

variable {ctx : Udp.Context} {keys : ctx.snowstorm.Transport}
  {encrypt : ℕ → List UInt8 → List UInt8} {msgs : List (List UInt8)} {serial : ℕ} {linkId : String}

/-- The events of a session are not those of another. -/
theorem onLink_other {session session' : Session ctx.snowstorm.Transport} {clock : Instant}
    {alive : Bool} {a : SessionAction ctx.snowstorm.Transport} {es : List Udp.Event}
    (h : SessionCase clock alive session a session' es) (hne : session.party.serial ≠ serial) :
    ∀ e ∈ es, OnLink serial linkId e := by
  cases h <;> simp [OnLink, hne]

/-- The session serves the link `linkId`, if any; `received` is what it has received. -/
structure SessionOk (ctx : Udp.Context) (keys : ctx.snowstorm.Transport)
    (encrypt : ℕ → List UInt8 → List UInt8) (msgs : List (List UInt8)) (linkId : String)
    (session : Session ctx.snowstorm.Transport) (received : List (List UInt8)) : Prop where
  queue : ∀ datagram ∈ session.inbound, ∃ m ∈ msgs.zipIdx, datagram = encrypt m.2 m.1
  keys : ∀ transport, session.phase.transport = some transport → transport = keys
  fresh : session.phase.over = false → session.phase.link = none → received = []
  link : ∀ link target, session.phase.link = some (link, target) → link.id = linkId ∧
    ∃ m, msgs[0]? = some m ∧ received.head? = some (encrypt 0 m)

namespace SessionOk

variable {session session' : Session ctx.snowstorm.Transport} {received : List (List UInt8)}

/-- A task that is over. -/
theorem of_over (hover : session.phase.over = true) (hinbound : session.inbound = []) :
    SessionOk ctx keys encrypt msgs linkId session received := by
  obtain ⟨party, inbound, phase⟩ := session
  obtain rfl : inbound = [] := hinbound
  cases phase with
  | ended | panicked =>
    refine ⟨by simp, fun _ ht => ?_, fun ho _ => ?_, fun _ _ hl => ?_⟩
    · cases ht
    · cases ho
    · cases hl
  | handshaking | awaitingHello _ _ | binding _ _ _ | connecting _ _ _ | relaying _ _ _ _ =>
    cases hover

/-- A session goes on with its link. -/
theorem serves (h : SessionOk ctx keys encrypt msgs linkId session received)
    {link : LinkConfig} {target : String} {new : List (List UInt8)}
    (hlink : session.phase.link = some (link, target))
    (hlink' : session'.phase.link = session.phase.link)
    (htransport : session'.phase.transport = session.phase.transport)
    (hinbound : ∀ datagram ∈ session'.inbound, datagram ∈ session.inbound) :
    SessionOk ctx keys encrypt msgs linkId session' (received ++ new) := by
  refine ⟨fun datagram hd => h.queue datagram (hinbound datagram hd), fun transport ht => ?_,
    fun _ hnone => ?_, fun link' target' hl => ?_⟩
  · rw [htransport] at ht
    exact h.keys transport ht
  · rw [hlink', hlink] at hnone
    cases hnone
  · rw [hlink'] at hl
    obtain ⟨hid, m, hmsg, hhead⟩ := h.link link' target' hl
    refine ⟨hid, m, hmsg, ?_⟩
    rw [List.head?_append, hhead]
    rfl

/-- What the session takes as its hello reads as one, so it is the first message of the flow. -/
theorem hello_first (h : SessionOk ctx keys encrypt msgs linkId session received)
    (hkeys : ∀ k m, ctx.snowstorm.decrypt keys (encrypt k m) = .ok m)
    {s : Udp.State ctx.snowstorm.Transport} {i : ℕ} {transport : ctx.snowstorm.Transport}
    {deadline : Instant} {datagram bytes : List UInt8} {rest : List (List UInt8)}
    {hello : StreamHello} {link : LinkConfig} {target : String}
    (hi : s.tasks[i]? = some session) (hserial : session.party.serial = serial)
    (hphase : session.phase = .awaitingHello transport deadline)
    (hinbound : session.inbound = datagram :: rest)
    (hok : ctx.snowstorm.decrypt transport datagram = .ok bytes)
    (hjson : ctx.json.fromSlice bytes = .ok hello)
    (hcheck : checkHello ctx session.party hello = .bind link target)
    (hfirst : HelloFirst ctx encrypt msgs serial s (.session i .recv)) :
    msgs[0]? = some bytes ∧ datagram = encrypt 0 bytes := by
  obtain rfl : transport = keys := h.keys transport (by rw [hphase]; rfl)
  obtain ⟨⟨m, k⟩, hm, hdatagram⟩ := h.queue datagram (by rw [hinbound]; exact List.mem_cons_self)
  obtain rfl : m = bytes := by
    rw [hdatagram, hkeys] at hok
    exact Except.ok.inj hok
  have hreads : ReadsAsHello ctx session.party.peer m := by
    obtain ⟨hfind, htransport, hmode, hlinks, -⟩ := checkHello_bind hcheck
    exact ⟨hello, by rw [hjson]; rfl, link, hfind, htransport, hmode, hlinks⟩
  obtain hzero | hnot := hfirst session hi hserial (by rw [hphase]; rfl) datagram
    (by rw [hinbound]; rfl) (m, k) hm hdatagram
  · obtain rfl : k = 0 := hzero
    exact ⟨List.mk_mem_zipIdx_iff_getElem?.mp hm, hdatagram⟩
  · exact absurd hreads hnot

/-- A step of the session. -/
theorem step (h : SessionOk ctx keys encrypt msgs linkId session received)
    (hkeys : ∀ k m, ctx.snowstorm.decrypt keys (encrypt k m) = .ok m)
    (hhello : ∀ m, msgs[0]? = some m → ctx.json.fromSlice m = .ok ⟨linkId, none⟩)
    {s : Udp.State ctx.snowstorm.Transport} {i : ℕ} {clock : Instant} {alive : Bool}
    {a : SessionAction ctx.snowstorm.Transport} {es : List Udp.Event}
    (hi : s.tasks[i]? = some session) (hserial : session.party.serial = serial)
    (hcase : SessionCase clock alive session a session' es)
    (hflow : FromFlow ctx keys encrypt msgs serial s (.session i a))
    (hfirst : HelloFirst ctx encrypt msgs serial s (.session i a)) :
    SessionOk ctx keys encrypt msgs linkId session'
        (received ++ receivedIn serial (observed s (.session i a) es)) ∧
      ∀ e ∈ es, OnLink serial linkId e := by
  have ended : ∀ {received}, SessionOk ctx keys encrypt msgs linkId session.stop received :=
    of_over rfl rfl
  cases hcase with
  | stopped _ _ => exact ⟨ended, by simp [OnLink]⟩
  | cutOff _ _ _ => exact ⟨ended, by simp [OnLink]⟩
  | garbled _ _ _ => exact ⟨ended, by simp [OnLink]⟩
  | refused _ _ _ _ => exact ⟨ended, by simp [OnLink]⟩
  | panicked _ _ _ _ _ => exact ⟨of_over rfl rfl, by simp [OnLink]⟩
  | @handshaken transport hphase =>
    refine ⟨⟨h.queue, fun transport' heq => ?_, fun _ _ => ?_, fun _ _ hl => ?_⟩, by simp⟩
    · cases heq
      exact hflow session hi hserial
    · rw [h.fresh (by rw [hphase]; rfl) (by rw [hphase]; rfl)]
      rfl
    · cases hl
  | @bound transport deadline datagram bytes rest hello link target hphase hinbound hok hjson
      hcheck =>
    obtain ⟨hmsg, hdatagram⟩ := h.hello_first hkeys hi hserial hphase hinbound hok hjson hcheck
      hfirst
    have hnone : received = [] := h.fresh (by rw [hphase]; rfl) (by rw [hphase]; rfl)
    obtain rfl : hello = ⟨linkId, none⟩ := by
      rw [hhello bytes hmsg] at hjson
      exact (Except.ok.inj hjson).symm
    refine ⟨⟨fun d hd => ?_, fun transport' heq => ?_, fun _ hl => ?_, fun link' target' heq => ?_⟩,
      by simp⟩
    · refine h.queue d ?_
      rw [hinbound]
      exact List.mem_cons_of_mem _ hd
    · cases heq
      exact h.keys transport (by rw [hphase]; rfl)
    · cases hl
    · cases heq
      refine ⟨?_, bytes, hmsg, ?_⟩
      · obtain ⟨hfind, -⟩ := checkHello_bind hcheck
        simpa using List.find?_some hfind
      · rw [hnone, observed_recv hi hinbound, ← hserial, ← hdatagram, receivedIn_took]
        rfl
  | @dialed transport link target hphase =>
    have hl : session.phase.link = some (link, target) := by rw [hphase]; rfl
    exact ⟨h.serves hl (by rw [hphase]; rfl) (by rw [hphase]; rfl) fun _ hd => hd,
      by simp [OnLink, (h.link link target hl).1]⟩
  | @opened transport link target line hphase =>
    have hl : session.phase.link = some (link, target) := by rw [hphase]; rfl
    exact ⟨h.serves hl (by rw [hphase]; rfl) (by rw [hphase]; rfl) fun _ hd => hd,
      by simp [OnLink]⟩
  | @relayed transport link target deadline datagram payload rest hphase hinbound hok =>
    have hl : session.phase.link = some (link, target) := by rw [hphase]; rfl
    refine ⟨h.serves hl (by rw [hphase]; rfl) (by rw [hphase]; rfl) fun d hd => ?_,
      by simp [OnLink, (h.link link target hl).1]⟩
    rw [hinbound]
    exact List.mem_cons_of_mem _ hd
  | @answered transport link target deadline payload hphase =>
    have hl : session.phase.link = some (link, target) := by rw [hphase]; rfl
    exact ⟨h.serves hl (by rw [hphase]; rfl) (by rw [hphase]; rfl) fun _ hd => hd,
      by simp [OnLink, (h.link link target hl).1]⟩

end SessionOk

/-- The session `serial` and what it reaches. -/
structure BoundInv (ctx : Udp.Context) (keys : ctx.snowstorm.Transport)
    (encrypt : ℕ → List UInt8 → List UInt8) (msgs : List (List UInt8)) (serial : ℕ)
    (linkId : String) (s : Udp.State ctx.snowstorm.Transport)
    (seen : List (Seen Party Udp.Event)) : Prop where
  tasks : ∀ session ∈ s.tasks, session.party.serial = serial →
    SessionOk ctx keys encrypt msgs linkId session (receivedIn serial seen)
  events : ∀ e, .event e ∈ seen → OnLink serial linkId e

namespace BoundInv

variable {s s' : Udp.State ctx.snowstorm.Transport} {seen new : List (Seen Party Udp.Event)}

/-- A step in which nothing is received. -/
theorem frame (h : BoundInv ctx keys encrypt msgs serial linkId s seen)
    (hreceived : receivedIn serial new = [])
    (hevents : ∀ e, .event e ∈ new → OnLink serial linkId e)
    (htasks : ∀ session ∈ s'.tasks, session.party.serial = serial →
      SessionOk ctx keys encrypt msgs linkId session (receivedIn serial seen)) :
    BoundInv ctx keys encrypt msgs serial linkId s' (seen ++ new) where
  tasks session hm heq := by
    rw [receivedIn_append, hreceived, List.append_nil]
    exact htasks session hm heq
  events e hm := (List.mem_append.mp hm).elim (h.events e) (hevents e)

theorem demux (h : BoundInv ctx keys encrypt msgs serial linkId s seen)
    (hd : Demux.Inv s.demuxer (seen.filterMap Seen.demux)) {a : DemuxAction}
    {es : List Udp.Event} (hcase : DemuxCase s a s' es)
    (hflow : FromFlow ctx keys encrypt msgs serial s (.demux a)) :
    BoundInv ctx keys encrypt msgs serial linkId s' (seen ++ observed s (.demux a) es) := by
  cases hcase with
  | bound _ _ hprint =>
    refine h.frame (receivedIn_events serial es) (fun e hm => ?_) h.tasks
    obtain ⟨e', he', heq⟩ := List.mem_map.mp hm
    cases heq
    obtain ⟨line, rfl⟩ := hprint e he'
    trivial
  | failed _ => exact h.frame rfl (by simp [observed]) h.tasks
  | @routed src datagram serial' _ hentry =>
    refine h.frame rfl (by simp [observed]) fun session hm heq => ?_
    obtain ⟨session₀, hm₀, hparty, hphase, hinbound⟩ := of_mem_route hm
    have hok := h.tasks session₀ hm₀ (by rw [← hparty, heq])
    refine ⟨fun d hd => ?_, by rw [hphase]; exact hok.keys, by rw [hphase]; exact hok.fresh,
      by rw [hphase]; exact hok.link⟩
    obtain hsame | ⟨hserial, hgrown⟩ := hinbound
    · exact hok.queue d (by rw [← hsame]; exact hd)
    · rw [hgrown] at hd
      rcases List.mem_append.mp hd with hd | hd
      · exact hok.queue d hd
      · -- what arrives for the session is of the flow
        rw [List.mem_singleton.mp hd]
        exact hflow (by rw [hentry, ← hserial, ← hparty, heq])
  | unknown _ _ => exact h.frame rfl (by simp [observed]) h.tasks
  | dropped _ _ _ => exact h.frame rfl (by simp [observed]) h.tasks
  | panicked _ _ _ _ _ => exact h.frame rfl (by simp [observed, OnLink]) h.tasks
  | matched _ _ _ _ _ => exact h.frame rfl (by simp [observed]) h.tasks
  | @inserted src message peer party _ hparty =>
    refine h.frame (receivedIn_events serial [.matched party]) (by simp [observed, OnLink])
      fun session hm heq => ?_
    rcases List.mem_append.mp hm with hm | hm
    · exact h.tasks session hm heq
    · obtain rfl := List.mem_singleton.mp hm
      refine ⟨by simp, fun _ ht => ?_, fun _ _ => ?_, fun _ _ hl => ?_⟩
      · cases ht
      · -- nothing was received under a new serial
        refine List.eq_nil_iff_forall_not_mem.mpr fun datagram hm => ?_
        have hlt := hd.tookBelow _ _ (Demux.mem_of_tookIn hm)
        rw [← heq, hparty] at hlt
        exact absurd hlt (Nat.lt_irrefl _)
      · cases hl

theorem step (h : BoundInv ctx keys encrypt msgs serial linkId s seen)
    (hd : Demux.Inv s.demuxer (seen.filterMap Seen.demux))
    (hkeys : ∀ k m, ctx.snowstorm.decrypt keys (encrypt k m) = .ok m)
    (hhello : ∀ m, msgs[0]? = some m → ctx.json.fromSlice m = .ok ⟨linkId, none⟩)
    {a : Udp.Action ctx.snowstorm.Transport} (hflow : FromFlow ctx keys encrypt msgs serial s a)
    (hfirst : HelloFirst ctx encrypt msgs serial s a)
    (hobs : observe (Udp.step ctx) observed s a = some (s', new)) :
    BoundInv ctx keys encrypt msgs serial linkId s' (seen ++ new) := by
  obtain ⟨⟨s₁, es⟩, hst, heq⟩ := Option.map_eq_some_iff.mp hobs
  cases heq
  cases step_cases hst with
  | tick _ => exact h.frame rfl (by simp [observed]) h.tasks
  | demux hcase => exact h.demux hd hcase hflow
  | @session i a session session' es hi hcase =>
    have hnodup := serials_nodup hd
    by_cases hserial : session.party.serial = serial
    · obtain ⟨hok, hes⟩ := (h.tasks session (List.mem_of_getElem? hi) hserial).step hkeys hhello hi
        hserial hcase hflow hfirst
      refine ⟨fun x hx heq => ?_, fun e hm => ?_⟩
      · rw [receivedIn_append]
        obtain rfl | ⟨hxm, hne⟩ := Demux.mem_set_of_nodup hnodup hi hx
        · exact hok
        · exact absurd (heq.trans hserial.symm) hne
      · exact (List.mem_append.mp hm).elim (h.events e) fun hm => hes e (mem_of_observed hm)
    · refine h.frame (receivedIn_other hi hserial)
        (fun e hm => onLink_other hcase hserial e (mem_of_observed hm)) fun x hx heq => ?_
      obtain rfl | ⟨hxm, -⟩ := Demux.mem_set_of_nodup hnodup hi hx
      · rw [hcase.party_eq] at heq
        exact absurd heq hserial
      · exact h.tasks x hxm heq
  | @removed i session hi _ =>
    refine h.frame (receivedIn_events serial [.removed session.party _])
      (by simp [observed, OnLink]) fun x hx heq => ?_
    exact h.tasks x (List.mem_of_mem_eraseIdx hx) heq

end BoundInv

theorem boundInv_run (hkeys : ∀ k m, ctx.snowstorm.decrypt keys (encrypt k m) = .ok m)
    (hhello : ∀ m, msgs[0]? = some m → ctx.json.fromSlice m = .ok ⟨linkId, none⟩)
    {clock : Instant} {u₀ u : Udp.State ctx.snowstorm.Transport}
    {bs : List (Udp.Action ctx.snowstorm.Transport)} {seen : List (Seen Party Udp.Event)}
    (hstart : Udp.start ctx clock = some u₀)
    (h : Run (observe (Udp.step ctx) observed) (fun u a =>
      FromFlow ctx keys encrypt msgs serial u a ∧ HelloFirst ctx encrypt msgs serial u a) u₀ bs u
      seen) : BoundInv ctx keys encrypt msgs serial linkId u seen := by
  induction h with
  | nil =>
    obtain ⟨listenAddr, -, rfl⟩ := Option.map_eq_some_iff.mp hstart
    exact ⟨by simp, by simp⟩
  | snoc hr hC hst ih => exact ih.step (demuxInv hstart hr) hkeys hhello hC.1 hC.2 hst

/-! ## A flow and its session -/

section

variable {snow : Snow} {snowstorm : Snowstorm} {json : Json StreamHello} {config : Config}
  {privateKey : List UInt8} {peers : List ResolvedPeer} {client : Client.Context}

/-- The session of a flow for the link `linkId`, over a network that loses, delays and reorders
    the datagrams of the flow: where the hello comes first, or no payload that reads as a hello
    does, the session's hello is the flow's, and it reaches only targets of this link. -/
theorem bound_to_link {clock : Instant} {listenAddr : String}
    {as : List (Udp.Client.Action snowstorm.Transport)}
    {s : Udp.Client.State snowstorm.Transport}
    {seen : List (Seen Udp.Client.Origin Udp.Client.Event)}
    (hclient : Run (observe (Udp.Client.step ⟨client, snowstorm, json⟩) Udp.Client.observed) Free
      (Udp.Client.startListener _ clock linkId listenAddr) as s seen)
    {origin : Udp.Client.Origin} (horigin : .event (.started origin) ∈ seen)
    {keys : snowstorm.Transport} {encrypt : ℕ → List UInt8 → List UInt8}
    (hkeys : ∀ k m, snowstorm.decrypt keys (encrypt k m) = .ok m)
    {clock' : Instant} {u₀ u : Udp.State snowstorm.Transport}
    {bs : List (Udp.Action snowstorm.Transport)} {useen : List (Seen Party Udp.Event)}
    (hstart : Udp.start ⟨snow, snowstorm, json, config, privateKey, peers⟩ clock' = some u₀)
    (hserver : Run
      (observe (Udp.step ⟨snow, snowstorm, json, config, privateKey, peers⟩) observed)
      (fun u a =>
        FromFlow ⟨snow, snowstorm, json, config, privateKey, peers⟩ keys encrypt
          (Udp.Client.sentIn origin.serial seen) serial u a ∧
        HelloFirst ⟨snow, snowstorm, json, config, privateKey, peers⟩ encrypt
          (Udp.Client.sentIn origin.serial seen) serial u a) u₀ bs u useen) :
    (∀ session ∈ u.tasks, session.party.serial = serial → ∀ link target,
      session.phase.link = some (link, target) → link.id = linkId ∧
        ∃ m, (Udp.Client.sentIn origin.serial seen)[0]? = some m ∧
          (receivedIn serial useen).head? = some (encrypt 0 m)) ∧
    ∀ e, .event e ∈ useen → OnLink serial linkId e := by
  obtain ⟨hsent, rfl⟩ := Udp.Client.sentInv_run hclient
  have hhello : ∀ m, (Udp.Client.sentIn origin.serial seen)[0]? = some m →
      json.fromSlice m = .ok ⟨s.linkId, none⟩ := by
    intro m hm
    refine json.fromSlice_toVec _ m ?_
    have hsent := hsent.started origin horigin
    generalize Udp.Client.sentIn origin.serial seen = sent at hsent hm
    cases hsent with
    | nothing _ => cases hm
    | hello _ hjson | relayed hjson =>
      cases hm
      exact hjson
  have hinv := boundInv_run hkeys hhello hstart hserver
  exact ⟨fun session hm hserial => (hinv.tasks session hm hserial).link, hinv.events⟩

end

/-! ### A hello that comes first and one that is lost -/

/-- Two UDP forward links of bob. -/
def timeConfig : Config :=
  { Udp.forwardConfig with
    peers := [⟨"bob", "AgICAgICAgICAgICAgICAgICAgICAgICAgICAgICAgI=", ["dns", "ntp"]⟩]
    links :=
      [⟨"dns", .forward, .udp, none, some "127.0.0.1:53"⟩,
        ⟨"ntp", .forward, .udp, none, some "127.0.0.1:123"⟩] }

def timePeers : List ResolvedPeer := [⟨"bob", Server.bobKey, ["dns", "ntp"].toFinset⟩]

def timeHellos : Json StreamHello :=
  .among StreamHello.json [⟨"dns", none⟩, ⟨"ntp", none⟩] (by decide)

def timeContext : Udp.Context :=
  ⟨Snow.symbolic, Snowstorm.tagged, timeHellos, timeConfig, List.replicate 32 9, timePeers⟩

def timeClient : Udp.Client.Context :=
  ⟨Udp.Client.dnsContext.toContext, Snowstorm.tagged, timeHellos⟩

def timeKeys : timeContext.snowstorm.Transport := ()

/-- The second application payload is the text of a hello. -/
def ntpPayload : List UInt8 := utf8 (StreamHello.json ⟨"ntp", none⟩)

def timeMsgs : List (List UInt8) := [utf8 (StreamHello.json ⟨"dns", none⟩), ntpPayload, [7]]

def timeFlow : List (Udp.Client.Action Unit) :=
  [.listener (.bind (.ok ())), .listener (.recv (.ok (.v4 ⟨127, 0, 0, 1⟩ 50000, ntpPayload))),
    .listener .insert, .flow 0 (.bind (.ok ())), .flow 0 (.connect (.ok ())),
    .flow 0 (.handshake (.ok ())), .flow 0 (.sent (.ok ())), .flow 0 (.sent (.ok ())),
    .listener (.recv (.ok (.v4 ⟨127, 0, 0, 1⟩ 50000, [7]))), .flow 0 .fromLocal]

def timeOrigin : Udp.Client.Origin := ⟨0, .v4 ⟨127, 0, 0, 1⟩ 50000, ntpPayload⟩

theorem exists_timeFlow : ∃ s seen,
    Run (observe (Udp.Client.step timeClient) Udp.Client.observed) Free
      (Udp.Client.startListener _ 0 "dns" "127.0.0.1:5353") timeFlow s seen ∧
    .event (.started timeOrigin) ∈ seen ∧ Udp.Client.sentIn 0 seen = timeMsgs := by
  have htrace : ((exec (observe (Udp.Client.step timeClient) Udp.Client.observed)
      (Udp.Client.startListener _ 0 "dns" "127.0.0.1:5353") timeFlow).map fun r =>
        decide (.event (.started timeOrigin) ∈ r.2 ∧ Udp.Client.sentIn 0 r.2 = timeMsgs)) =
      some true := by decide
  obtain ⟨⟨s, seen⟩, hexec, heq⟩ := Option.map_eq_some_iff.mp htrace
  obtain ⟨hstarted, hsent⟩ := of_decide_eq_true heq
  exact ⟨s, seen, run_of_exec hexec, hstarted, hsent⟩

/-- What arrives at the server: the first message of bob's handshake, and then `datagrams`. -/
def arrivals (datagrams : List (List UInt8)) : List (Udp.Action Unit) :=
  [.demux (.bind (.ok ())),
    .demux (.recv (.ok (.v4 ⟨198, 51, 100, 6⟩ 40002, Server.bobKey))), .demux (.acquire 0 0),
    .demux .insert, .session 0 (.handshake (.ok ()))] ++
    (datagrams.map fun datagram =>
      .demux (.recv (.ok (.v4 ⟨198, 51, 100, 6⟩ 40002, 0 :: datagram)))) ++
    [.session 0 .recv, .session 0 (.bind (.ok ())), .session 0 (.connect (.ok ())),
      .session 0 .recv]

/-- What a session has sent to its target. -/
def relayedIn (seen : List (Seen Party Udp.Event)) : List (String × List UInt8) :=
  seen.filterMap fun
    | .event (.toTarget _ link _ payload) => some (link.id, payload)
    | _ => none

instance : DecidableEq timeContext.snowstorm.Transport := inferInstanceAs (DecidableEq Unit)

theorem exists_arrivals {C : Udp.State timeContext.snowstorm.Transport →
      Udp.Action timeContext.snowstorm.Transport → Prop} [∀ s a, Decidable (C s a)]
    {bs : List (Udp.Action Unit)} {relayed : List (String × List UInt8)}
    (htrace : ((exec (fun s a =>
        if C s a then observe (Udp.step timeContext) observed s a else none)
      ((Udp.start timeContext 0).get (by decide)) bs).map fun r => relayedIn r.2) =
        some relayed) :
    ∃ u₀ u useen, Udp.start timeContext 0 = some u₀ ∧
      Run (observe (Udp.step timeContext) observed) C u₀ bs u useen ∧
      relayedIn useen = relayed := by
  obtain ⟨⟨u, useen⟩, hexec, heq⟩ := Option.map_eq_some_iff.mp htrace
  exact ⟨_, u, useen, (Option.some_get _).symm, (run_of_exec hexec).of_guarded, heq⟩

theorem strayPayload_bound :
    timeConfig.validate Base64.standard = [] ∧
    resolvePeers Base64.standard timeConfig.peers = .ok timePeers ∧
    Udp.Client.dnsConfig.validate Base64.standard = [] ∧
    ∃ s seen,
      Run (observe (Udp.Client.step timeClient) Udp.Client.observed) Free
        (Udp.Client.startListener _ 0 "dns" "127.0.0.1:5353") timeFlow s seen ∧
      .event (.started timeOrigin) ∈ seen ∧
    ∃ u₀ u useen, Udp.start timeContext 0 = some u₀ ∧
      Run (observe (Udp.step timeContext) observed)
        (FromFlow timeContext timeKeys (fun _ m => 0 :: m) (Udp.Client.sentIn 0 seen) 0) u₀
        (arrivals [ntpPayload, [7]]) u useen ∧
      relayedIn useen = [("ntp", [7])] := by
  obtain ⟨s, seen, hrun, hstarted, hsent⟩ := exists_timeFlow
  refine ⟨by decide +kernel, by decide +kernel, by decide +kernel, s, seen, hrun, hstarted, ?_⟩
  rw [hsent]
  exact exists_arrivals (by decide)

/-- The hello arrives first, and the payload that reads as one does not. -/
theorem bound_to_link_dns :
    ∃ s seen,
      Run (observe (Udp.Client.step timeClient) Udp.Client.observed) Free
        (Udp.Client.startListener _ 0 "dns" "127.0.0.1:5353") timeFlow s seen ∧
    ∃ u₀ u useen, Udp.start timeContext 0 = some u₀ ∧
      Run (observe (Udp.step timeContext) observed)
        (fun u a =>
          FromFlow timeContext timeKeys (fun _ m => 0 :: m) (Udp.Client.sentIn 0 seen) 0 u a ∧
          HelloFirst timeContext (fun _ m => 0 :: m) (Udp.Client.sentIn 0 seen) 0 u a) u₀
        (arrivals [utf8 (StreamHello.json ⟨"dns", none⟩), [7]]) u useen ∧
      relayedIn useen = [("dns", [7])] ∧ ∀ e, .event e ∈ useen → OnLink 0 "dns" e := by
  obtain ⟨s, seen, hrun, hstarted, hsent⟩ := exists_timeFlow
  obtain ⟨u₀, u, useen, hstart, hserver, hrelayed⟩ : ∃ u₀ u useen,
      Udp.start timeContext 0 = some u₀ ∧
      Run (observe (Udp.step timeContext) observed)
        (fun u a => FromFlow timeContext timeKeys (fun _ m => 0 :: m) timeMsgs 0 u a ∧
          HelloFirst timeContext (fun _ m => 0 :: m) timeMsgs 0 u a) u₀
        (arrivals [utf8 (StreamHello.json ⟨"dns", none⟩), [7]]) u useen ∧
      relayedIn useen = [("dns", [7])] := exists_arrivals (by decide)
  rw [← hsent] at hserver
  exact ⟨s, seen, hrun, u₀, u, useen, hstart, hserver, hrelayed,
    (bound_to_link hrun hstarted (fun _ _ => rfl) hstart hserver).2⟩

end Ghostport.System
