import Ghostport.Control.Session

/-!
# What `recv_json` yields to a control session

`tokio::select!` drops the future of `recv_json` whenever a local event wins, and the
bytes it had read are gone with it.

Results:
* `sessionInv_run`: as long as local events are taken only between two frames, what is
  read, arrived and on the wire are the frames of the messages still to be received.
* `messages_survive`: such a run yields the messages sent, in order, and no error of the
  framing.
* `partialFrame_lost`: a local event in the middle of a frame ends both loops with an error
  of the framing.
-/

namespace Ghostport.Control

open Ghostport.Core Ghostport.Lib

/-- The other side sends only messages that fit in a frame. -/
def WellFormed (json : Json ControlMessage) {Local : Type} (_ : Session) (a : Action Local) :
    Prop :=
  ∀ msg, a = .remote msg → ∃ payload, Sendable json msg payload

/-- Moreover a local event is taken only where the future of `recv_json` that is dropped has
    read no byte. -/
def BetweenFrames (json : Json ControlMessage) {Local : Type} (s : Session) (a : Action Local) :
    Prop :=
  WellFormed json s a ∧
    ∀ event recv, a = .event event → s.phase = .selecting recv → recv.consumed = []

/-- What was received is a prefix of what was sent, and reading ended with nothing but
    an error of the stream. -/
structure Survives (tr : List Event) : Prop where
  received : receivedIn tr <+: sentIn tr
  errors : ∀ e ∈ errorsIn tr, ∃ text, e = .io text

/-! ## The invariant -/

/-- Nothing of `bytes` is lost: it is what the pending read has taken, what has arrived and
    what is on the wire. -/
def Session.Holds (s : Session) (bytes : List UInt8) : Prop :=
  match s.phase with
  | .selecting recv =>
    recv.Open maxMessageLen ∧ recv.consumed ++ (s.arrived ++ s.wire) = bytes
  | .writing _ => s.arrived ++ s.wire = bytes
  | .returned => True

structure SessionInv (json : Json ControlMessage) (s : Session) (tr : List Event) : Prop where
  intact : ∃ rest payloads, sentIn tr = receivedIn tr ++ rest ∧ Encoded json rest payloads ∧
    s.Holds (frames payloads)
  errors : ∀ e ∈ errorsIn tr, ∃ text, e = .io text

section

variable {json : Json ControlMessage} {Local : Type} {loop : Loop Local} {s s' : Session}
  {tr es : List Event}

theorem holds_next {loop : Loop Local} {msg : ControlMessage} {arrived wire bytes : List UInt8}
    (h : arrived ++ wire = bytes) : Session.Holds ⟨wire, arrived, loop.next msg⟩ bytes := by
  unfold Loop.next
  split
  · exact h
  · exact ⟨Reader.open_init _, by rw [Reader.consumed_init, List.nil_append, h]⟩

/-- A step that neither sends nor receives a message. -/
theorem SessionInv.silent (h : SessionInv json s tr) (hsent : sentIn es = [])
    (hreceived : receivedIn es = []) (herrors : ∀ e ∈ errorsIn es, ∃ text, e = .io text)
    (hholds : ∀ bytes, s.Holds bytes → s'.Holds bytes) : SessionInv json s' (tr ++ es) where
  intact := by
    obtain ⟨rest, payloads, hrest, henc, hbytes⟩ := h.intact
    refine ⟨rest, payloads, ?_, henc, hholds _ hbytes⟩
    rw [sentIn_append, receivedIn_append, hsent, hreceived, List.append_nil, List.append_nil,
      hrest]
  errors e he := by
    rw [errorsIn_append, List.mem_append] at he
    exact he.elim (h.errors e) (herrors e)

/-- The other side sends a message. -/
theorem SessionInv.remote (h : SessionInv json s tr) {msg : ControlMessage}
    {payload : List UInt8} (hmsg : Sendable json msg payload)
    (hs' : s' = { s with wire := s.wire ++ frame payload }) :
    SessionInv json s' (tr ++ [.sent msg]) where
  intact := by
    obtain ⟨rest, payloads, hrest, henc, hbytes⟩ := h.intact
    refine ⟨rest ++ [msg], payloads ++ [payload], ?_, henc.concat hmsg, ?_⟩
    · rw [sentIn_append, receivedIn_append, hrest]
      simp [sentIn, receivedIn]
    · rw [hs', frames_concat]
      unfold Session.Holds at *
      cases hphase : s.phase with
      | selecting recv =>
        simp only [hphase] at hbytes
        refine ⟨hbytes.1, ?_⟩
        rw [← hbytes.2]
        simp
      | writing answer =>
        simp only [hphase] at hbytes
        rw [← hbytes]
        simp
      | returned => trivial
  errors e he := by
    rw [errorsIn_append, List.mem_append] at he
    exact he.elim (h.errors e) (by simp [errorsIn])

/-- The pending read takes the bytes `chunk` of those that have arrived. -/
theorem SessionInv.poll (h : SessionInv json s tr) (loop : Loop Local) {recv : Reader}
    (hphase : s.phase = .selecting recv) {chunk left : List UInt8}
    (harrived : s.arrived = chunk ++ left) (hchunk : chunk.length ≤ recv.want) :
    match recvJson json recv chunk with
    | .pending recv' => SessionInv json ⟨s.wire, left, .selecting recv'⟩ (tr ++ [])
    | .ready (.ok msg) =>
      SessionInv json ⟨s.wire, left, loop.next msg⟩ (tr ++ [.received msg (loop.handle msg)])
    | .ready (.error _) => False := by
  obtain ⟨rest, payloads, hrest, henc, hbytes⟩ := h.intact
  unfold Session.Holds at hbytes
  simp only [hphase, harrived, List.append_assoc] at hbytes
  have hrecv := recvJson_spec henc hbytes.1 hchunk hbytes.2
  split at hrecv
  · rename_i recv' hr
    simp only [hr, List.append_nil]
    exact ⟨⟨rest, payloads, hrest, henc, hrecv⟩, h.errors⟩
  · rename_i msg hr
    simp only [hr]
    obtain ⟨rest', payloads', rfl, henc', hleft⟩ := hrecv
    refine ⟨⟨rest', payloads', ?_, henc', holds_next hleft⟩, fun e he => ?_⟩
    · rw [sentIn_append, receivedIn_append, hrest]
      simp [sentIn, receivedIn]
    · rw [errorsIn_append, List.mem_append] at he
      exact he.elim (h.errors e) (by simp [errorsIn])
  · exact hrecv.elim

theorem sessionInv_step (h : SessionInv json s tr) {a : Action Local}
    (hC : BetweenFrames json s a) (hst : step json loop s a = some (s', es)) :
    SessionInv json s' (tr ++ es) := by
  unfold step at hst
  split at hst
  case h_1 _ _ msg =>
    obtain ⟨payload, hmsg⟩ := hC.1 msg rfl
    simp only [sendJson, hmsg.1, Except.map] at hst
    cases hst
    exact h.remote hmsg rfl
  case h_2 _ _ n =>
    split at hst
    · cases hst
      refine h.silent rfl rfl (by simp [errorsIn]) fun bytes hbytes => ?_
      have hcut : s.arrived ++ s.wire.take n ++ s.wire.drop n = s.arrived ++ s.wire := by
        rw [List.append_assoc, List.take_append_drop]
      unfold Session.Holds at *
      simpa only [hcut] using hbytes
    · cases hst
  case h_3 recv n hphase =>
    split at hst
    · rename_i hn
      have hpoll := h.poll loop hphase (List.take_append_drop n s.arrived).symm
        (by rw [List.length_take]; omega)
      split at hpoll
      · rename_i recv' hr
        simp only [hr] at hst
        cases hst
        exact hpoll
      · rename_i msg hr
        simp only [hr] at hst
        cases hst
        exact hpoll
      · exact hpoll.elim
    · cases hst
  case h_4 recv e hphase =>
    cases hst
    exact h.silent rfl rfl (by simp [errorsIn]) fun _ _ => trivial
  case h_5 recv event hphase =>
    cases hst
    -- the dropped future has read nothing
    have hnone : recv.consumed = [] := hC.2 event recv rfl hphase
    refine h.silent rfl rfl (by simp [errorsIn]) fun bytes hbytes => ?_
    unfold Session.Holds at *
    simp only [hphase, hnone, List.nil_append] at hbytes
    exact hbytes.2
  case h_6 msg hphase =>
    cases hst
    refine h.silent rfl rfl (by simp [errorsIn]) fun bytes hbytes => ?_
    unfold Session.Holds at *
    simp only [hphase] at hbytes
    exact ⟨Reader.open_init _, hbytes⟩
  case h_7 msg e hphase =>
    cases hst
    exact h.silent rfl rfl (by simp [errorsIn]) fun _ _ => trivial
  case h_8 => cases hst

theorem sessionInv_run {as : List (Action Local)}
    (h : SessionRun json loop (BetweenFrames json) as s tr) : SessionInv json s tr := by
  refine Run.invariant (I := SessionInv json) ?_
    (fun _ _ _ _ _ hi hC hst => sessionInv_step hi hC hst) h
  exact ⟨⟨[], [], rfl, .nil, Reader.open_init _, rfl⟩, by simp [errorsIn]⟩

theorem SessionInv.survives (h : SessionInv json s tr) : Survives tr := by
  obtain ⟨rest, -, hrest, -, -⟩ := h.intact
  exact ⟨⟨rest, hrest.symm⟩, h.errors⟩

end

/-! ## Results -/

/-- In both loops, whatever is sent and however it arrives, a run in which local events are
    taken only between two frames yields a prefix of the messages sent, and does not end
    with an error of the framing. -/
theorem messages_survive (json : Json ControlMessage) (config : Config) :
    (∀ as s tr, SessionRun json serverLoop (BetweenFrames json) as s tr → Survives tr) ∧
      ∀ as s tr, SessionRun json (clientLoop config) (BetweenFrames json) as s tr →
        Survives tr :=
  ⟨fun _ _ _ h => (sessionInv_run h).survives, fun _ _ _ h => (sessionInv_run h).survives⟩

/-! ## Two runs -/

/-- A client with one reverse link. -/
def clientConfig : Config where
  role := .client
  privateKeyPath := "/etc/ghostport/private.key"
  peerPublicKey := some "CQkJCQkJCQkJCQkJCQkJCQkJCQkJCQkJCQkJCQkJCQk="
  peers := []
  listenControl := none
  listenData := none
  listenUdp := none
  serverControlAddr := some "203.0.113.1:7001"
  serverDataAddr := some "203.0.113.1:7002"
  serverUdpAddr := none
  links := [⟨"db", .reverse, .tcp, none, some "127.0.0.1:5432"⟩]

/-- A local event comes when two bytes of the length of `msg` have been read, and the rest
    of the frame arrives after it. -/
def cutFrame {Local : Type} (msg : ControlMessage) (event : Local) : List (Action Local) :=
  [.remote msg, .arrive 2, .poll 2, .event event, .write (.ok ()), .arrive 8, .poll 4]

/-- The next call reads the length off the last two bytes of the old length and the first
    two of the text. -/
theorem partialFrame_lost :
    (∃ s tr, SessionRun (.single .ping "\"Ping\"".toList) serverLoop Free
        (cutFrame .ping (.openStream "db" 1)) s tr ∧
      (∃ payloads, Encoded (.single .ping "\"Ping\"".toList) (sentIn tr) payloads) ∧
      errorsIn tr = [.tooLong 0x50220000] ∧ ¬ Survives tr) ∧
    ∀ config, ∃ s tr, SessionRun (.single .pong "\"Pong\"".toList) (clientLoop config) Free
        (cutFrame .pong ()) s tr ∧
      (∃ payloads, Encoded (.single .pong "\"Pong\"".toList) (sentIn tr) payloads) ∧
      errorsIn tr = [.tooLong 0x50220000] ∧ ¬ Survives tr := by
  have hlost : ∀ tr, errorsIn tr = [.tooLong 0x50220000] → ¬ Survives tr := by
    intro tr herrors hsurvives
    obtain ⟨text, heq⟩ := hsurvives.errors (.tooLong 0x50220000) (by simp [herrors])
    cases heq
  refine ⟨⟨_, _, run_of_exec rfl, ⟨_, .cons ⟨rfl, by decide⟩ .nil⟩, rfl, hlost _ rfl⟩,
    fun config => ⟨_, _, run_of_exec rfl, ⟨_, .cons ⟨rfl, by decide⟩ .nil⟩, rfl, hlost _ rfl⟩⟩

/-- The event comes before the frame, which arrives in two pieces. -/
def wholeFrame {Local : Type} (msg : ControlMessage) (event : Local) : List (Action Local) :=
  [.remote msg, .event event, .arrive 3, .write (.ok ()), .poll 3, .arrive 7, .poll 1, .poll 6]

/-- Only `msg` is sent, and events come while nothing is read: `BetweenFrames`, decided. -/
def between (msg : ControlMessage) {Local : Type} (s : Session) (a : Action Local) : Bool :=
  match a with
  | .remote m => m = msg
  | .event _ => s.phase = .selecting .init
  | _ => true

theorem betweenFrames_of_between {json : Json ControlMessage} {msg : ControlMessage}
    {payload : List UInt8} (hmsg : Sendable json msg payload) {Local : Type} {s : Session}
    {a : Action Local} (h : between msg s a = true) : BetweenFrames json s a := by
  refine ⟨fun m ha => ?_, fun event recv ha hphase => ?_⟩
  · have hm : m = msg := by simpa [between, ha] using h
    exact ⟨payload, hm ▸ hmsg⟩
  · have hinit : recv = Reader.init := by simpa [between, ha, hphase] using h
    rw [hinit, Reader.consumed_init]

theorem messages_survive_wholeFrame :
    (∃ s tr, SessionRun (.single .ping "\"Ping\"".toList) serverLoop
        (BetweenFrames (.single .ping "\"Ping\"".toList))
        (wholeFrame .ping (.openStream "db" 1)) s tr ∧
      receivedIn tr = [.ping] ∧ Survives tr) ∧
    ∃ s tr, SessionRun (.single .pong "\"Pong\"".toList) (clientLoop clientConfig)
        (BetweenFrames (.single .pong "\"Pong\"".toList)) (wholeFrame .pong ()) s tr ∧
      receivedIn tr = [.pong] ∧ Survives tr := by
  have hserver : SessionRun (.single .ping "\"Ping\"".toList) serverLoop
      (BetweenFrames (.single .ping "\"Ping\"".toList))
      (wholeFrame .ping (.openStream "db" 1)) _ _ :=
    (Run.of_guarded (C := fun s a => between .ping s a = true) (run_of_exec rfl)).mono
      fun _ _ => betweenFrames_of_between ⟨rfl, by decide⟩
  have hclient : SessionRun (.single .pong "\"Pong\"".toList) (clientLoop clientConfig)
      (BetweenFrames (.single .pong "\"Pong\"".toList)) (wholeFrame .pong ()) _ _ :=
    (Run.of_guarded (C := fun s a => between .pong s a = true) (run_of_exec rfl)).mono
      fun _ _ => betweenFrames_of_between ⟨rfl, by decide⟩
  exact ⟨⟨_, _, hserver, rfl, (messages_survive _ clientConfig).1 _ _ _ hserver⟩,
    ⟨_, _, hclient, rfl, (messages_survive _ clientConfig).2 _ _ _ hclient⟩⟩

end Ghostport.Control
