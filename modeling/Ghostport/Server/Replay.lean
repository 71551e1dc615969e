import Ghostport.Server.Access

/-!
# Who holds the control session

The server together with the parties that connect to it: each sends the messages of
the key it holds, and an adversary that holds no configured key sends what it has
recorded, or messages that no configured key has produced.

Results:
* `control_fresh`: as long as the adversary replays no recorded message on the
  control channel, the control session belongs to a holder of its peer's key.
* `replay_connected`: a run in which a replayed message takes the control session.
-/

namespace Ghostport.Server

open Ghostport.Core Ghostport.Net Ghostport.Lib

/-- The server and all handshake messages sent to it so far, which anybody may have
    recorded. -/
structure NetState where
  server : State
  wire : List (List UInt8)

inductive NetAction where
  /-- The holder of the key for `publicKey` produces `message` and sends it. -/
  | send (publicKey message : List UInt8)
  | server (a : Action)

/-- What a party can send on a connection it opened: the holder of a key what it has
    produced with that key, the adversary what it has recorded and what no
    configured key has produced. -/
def CanSend (ctx : Context) (producer : List UInt8 → Option (List UInt8))
    (wire : List (List UInt8)) (party : Party) (message : List UInt8) : Prop :=
  ∀ publicKey ∈ producer message,
    party = .holder publicKey ∧ message ∈ wire ∨
      party = .adversary ∧ (publicKey ∈ ctx.peers.map (·.publicKey) → message ∈ wire)

instance (ctx : Context) (producer : List UInt8 → Option (List UInt8))
    (wire : List (List UInt8)) (party : Party) (message : List UInt8) :
    Decidable (CanSend ctx producer wire party message) :=
  inferInstanceAs (Decidable (∀ publicKey ∈ producer message, _))

/-- The party and the message, where a handshake task reads one. -/
def messageRead (s : State) : Action → Option (Party × List UInt8)
  | .handshake channel i (.received incoming _) =>
    match (s.acceptor channel).handshakes[i]?, incoming.message with
    | some h, some message => some (h.tcp.openedBy, message)
    | _, _ => none
  | _ => none

/-- The parties send what they can. -/
def Permitted (ctx : Context) (producer : List UInt8 → Option (List UInt8)) (n : NetState)
    (a : Action) : Prop :=
  ∀ r ∈ messageRead n.server a, CanSend ctx producer n.wire r.1 r.2

instance (ctx : Context) (producer : List UInt8 → Option (List UInt8)) (n : NetState)
    (a : Action) : Decidable (Permitted ctx producer n a) :=
  inferInstanceAs (Decidable (∀ r ∈ messageRead n.server a, _))

def netStep (ctx : Context) (producer : List UInt8 → Option (List UInt8)) (n : NetState) :
    NetAction → Option (NetState × List Event)
  | .send publicKey message =>
    if producer message = some publicKey then some ({ n with wire := n.wire ++ [message] }, [])
    else none
  | .server a =>
    if Permitted ctx producer n a then
      (step ctx n.server a).map fun r => ({ n with server := r.1 }, r.2)
    else none

/-- The runs of the server and its network whose steps all meet `C`. -/
def NetRun (ctx : Context) (producer : List UInt8 → Option (List UInt8))
    (C : NetState → NetAction → Prop) (as : List NetAction) (n : NetState) (tr : List Event) :
    Prop :=
  ∃ clock s₀, start ctx clock = some s₀ ∧ Run (netStep ctx producer) C ⟨s₀, []⟩ as n tr

/-- On the control channel, the adversary sends no recorded message. -/
def NoReplay (n : NetState) : NetAction → Prop
  | .server (.handshake .control i outcome) =>
    ∀ r ∈ messageRead n.server (.handshake .control i outcome),
      r.1 = .adversary → r.2 ∉ n.wire
  | _ => True

instance (n : NetState) : ∀ a, Decidable (NoReplay n a)
  | .server (.handshake .control i outcome) =>
    inferInstanceAs (Decidable (∀ r ∈ messageRead n.server (.handshake .control i outcome), _))
  | .server (.handshake .data _ _) | .server (.tick _) | .server (.listener _ _)
  | .server (.cleanup _) | .server (.accept _ _) | .server (.control _) | .server (.data _)
  | .send _ _ => isTrue trivial

/-- The party at the other end of the connection holds the key it was matched
    with. -/
def NoiseStream.Fresh (stream : NoiseStream) : Prop :=
  stream.tcp.openedBy = .holder stream.peer.publicKey

variable {ctx : Context} {producer : List UInt8 → Option (List UInt8)}
  {C : NetState → NetAction → Prop} {as : List NetAction} {n : NetState} {tr : List Event}

theorem netStep_server {a : Action} {n' : NetState} {es : List Event}
    (h : netStep ctx producer n (.server a) = some (n', es)) :
    Permitted ctx producer n a ∧ step ctx n.server a = some (n'.server, es) ∧ n'.wire = n.wire := by
  simp only [netStep] at h
  split at h
  · rename_i hp
    obtain ⟨r, hr, heq⟩ := Option.map_eq_some_iff.mp h
    cases heq
    exact ⟨hp, hr, rfl⟩
  · cases h

/-- The server of a networked run makes a run of its own. -/
theorem NetRun.server (h : NetRun ctx producer C as n tr) :
    ∃ as', ServerRun ctx Free as' n.server tr := by
  obtain ⟨clock, s₀, hstart, hrun⟩ := h
  refine hrun.invariant (I := fun n tr => ∃ as', ServerRun ctx Free as' n.server tr)
    ⟨[], clock, s₀, hstart, .nil⟩ ?_
  rintro n tr a n' es ⟨as', clock', s₀', hstart', hrun'⟩ - hst
  cases a with
  | send publicKey message =>
    simp only [netStep] at hst
    split at hst
    · cases hst
      exact ⟨as', clock', s₀', hstart', by simpa using hrun'⟩
    · cases hst
  | server a =>
    obtain ⟨-, hst', -⟩ := netStep_server hst
    exact ⟨as' ++ [a], clock', s₀', hstart', hrun'.snoc trivial hst'⟩

/-- A control connection that matched by a message of a configured key was opened
    by the holder of that key. -/
def OpenedByProducer (ctx : Context) (producer : List UInt8 → Option (List UInt8))
    (tr : List Event) : Prop :=
  ∀ stream message, .matched .control stream message ∈ tr →
    ∀ publicKey ∈ ctx.peers.map (·.publicKey), producer message = some publicKey →
      stream.tcp.openedBy = .holder publicKey

theorem openedByProducer_step {n' : NetState} {a : NetAction} {es : List Event}
    (h : OpenedByProducer ctx producer tr) (hC : NoReplay n a)
    (hst : netStep ctx producer n a = some (n', es)) :
    OpenedByProducer ctx producer (tr ++ es) := by
  intro stream message hm publicKey hkey hproducer
  rcases List.mem_append.mp hm with hm | hm
  · exact h stream message hm publicKey hkey hproducer
  cases a with
  | send publicKey' message' =>
    simp only [netStep] at hst
    split at hst
    · cases hst
      simp at hm
    · cases hst
  | server a =>
    obtain ⟨hp, hst', -⟩ := netStep_server hst
    generalize hs' : n'.server = s' at hst'
    cases step_cases hst' with
    | tick hle => simp at hm
    | listener hc => cases hc <;> simp at hm
    | cleanup hc => cases hc <;> simp at hm
    | accept hc => cases hc <;> simp at hm
    | control hc => cases hc <;> simp [endSession] at hm
    | data hc => cases hc <;> simp at hm
    | @handshake channel i outcome s₁ es₁ hc =>
      cases hc with
      | timedOut _ _ _ => simp at hm
      | failed _ _ _ => simp at hm
      | @matched hs incoming reply peerIndex peer message' s₁ hi hfuture hpeer hmessage hs₁ =>
        obtain ⟨rfl, rfl, rfl⟩ := Event.matched.inj (List.mem_singleton.mp hm)
        have hread : messageRead n.server (.handshake .control i (.received incoming reply)) =
            some (hs.tcp.openedBy, message) := by
          simp only [messageRead, hi, hmessage]
        obtain ⟨hparty, -⟩ | ⟨hparty, hwire⟩ := hp _ hread publicKey hproducer
        · exact hparty
        · exact absurd (hwire hkey) (hC _ hread hparty)

/-- In a run without replays on the control channel, the control status names a
    peer, and a control session runs, only for a connection whose other end holds
    the key of the matched peer. -/
theorem control_fresh (hkk : ctx.snow.AcceptsOnly ctx.privateKey producer)
    (h : NetRun ctx producer NoReplay as n tr) :
    (∀ stream, .connected stream ∈ tr → stream.Fresh) ∧
      ∀ session, n.server.control.session = some session → session.stream.Fresh := by
  obtain ⟨as', hserver⟩ := h.server
  have haccess := accessInv_run hserver
  obtain ⟨clock, s₀, hstart, hrun⟩ := h
  have hopened : OpenedByProducer ctx producer tr :=
    hrun.invariant (I := fun _ tr => OpenedByProducer ctx producer tr)
      (fun _ _ hm => by simp at hm) fun _ _ _ _ _ hi hC hst => openedByProducer_step hi hC hst
  have key : ∀ stream, MatchedIn ctx tr .control stream → stream.Fresh := by
    rintro stream ⟨message, index, state, hm, hpeer, hbytes⟩
    obtain ⟨peer, hpeer', hproducer⟩ := producer_of_matchPeerBytes hkk hbytes
    rw [hpeer] at hpeer'
    cases hpeer'
    have hkey : stream.peer.publicKey ∈ ctx.peers.map (·.publicKey) :=
      List.mem_map_of_mem (f := (·.publicKey)) (List.mem_of_getElem? hpeer)
    exact hopened stream message hm _ hkey hproducer
  refine ⟨fun stream hm => key stream (haccess.connected stream hm), fun session hs => ?_⟩
  exact key _ (haccess.control _ (Control.mem_streams.mpr (.inr (.inr ⟨session, hs, rfl⟩))))

/-! ## A replay -/

/-- Alice's first message is on the wire, and the adversary connects with it. -/
def replay : List NetAction :=
  .send aliceKey aliceKey ::
    List.map NetAction.server
      (bindAll ++ connect .control ⟨.v4 ⟨192, 0, 2, 66⟩ 40001, .adversary⟩ aliceKey 0 ++
        [Action.control (.handoff 0), Action.control (.recv 0)])

def replayedStream : NoiseStream :=
  ⟨⟨.v4 ⟨192, 0, 2, 66⟩ 40001, .adversary⟩, ⟨"alice", aliceKey, ["db"].toFinset⟩⟩

/-- Alice connects herself. -/
def aliceConnects : List NetAction :=
  .send aliceKey aliceKey ::
    List.map NetAction.server
      (bindAll ++ connect .control ⟨.v4 ⟨198, 51, 100, 6⟩ 40000, .holder aliceKey⟩ aliceKey 0 ++
        [Action.control (.handoff 0), Action.control (.recv 0)])

theorem replay_connected :
    ∃ n tr, NetRun exampleContext some Free replay n tr ∧ .connected replayedStream ∈ tr ∧
      ¬ replayedStream.Fresh := by
  have hsome : ((start exampleContext 0).bind fun s₀ =>
    (exec (netStep exampleContext some) ⟨s₀, []⟩ replay).map Prod.snd).isSome := by decide
  obtain ⟨s₀, hstart, htrace⟩ := Option.bind_eq_some_iff.mp (Option.some_get hsome).symm
  obtain ⟨n, hrun⟩ := exists_run_of_trace htrace
  refine ⟨n, _, ⟨0, s₀, hstart, hrun⟩, ?_, by simp [NoiseStream.Fresh, replayedStream]⟩
  clear hrun htrace hstart
  revert hsome
  decide

theorem control_fresh_aliceConnects :
    ∃ n tr, NetRun exampleContext some NoReplay aliceConnects n tr ∧
      ∀ stream, .connected stream ∈ tr → stream.Fresh := by
  have hsome : ((start exampleContext 0).bind fun s₀ =>
    (exec (fun n a => if NoReplay n a then netStep exampleContext some n a else none) ⟨s₀, []⟩
      aliceConnects).map Prod.snd).isSome := by decide
  obtain ⟨s₀, hstart, htrace⟩ := Option.bind_eq_some_iff.mp (Option.some_get hsome).symm
  obtain ⟨n, hrun⟩ := exists_run_of_trace htrace
  have hnet : NetRun exampleContext some NoReplay aliceConnects n _ :=
    ⟨0, s₀, hstart, hrun.of_guarded⟩
  exact ⟨n, _, hnet, (control_fresh (Snow.symbolic_acceptsOnly _) hnet).1⟩

end Ghostport.Server
