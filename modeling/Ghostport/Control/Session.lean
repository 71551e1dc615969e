import Ghostport.Core.Config
import Ghostport.Core.Framing
import Ghostport.Lib.Machine

/-!
# `run_control_session`, byte by byte (`server.rs`, lines 341-366; `client.rs`, lines 235-267)

Both roles run the same loop on the control connection. `tokio::select!` waits for
`recv_json` and for a local event, and drops the future of the branch that loses. The
loops differ in the local event and in what they do with a message.

The stream between the two sides is reliable and keeps its order. When bytes arrive,
when a branch is polled and how many bytes a poll finds is the choice of the actions.
-/

namespace Ghostport.Control

open Ghostport.Core Ghostport.Lib

/-! ## The two loops -/

/-- What the loop does with a message. -/
inductive Handled where
  | ignore
  /-- It writes `msg` before it selects again. -/
  | reply (msg : ControlMessage)
  /-- `handle_open_stream` is spawned. -/
  | openStream (linkId : String) (streamId : UInt64)
  /-- A warning is printed. -/
  | unknownLink (linkId : String)
  deriving DecidableEq, Repr

/-- `announce event` is what the loop writes for the local event `event`. -/
structure Loop (Local : Type) where
  handle : ControlMessage → Handled
  announce : Local → ControlMessage

/-- The loop of the server. A local event is a message out of `open_stream_rx`. -/
def serverLoop : Loop ControlMessage where
  handle
    | .ping => .reply .pong
    | _ => .ignore
  announce msg := msg

/-- `link_expects_reverse` (`client.rs`, lines 269-274). -/
def linkExpectsReverse (config : Config) (linkId : String) : Bool :=
  config.links.any fun l => l.id = linkId ∧ l.mode = .reverse

/-- The loop of the client. A local event is a tick of `ping_interval`. -/
def clientLoop (config : Config) : Loop Unit where
  handle
    | .pong => .ignore
    | .ping => .reply .pong
    | .openStream linkId streamId =>
      if linkExpectsReverse config linkId then .openStream linkId streamId
      else .unknownLink linkId
  announce _ := .ping

/-! ## State -/

inductive Phase where
  /-- In `select!`, with what the future of `recv_json` has read. -/
  | selecting (recv : Reader)
  /-- In `send_json`, where no future of `recv_json` exists. -/
  | writing (msg : ControlMessage)
  | returned
  deriving DecidableEq, Repr

/-- `wire` are the bytes that the other side has written and that have not arrived,
    `arrived` those that have arrived and are not read. -/
structure Session where
  wire : List UInt8
  arrived : List UInt8
  phase : Phase
  deriving DecidableEq, Repr

def Session.start : Session := ⟨[], [], .selecting .init⟩

inductive Action (Local : Type) where
  /-- The other side calls `send_json`. -/
  | remote (msg : ControlMessage)
  /-- `n` more bytes arrive. -/
  | arrive (n : ℕ)
  /-- The future of `recv_json` is polled, and a read gives it `n` bytes. -/
  | poll (n : ℕ)
  /-- A read fails, or finds the stream closed. -/
  | fail (e : String)
  /-- The other branch of `select!` is taken. -/
  | event (event : Local)
  /-- `send_json` returns. -/
  | write (result : Except String Unit)
  deriving DecidableEq

inductive Event where
  /-- The other side has sent `msg`. -/
  | sent (msg : ControlMessage)
  /-- `recv_json` yields `msg` to the loop, which handles it. -/
  | received (msg : ControlMessage) (handled : Handled)
  | wrote (msg : ControlMessage)
  /-- `recv_json` yields an error and the loop returns. -/
  | failed (e : RecvError)
  | writeFailed (e : String)
  deriving DecidableEq

/-! ## Steps -/

/-- The loop has received `msg`. -/
def Loop.next {Local : Type} (loop : Loop Local) (msg : ControlMessage) : Phase :=
  match loop.handle msg with
  | .reply answer => .writing answer
  | _ => .selecting .init

def step (json : Json ControlMessage) {Local : Type} (loop : Loop Local) (s : Session)
    (a : Action Local) : Option (Session × List Event) :=
  match s.phase, a with
  | _, .remote msg =>
    match sendJson json msg with
    | .error _ => none
    | .ok bytes => some ({ s with wire := s.wire ++ bytes }, [.sent msg])
  | _, .arrive n =>
    if n ≤ s.wire.length then
      some ({ s with wire := s.wire.drop n, arrived := s.arrived ++ s.wire.take n }, [])
    else none
  | .selecting recv, .poll n =>
    if 0 < n ∧ n ≤ recv.want ∧ n ≤ s.arrived.length then
      let s' := { s with arrived := s.arrived.drop n }
      match recvJson json recv (s.arrived.take n) with
      | .pending recv' => some ({ s' with phase := .selecting recv' }, [])
      | .ready (.ok msg) =>
        some ({ s' with phase := loop.next msg }, [.received msg (loop.handle msg)])
      | .ready (.error e) => some ({ s' with phase := .returned }, [.failed e])
    else none
  | .selecting _, .fail e => some ({ s with phase := .returned }, [.failed (.io e)])
  -- the future of `recv_json` is dropped with what it has read
  | .selecting _, .event event => some ({ s with phase := .writing (loop.announce event) }, [])
  | .writing msg, .write (.ok ()) => some ({ s with phase := .selecting .init }, [.wrote msg])
  | .writing _, .write (.error e) => some ({ s with phase := .returned }, [.writeFailed e])
  | _, _ => none

/-- The runs of one control session whose steps all meet `C`. -/
def SessionRun (json : Json ControlMessage) {Local : Type} (loop : Loop Local)
    (C : Session → Action Local → Prop) (as : List (Action Local)) (s : Session)
    (tr : List Event) : Prop :=
  Run (step json loop) C Session.start as s tr

/-- The messages that the other side has sent. -/
def sentIn (tr : List Event) : List ControlMessage :=
  tr.filterMap fun
    | .sent msg => some msg
    | _ => none

/-- The messages that `recv_json` has yielded. -/
def receivedIn (tr : List Event) : List ControlMessage :=
  tr.filterMap fun
    | .received msg _ => some msg
    | _ => none

/-- The errors that it has yielded. -/
def errorsIn (tr : List Event) : List RecvError :=
  tr.filterMap fun
    | .failed e => some e
    | _ => none

@[simp] theorem sentIn_append (tr es : List Event) : sentIn (tr ++ es) = sentIn tr ++ sentIn es :=
  List.filterMap_append

@[simp] theorem receivedIn_append (tr es : List Event) :
    receivedIn (tr ++ es) = receivedIn tr ++ receivedIn es :=
  List.filterMap_append

@[simp] theorem errorsIn_append (tr es : List Event) :
    errorsIn (tr ++ es) = errorsIn tr ++ errorsIn es :=
  List.filterMap_append

end Ghostport.Control
