import Mathlib.Algebra.BigOperators.Group.List.Basic
import Mathlib.Algebra.Group.Prod
import Mathlib.Data.List.Perm.Basic
import Ghostport.Core.Stats
import Ghostport.Lib.Machine

/-!
# The streams of one link and its counters (`crates/ghostport-core/src/relay.rs`)

Many calls of `relay` share the counters of a link. A call counts its stream when it starts,
awaits `copy_bidirectional`, and counts again when that returns. A clean close returns the
bytes that were copied; an error returns nothing but itself.

Results:
* `countersInv_run`: what the counters hold after any interleaving.
* `conserved_iff`: exactly when the counters of an idle link add up to the bytes copied.
-/

namespace Ghostport.Core.Relay

open Ghostport.Lib

/-! ## Model -/

/-- Bytes copied from `a` to `b`, and from `b` to `a`. -/
abbrev Bytes := ℕ × ℕ

/-- The calls of `relay` that await `copy_bidirectional`, with the bytes each has copied. -/
structure State where
  stats : LinkStats
  active : List Bytes

inductive Action where
  /-- A stream is opened on the link. -/
  | start
  /-- The copy of stream `i` moves bytes. -/
  | copy (i : ℕ) (bytes : Bytes)
  /-- `copy_bidirectional` of stream `i` returns, with an error if there is one. -/
  | finish (i : ℕ) (error : Option String)

inductive Event where
  | started
  | copied (bytes : Bytes)
  | ended (stream : Bytes) (error : Option String)
  deriving DecidableEq, Repr

/-- What `copy_bidirectional` returns: the bytes copied, or the error. -/
def copyResult (stream : Bytes) : Option String → Except String (UInt64 × UInt64)
  | none => .ok (UInt64.ofNat stream.1, UInt64.ofNat stream.2)
  | some e => .error e

/-- `relay` (lines 15-43), for all the streams of one link. -/
def step (s : State) : Action → Option (State × List Event)
  | .start => some (⟨s.stats.relayStart, s.active ++ [0]⟩, [.started])
  | .copy i bytes =>
    match s.active[i]? with
    | none => none
    | some stream => some ({ s with active := s.active.set i (stream + bytes) }, [.copied bytes])
  | .finish i error =>
    match s.active[i]? with
    | none => none
    | some stream =>
      some (⟨s.stats.relayEnd (copyResult stream error), s.active.eraseIdx i⟩,
        [.ended stream error])

/-- The runs of the streams of one link. -/
def RelayRun (as : List Action) (s : State) (tr : List Event) : Prop :=
  Run step Free ⟨.zero, []⟩ as s tr

/-! ## What a trace adds up to -/

def Event.opened : Event → ℕ
  | .started => 1
  | _ => 0

def Event.moved : Event → Bytes
  | .copied bytes => bytes
  | _ => 0

/-- What a stream that closes cleanly returns. -/
def Event.returned : Event → Bytes
  | .ended stream none => stream
  | _ => 0

/-- What a stream that ends with an error had copied. -/
def Event.lost : Event → Bytes
  | .ended stream (some _) => stream
  | _ => 0

/-- The number of streams started. -/
def openedIn (tr : List Event) : ℕ := (tr.map (·.opened)).sum

/-- The bytes copied by all streams. -/
def movedIn (tr : List Event) : Bytes := (tr.map (·.moved)).sum

def returnedIn (tr : List Event) : Bytes := (tr.map (·.returned)).sum

def lostIn (tr : List Event) : Bytes := (tr.map (·.lost)).sum

section

variable (tr : List Event) (e : Event)

@[simp] theorem openedIn_concat : openedIn (tr ++ [e]) = openedIn tr + e.opened := by
  simp [openedIn]

@[simp] theorem movedIn_concat : movedIn (tr ++ [e]) = movedIn tr + e.moved := by
  simp [movedIn]

@[simp] theorem returnedIn_concat : returnedIn (tr ++ [e]) = returnedIn tr + e.returned := by
  simp [returnedIn]

@[simp] theorem lostIn_concat : lostIn (tr ++ [e]) = lostIn tr + e.lost := by
  simp [lostIn]

end

/-! ## The counters -/

/-- The counters hold what clean closes have returned, modulo `2 ^ 64`. Every byte copied was
    returned, is lost, or is one of a stream that is still active. -/
structure CountersInv (s : State) (tr : List Event) : Prop where
  activeStreams : s.stats.activeStreams = UInt64.ofNat s.active.length
  totalStreams : s.stats.totalStreams = UInt64.ofNat (openedIn tr)
  bytesForward : s.stats.bytesForward = UInt64.ofNat (returnedIn tr).1
  bytesBack : s.stats.bytesBack = UInt64.ofNat (returnedIn tr).2
  moved : movedIn tr = returnedIn tr + lostIn tr + s.active.sum

theorem sum_set_add {l : List Bytes} {i : ℕ} {x : Bytes} (h : l[i]? = some x) (y : Bytes) :
    (l.set i (x + y)).sum = l.sum + y := by
  obtain ⟨hlt, rfl⟩ := List.getElem?_eq_some_iff.mp h
  rw [(List.set_perm_cons_eraseIdx hlt _).sum_eq, ← (List.getElem_cons_eraseIdx_perm hlt).sum_eq,
    List.sum_cons, List.sum_cons, add_right_comm]

theorem sum_eraseIdx {l : List Bytes} {i : ℕ} {x : Bytes} (h : l[i]? = some x) :
    l.sum = x + (l.eraseIdx i).sum := by
  obtain ⟨hlt, rfl⟩ := List.getElem?_eq_some_iff.mp h
  rw [← (List.getElem_cons_eraseIdx_perm hlt).sum_eq, List.sum_cons]

theorem activeStreams_eraseIdx {s : State} {i : ℕ} {x : Bytes} (hi : s.active[i]? = some x)
    (h : s.stats.activeStreams = UInt64.ofNat s.active.length) :
    s.stats.activeStreams - 1 = UInt64.ofNat (s.active.eraseIdx i).length := by
  obtain ⟨hlt, -⟩ := List.getElem?_eq_some_iff.mp hi
  have hlength : s.active.length = (s.active.eraseIdx i).length + 1 := by
    rw [List.length_eraseIdx_of_lt hlt]
    omega
  rw [h, hlength, UInt64.ofNat_add]
  exact UInt64.add_sub_cancel _ _

theorem countersInv_step {s s' : State} {tr es : List Event} {a : Action} (h : CountersInv s tr)
    (hst : step s a = some (s', es)) : CountersInv s' (tr ++ es) := by
  unfold step at hst
  split at hst
  · -- a stream starts
    cases hst
    constructor
    case activeStreams =>
      simp [LinkStats.relayStart, h.activeStreams, UInt64.ofNat_add]
    case totalStreams =>
      simp [LinkStats.relayStart, h.totalStreams, Event.opened, UInt64.ofNat_add]
    case bytesForward => simpa [LinkStats.relayStart, Event.returned] using h.bytesForward
    case bytesBack => simpa [LinkStats.relayStart, Event.returned] using h.bytesBack
    case moved => simpa [Event.moved, Event.returned, Event.lost] using h.moved
  · -- bytes are copied
    split at hst
    · cases hst
    · rename_i bytes stream hi
      cases hst
      constructor
      case activeStreams => simpa using h.activeStreams
      case totalStreams => simpa [Event.opened] using h.totalStreams
      case bytesForward => simpa [Event.returned] using h.bytesForward
      case bytesBack => simpa [Event.returned] using h.bytesBack
      case moved =>
        simp only [movedIn_concat, returnedIn_concat, lostIn_concat, Event.moved, Event.returned,
          Event.lost, add_zero]
        rw [h.moved, sum_set_add hi, ← add_assoc]
  · -- a stream ends
    split at hst
    · cases hst
    · rename_i error _ stream hi
      cases hst
      have hactive := activeStreams_eraseIdx hi h.activeStreams
      have hmoved := h.moved
      rw [sum_eraseIdx hi] at hmoved
      cases error with
      | none =>
        constructor
        case activeStreams => exact hactive
        case totalStreams =>
          simpa [copyResult, LinkStats.relayEnd, Event.opened] using h.totalStreams
        case bytesForward =>
          simp [copyResult, LinkStats.relayEnd, Event.returned, h.bytesForward, UInt64.ofNat_add]
        case bytesBack =>
          simp [copyResult, LinkStats.relayEnd, Event.returned, h.bytesBack, UInt64.ofNat_add]
        case moved =>
          simp only [movedIn_concat, returnedIn_concat, lostIn_concat, Event.moved, Event.returned,
            Event.lost, add_zero]
          rw [hmoved, ← add_assoc, add_right_comm (returnedIn tr) (lostIn tr)]
      | some e =>
        constructor
        case activeStreams => exact hactive
        case totalStreams =>
          simpa [copyResult, LinkStats.relayEnd, Event.opened] using h.totalStreams
        case bytesForward =>
          simpa [copyResult, LinkStats.relayEnd, Event.returned] using h.bytesForward
        case bytesBack =>
          simpa [copyResult, LinkStats.relayEnd, Event.returned] using h.bytesBack
        case moved =>
          simp only [movedIn_concat, returnedIn_concat, lostIn_concat, Event.moved, Event.returned,
            Event.lost, add_zero]
          rw [hmoved, ← add_assoc, ← add_assoc]

theorem countersInv_run {as : List Action} {s : State} {tr : List Event} (h : RelayRun as s tr) :
    CountersInv s tr :=
  h.invariant (I := CountersInv) ⟨rfl, rfl, rfl, rfl, rfl⟩
    fun _ _ _ _ _ hinv _ hst => countersInv_step hinv hst

/-! ## Results -/

/-- What the counters of a link say where no stream is active: as many bytes as were copied, no
    active stream, and as many streams as were started. -/
structure Conserved (s : State) (tr : List Event) : Prop where
  bytes : s.stats.bytesForward.toNat + s.stats.bytesBack.toNat = (movedIn tr).1 + (movedIn tr).2
  activeStreams : s.stats.activeStreams = 0
  totalStreams : s.stats.totalStreams.toNat = openedIn tr

/-- No stream that ended with an error had copied a byte, and nothing is too large for its
    counter. -/
structure Lossless (tr : List Event) : Prop where
  errors : ∀ stream e, .ended stream (some e) ∈ tr → stream = 0
  forward : (movedIn tr).1 < 2 ^ 64
  back : (movedIn tr).2 < 2 ^ 64
  streams : openedIn tr < 2 ^ 64

theorem lostIn_eq_zero {tr : List Event} :
    lostIn tr = 0 ↔ ∀ stream e, .ended stream (some e) ∈ tr → stream = 0 := by
  induction tr using List.reverseRecOn with
  | nil => simp [lostIn]
  | append_singleton tr e ih =>
    have hsum : lostIn tr + e.lost = 0 ↔ lostIn tr = 0 ∧ e.lost = 0 := by
      simp only [Prod.ext_iff, Prod.fst_add, Prod.snd_add, Prod.fst_zero, Prod.snd_zero]
      omega
    rw [lostIn_concat, hsum, ih]
    simp only [List.mem_append, List.mem_singleton]
    constructor
    · rintro ⟨htr, he⟩ stream error (hmem | rfl)
      · exact htr stream error hmem
      · exact he
    · intro h
      refine ⟨fun stream error hmem => h stream error (.inl hmem), ?_⟩
      unfold Event.lost
      split
      · rename_i stream error
        exact h stream error (.inr rfl)
      · rfl

/-- Whatever streams a link has relayed, in any interleaving: once none is active, the counters
    are right exactly if no stream that ended with an error had copied anything, and no counter
    has wrapped. -/
theorem conserved_iff {as : List Action} {s : State} {tr : List Event} (h : RelayRun as s tr)
    (hidle : s.active = []) : Conserved s tr ↔ Lossless tr := by
  obtain ⟨hactive, htotal, hforward, hback, hmoved⟩ := countersInv_run h
  rw [hidle, List.sum_nil, add_zero] at hmoved
  have hfst : (movedIn tr).1 = (returnedIn tr).1 + (lostIn tr).1 := congrArg Prod.fst hmoved
  have hsnd : (movedIn tr).2 = (returnedIn tr).2 + (lostIn tr).2 := congrArg Prod.snd hmoved
  have hlost : lostIn tr = 0 ↔ (lostIn tr).1 = 0 ∧ (lostIn tr).2 = 0 := Prod.ext_iff
  have hbytes : s.stats.bytesForward.toNat + s.stats.bytesBack.toNat =
      (returnedIn tr).1 % 2 ^ 64 + (returnedIn tr).2 % 2 ^ 64 := by
    rw [hforward, hback, UInt64.toNat_ofNat', UInt64.toNat_ofNat']
  have hstreams : s.stats.totalStreams.toNat = openedIn tr % 2 ^ 64 := by
    rw [htotal, UInt64.toNat_ofNat']
  constructor
  · intro hc
    have hsum := hc.bytes
    have hopened := hc.totalStreams
    rw [hbytes] at hsum
    rw [hstreams] at hopened
    refine ⟨lostIn_eq_zero.mp (hlost.mpr ⟨?_, ?_⟩), ?_, ?_, ?_⟩ <;> omega
  · intro hl
    obtain ⟨hlost₁, hlost₂⟩ := hlost.mp (lostIn_eq_zero.mpr hl.errors)
    obtain ⟨-, hlt₁, hlt₂, hlt⟩ := hl
    refine ⟨?_, ?_, ?_⟩
    · rw [hbytes]
      omega
    · rw [hactive, hidle]
      rfl
    · rw [hstreams]
      omega

/-- A stream is reset after it has carried seven bytes. -/
theorem reset_lost : ∃ s tr,
    RelayRun [.start, .copy 0 (4, 3), .finish 0 (some "Connection reset by peer (os error 104)")]
      s tr ∧ s.active = [] ∧ (movedIn tr).1 + (movedIn tr).2 = 7 ∧
    s.stats.bytesForward.toNat + s.stats.bytesBack.toNat = 0 :=
  ⟨_, _, run_of_exec rfl, rfl, rfl, rfl⟩

/-- Two streams, one of them closed before the other ends with an error. -/
theorem conserved_iff_two : ∃ s tr,
    RelayRun [.start, .start, .copy 1 (4, 3), .finish 1 none, .finish 0 (some "early eof")] s tr ∧
      Conserved s tr := by
  obtain ⟨s, tr, hrun, hidle, htr⟩ : ∃ s tr,
      RelayRun [.start, .start, .copy 1 (4, 3), .finish 1 none, .finish 0 (some "early eof")]
        s tr ∧ s.active = [] ∧
      tr = [.started, .started, .copied (4, 3), .ended (4, 3) none,
        .ended 0 (some "early eof")] := ⟨_, _, run_of_exec rfl, rfl, rfl⟩
  refine ⟨s, tr, hrun, (conserved_iff hrun hidle).mpr ?_⟩
  subst htr
  exact ⟨by simp, by decide, by decide, by decide⟩

end Ghostport.Core.Relay
