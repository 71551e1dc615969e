import Ghostport.Lib.Machine

/-!
# Machines that exchange messages

A family of machines, one for each party, and a network. The network keeps every message that
was sent, and a party reads any of them at any time: messages are delayed, reordered, lost and
repeated, and none is made up.

* `Network.step`: the machine of all parties together.
* `Network.party_run`: what a party does is a run of its own machine.
* `Network.sent_eq`: the network holds what the events of the parties have sent.
* `Network.read_sent`: a party takes only messages that some party has sent before.
* `Network.learned`: what a party knows from the messages that were sent.
-/

namespace Ghostport.Lib

variable {ι : Type*} {σ α ε : ι → Type*} {μ : Type*}

/-- The parties: their machines, the message that an event sends, the message that an action
    reads, and the message that an event shows to have been read. -/
structure Network (σ α ε : ι → Type*) (μ : Type*) where
  party : (i : ι) → σ i → α i → Option (σ i × List (ε i))
  sends : (i : ι) → ε i → Option μ
  reads : (i : ι) → σ i → α i → Option μ
  takes : (i : ι) → ε i → Option μ
  takes_reads : ∀ i s a s' es, party i s a = some (s', es) → ∀ e ∈ es, ∀ m,
    takes i e = some m → reads i s a = some m

namespace Network

/-- The states of the parties, and all messages sent so far. -/
structure State (σ : ι → Type*) (μ : Type*) where
  parts : (i : ι) → σ i
  sent : List μ

variable [DecidableEq ι] [DecidableEq μ] (N : Network σ α ε μ)

/-- One party takes a step. -/
def step (s : State σ μ) (a : Σ i, α i) : Option (State σ μ × List (Σ i, ε i)) :=
  if ∀ m ∈ N.reads a.1 (s.parts a.1) a.2, m ∈ s.sent then
    (N.party a.1 (s.parts a.1) a.2).map fun r =>
      (⟨Function.update s.parts a.1 r.1, s.sent ++ r.2.filterMap (N.sends a.1)⟩,
        r.2.map (Sigma.mk a.1))
  else none

/-- The events of the party `i`. -/
def eventsOf (i : ι) (tr : List (Σ i, ε i)) : List (ε i) :=
  tr.filterMap fun e => if h : e.1 = i then some (h ▸ e.2) else none

omit [DecidableEq μ] in
theorem eventsOf_append (i : ι) (tr tr' : List (Σ i, ε i)) :
    eventsOf i (tr ++ tr') = eventsOf i tr ++ eventsOf i tr' :=
  List.filterMap_append

theorem eventsOf_self (i : ι) (es : List (ε i)) : eventsOf i (es.map (Sigma.mk i)) = es := by
  induction es with
  | nil => rfl
  | cons e es ih =>
    rw [List.map_cons, eventsOf, List.filterMap_cons]
    simp only [dite_true]
    exact congrArg (e :: ·) ih

theorem eventsOf_ne {i j : ι} (h : j ≠ i) (es : List (ε j)) :
    eventsOf i (es.map (Sigma.mk j)) = [] := by
  apply List.filterMap_eq_nil_iff.mpr
  intro e he
  obtain ⟨e', -, rfl⟩ := List.mem_map.mp he
  exact dif_neg h

theorem mem_eventsOf {i : ι} {e : ε i} {tr : List (Σ i, ε i)} :
    e ∈ eventsOf i tr ↔ ⟨i, e⟩ ∈ tr := by
  unfold eventsOf
  rw [List.mem_filterMap]
  constructor
  · rintro ⟨⟨j, e'⟩, hmem, heq⟩
    split at heq
    · rename_i h
      subst h
      obtain rfl := Option.some.inj heq
      exact hmem
    · cases heq
  · intro hmem
    exact ⟨⟨i, e⟩, hmem, dif_pos rfl⟩

variable {N} {s s' : State σ μ} {a : Σ i, α i} {es : List (Σ i, ε i)}

/-- What a step does: one party moves, and reads what was sent. -/
theorem step_cases (h : N.step s a = some (s', es)) :
    ∃ r, N.party a.1 (s.parts a.1) a.2 = some r ∧
      (∀ m ∈ N.reads a.1 (s.parts a.1) a.2, m ∈ s.sent) ∧
      s' = ⟨Function.update s.parts a.1 r.1, s.sent ++ r.2.filterMap (N.sends a.1)⟩ ∧
      es = r.2.map (Sigma.mk a.1) := by
  unfold step at h
  split at h
  · rename_i hread
    obtain ⟨r, hr, heq⟩ := Option.map_eq_some_iff.mp h
    cases heq
    exact ⟨r, hr, hread, rfl, rfl⟩
  · cases h

variable {C : State σ μ → (Σ i, α i) → Prop} {s₀ : (i : ι) → σ i} {as : List (Σ i, α i)}
  {tr : List (Σ i, ε i)}

theorem party_run (h : Run N.step C ⟨s₀, []⟩ as s tr) (i : ι) :
    ∃ bs, Run (N.party i) Free (s₀ i) bs (s.parts i) (eventsOf i tr) := by
  refine h.invariant (I := fun s tr =>
    ∃ bs, Run (N.party i) Free (s₀ i) bs (s.parts i) (eventsOf i tr)) ⟨[], .nil⟩ ?_
  rintro s tr ⟨j, a⟩ s' es ⟨bs, hrun⟩ - hst
  obtain ⟨r, hr, -, rfl, rfl⟩ := step_cases hst
  rw [eventsOf_append]
  by_cases hij : j = i
  · subst hij
    refine ⟨bs ++ [a], ?_⟩
    rw [eventsOf_self]
    show Run _ _ _ _ (Function.update s.parts j r.1 j) _
    rw [Function.update_self]
    exact hrun.snoc trivial hr
  · refine ⟨bs, ?_⟩
    rw [eventsOf_ne hij, List.append_nil]
    show Run _ _ _ _ (Function.update s.parts j r.1 i) _
    rw [Function.update_of_ne (Ne.symm hij)]
    exact hrun

theorem sent_eq (h : Run N.step C ⟨s₀, []⟩ as s tr) :
    s.sent = tr.filterMap fun e => N.sends e.1 e.2 := by
  refine h.invariant (I := fun s tr => s.sent = tr.filterMap fun e => N.sends e.1 e.2) rfl ?_
  rintro s tr ⟨j, a⟩ s' es hsent - hst
  obtain ⟨r, -, -, rfl, rfl⟩ := step_cases hst
  show s.sent ++ r.2.filterMap (N.sends j) = _
  rw [List.filterMap_append, List.filterMap_map, hsent]
  rfl

/-- What a party knows from the messages it reads: what more messages leave true, and what each
    step of the party keeps that reads a message which was sent. -/
theorem learned {i : ι} {I : σ i → List (ε i) → List μ → Prop} (hinit : I (s₀ i) [] [])
    (hmono : ∀ {p es sent} (more : List μ), I p es sent → I p es (sent ++ more))
    (hstep : ∀ {p es sent b p' new}, I p es sent → (∀ m ∈ N.reads i p b, m ∈ sent) →
      N.party i p b = some (p', new) → I p' (es ++ new) sent)
    (h : Run N.step C ⟨s₀, []⟩ as s tr) : I (s.parts i) (eventsOf i tr) s.sent := by
  refine h.invariant (I := fun s tr => I (s.parts i) (eventsOf i tr) s.sent) hinit ?_
  rintro s tr ⟨j, a⟩ s' es hinv - hst
  obtain ⟨r, hr, hread, rfl, rfl⟩ := step_cases hst
  show I (Function.update s.parts j r.1 i) _ (s.sent ++ r.2.filterMap (N.sends j))
  rw [eventsOf_append]
  apply hmono
  by_cases hij : j = i
  · subst hij
    rw [Function.update_self, eventsOf_self]
    exact hstep hinv hread hr
  · rw [Function.update_of_ne (Ne.symm hij), eventsOf_ne hij, List.append_nil]
    exact hinv

/-- A message that a party takes was sent by a party before. -/
theorem read_sent (h : Run N.step C ⟨s₀, []⟩ as s tr) :
    EachAfter (fun before e => ∀ m, N.takes e.1 e.2 = some m →
      ∃ e' ∈ before, N.sends e'.1 e'.2 = some m) tr := by
  induction h with
  | nil => exact eachAfter_nil _
  | @snoc as s s' tr es a hr _ hst ih =>
    rw [eachAfter_append]
    refine ⟨ih, eachAfter_of_forall ?_⟩
    obtain ⟨r, hparty, hread, -, rfl⟩ := step_cases hst
    rintro e he es₁ m htakes
    obtain ⟨e', he', rfl⟩ := List.mem_map.mp he
    have hsent := hread m (N.takes_reads _ _ _ _ _ hparty e' he' m htakes)
    rw [sent_eq hr] at hsent
    obtain ⟨e'', he'', hsends⟩ := List.mem_filterMap.mp hsent
    exact ⟨e'', List.mem_append_left _ he'', hsends⟩

end Network

end Ghostport.Lib
