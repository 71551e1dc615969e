import Ghostport.Lib.Network

/-!
# What a machine can still do

`CanReach step C s Q`: from `s` there are steps that all meet `C` and lead to a state with `Q`,
of which `Q` sees the events too. `C` says who takes part: that everybody else is silent and a
good state is still reached shows that the rest of the state is in nobody's way.

* `CanReach.bind`: one stretch after another.
* `CanReach.drain`: steps that make a measure smaller, until it is zero.
* `Network.lift`: what one party can do, the network of all parties can.
-/

namespace Ghostport.Lib

variable {σ α ε : Type*} {step : σ → α → Option (σ × List ε)} {C : σ → α → Prop} {s : σ}

def CanReach (step : σ → α → Option (σ × List ε)) (C : σ → α → Prop) (s : σ)
    (Q : σ → List ε → Prop) : Prop :=
  ∃ as t tr, Run step C s as t tr ∧ Q t tr

theorem Run.append {t u : σ} {as bs : List α} {tr tr' : List ε} (h : Run step C s as t tr)
    (h' : Run step C t bs u tr') : Run step C s (as ++ bs) u (tr ++ tr') := by
  induction h' with
  | nil => simpa using h
  | snoc _ hC hst ih =>
    rw [← List.append_assoc, ← List.append_assoc]
    exact ih.snoc hC hst

namespace CanReach

variable {P Q : σ → List ε → Prop}

theorem now (h : Q s []) : CanReach step C s Q := ⟨[], s, [], .nil, h⟩

theorem mono (h : CanReach step C s P) (hPQ : ∀ t tr, P t tr → Q t tr) : CanReach step C s Q := by
  obtain ⟨as, t, tr, hrun, hP⟩ := h
  exact ⟨as, t, tr, hrun, hPQ t tr hP⟩

theorem weaken {D : σ → α → Prop} (h : CanReach step C s Q) (hCD : ∀ t a, C t a → D t a) :
    CanReach step D s Q := by
  obtain ⟨as, t, tr, hrun, hQ⟩ := h
  exact ⟨as, t, tr, hrun.mono hCD, hQ⟩

/-- A step, and what follows it. -/
theorem next {t : σ} {a : α} {es : List ε} (hC : C s a) (hst : step s a = some (t, es))
    (h : CanReach step C t fun u tr => Q u (es ++ tr)) : CanReach step C s Q := by
  obtain ⟨as, u, tr, hrun, hQ⟩ := h
  have hfirst : Run step C s [a] t es := by simpa using Run.nil.snoc hC hst
  exact ⟨[a] ++ as, u, es ++ tr, hfirst.append hrun, hQ⟩

theorem bind (h : CanReach step C s P)
    (hnext : ∀ t tr, P t tr → CanReach step C t fun u tr' => Q u (tr ++ tr')) :
    CanReach step C s Q := by
  obtain ⟨as, t, tr, hrun, hP⟩ := h
  obtain ⟨bs, u, tr', hrun', hQ⟩ := hnext t tr hP
  exact ⟨as ++ bs, u, tr ++ tr', hrun.append hrun', hQ⟩

/-- Where every state with `I` has a step that keeps `I` and makes `m` smaller, a state with
    `I` is reached in which `m` is zero. -/
theorem drain {I : σ → Prop} {m : σ → ℕ}
    (hstep : ∀ s, I s → m s ≠ 0 → ∃ a t es, C s a ∧ step s a = some (t, es) ∧ I t ∧ m t < m s)
    (hI : I s) : CanReach step C s fun t _ => I t ∧ m t = 0 := by
  induction hm : m s using Nat.strongRecOn generalizing s with
  | ind n ih =>
    by_cases hzero : m s = 0
    · exact now ⟨hI, hzero⟩
    · obtain ⟨a, t, es, hC, hst, hIt, hlt⟩ := hstep s hI hzero
      exact next hC hst (ih (m t) (hm ▸ hlt) hIt rfl)

end CanReach

/-! ## In a network -/

namespace Network

variable {ι : Type*} {σ α ε : ι → Type*} {μ : Type*} [DecidableEq ι] [DecidableEq μ]
  {N : Network σ α ε μ}

/-- A party alone takes steps, which read what was sent. The others stay where they are. -/
theorem lift {i : ι} {s : State σ μ} {D : σ i → α i → Prop} {C : State σ μ → (Σ i, α i) → Prop}
    {Q : σ i → List (ε i) → Prop} (hC : ∀ t a, D (t.parts i) a → C t ⟨i, a⟩)
    (h : CanReach (N.party i) (fun p a => D p a ∧ ∀ m ∈ N.reads i p a, m ∈ s.sent) (s.parts i) Q) :
    CanReach N.step C s fun t tr => ∃ es, Q (t.parts i) es ∧ (∀ j ≠ i, t.parts j = s.parts j) ∧
      t.sent = s.sent ++ es.filterMap (N.sends i) ∧ tr = es.map (Sigma.mk i) := by
  obtain ⟨as, p, es, hrun, hQ⟩ := h
  suffices hall : Run N.step C s (as.map (Sigma.mk i))
      ⟨Function.update s.parts i p, s.sent ++ es.filterMap (N.sends i)⟩ (es.map (Sigma.mk i)) by
    refine ⟨_, _, _, hall, es, ?_, fun j hj => Function.update_of_ne hj _ _, rfl, rfl⟩
    show Q (Function.update s.parts i p i) es
    rwa [Function.update_self]
  clear hQ
  induction hrun with
  | nil => simpa using Run.nil
  | @snoc as p p' es new a _ hD hst ih =>
    obtain ⟨hparty, hread⟩ := hD
    simp only [List.map_append, List.map_cons, List.map_nil]
    refine ih.snoc (hC _ a (by simpa using hparty)) ?_
    have hreads : ∀ m ∈ N.reads i (Function.update s.parts i p i) a,
        m ∈ s.sent ++ es.filterMap (N.sends i) := by
      rw [Function.update_self]
      exact fun m hm => List.mem_append_left _ (hread m hm)
    unfold step
    rw [if_pos hreads]
    show Option.map _ (N.party i (Function.update s.parts i p i) a) = _
    rw [Function.update_self, hst]
    simp

end Network

end Ghostport.Lib
