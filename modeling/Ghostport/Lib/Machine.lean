import Mathlib.Data.List.Basic
import Mathlib.Data.Option.Basic

/-!
# Machines with outputs

A machine is a function `step : σ → α → Option (σ × List ε)`: `step s a` is
the state after the action `a` and the events it emits, `none` if `a` cannot
happen in `s`. All nondeterminism (scheduling, the network, clocks, failures of
outside code) is in the choice of the actions, so a run is determined by its
first state and its actions.

* `Run step C s₀ as s tr`: the actions `as`, each meeting `C` in the state it
  is taken in, lead from `s₀` to `s` and emit `tr`.
* `Run.invariant`: the induction rule over runs.
* `Run.exact_state`, `Run.exact`: where one step stays good exactly if it meets `C`,
  a whole run is good exactly if all its steps do.
* `Always`, `Run.always_iff`: the same for a property of all the states of a run, where an
  invariant may be used that only the good states keep.
* `observe`: the same machine with other outputs.
* `Run.transfer`: runs from states that agree in all that the steps depend on.
* `Run.simulates`: forward simulation of one machine by another.
* `EachAfter P tr`: each event of `tr` has `P` with what came before it.
* `exec`, `run_of_exec`: the run of a list of actions, computed.
-/

namespace Ghostport.Lib

variable {σ α ε : Type*}

/-- The runs from `s₀` whose steps all meet `C`, with their actions, last state
    and emitted events. -/
inductive Run (step : σ → α → Option (σ × List ε)) (C : σ → α → Prop) (s₀ : σ) :
    List α → σ → List ε → Prop
  | nil : Run step C s₀ [] s₀ []
  | snoc {as : List α} {s s' : σ} {tr es : List ε} {a : α} : Run step C s₀ as s tr → C s a →
      step s a = some (s', es) → Run step C s₀ (as ++ [a]) s' (tr ++ es)

/-- No condition on the steps. -/
def Free (_ : σ) (_ : α) : Prop := True

instance (s : σ) (a : α) : Decidable (Free s a) := inferInstanceAs (Decidable True)

section Runs

variable {step : σ → α → Option (σ × List ε)} {C : σ → α → Prop} {s₀ s : σ}
  {as : List α} {tr : List ε}

theorem Run.mono {D : σ → α → Prop} (h : Run step C s₀ as s tr) (hCD : ∀ s a, C s a → D s a) :
    Run step D s₀ as s tr := by
  induction h with
  | nil => exact .nil
  | snoc _ hC hst ih => exact .snoc ih (hCD _ _ hC) hst

theorem Run.free (h : Run step C s₀ as s tr) : Run step Free s₀ as s tr :=
  h.mono fun _ _ _ => trivial

/-- The last step of a run. -/
theorem Run.last {a : α} (h : Run step C s₀ (as ++ [a]) s tr) :
    ∃ s₁ tr₁ es, Run step C s₀ as s₁ tr₁ ∧ C s₁ a ∧ step s₁ a = some (s, es) ∧
      tr = tr₁ ++ es := by
  generalize has : as ++ [a] = as' at h
  cases h with
  | nil => simp at has
  | snoc hr hC hst =>
    obtain ⟨rfl, ha⟩ := List.append_inj' has rfl
    cases ha
    exact ⟨_, _, _, hr, hC, hst, rfl⟩

/-- A run is determined by its actions. -/
theorem Run.det {D : σ → α → Prop} {t : σ} {tr' : List ε} (h : Run step C s₀ as s tr)
    (h' : Run step D s₀ as t tr') : s = t ∧ tr = tr' := by
  induction h generalizing t tr' with
  | nil =>
    generalize has : ([] : List α) = as' at h'
    cases h' with
    | nil => exact ⟨rfl, rfl⟩
    | snoc _ _ _ => simp at has
  | snoc _ _ hst ih =>
    obtain ⟨s₁, tr₁, es₁, hr₁, -, hst₁, rfl⟩ := h'.last
    obtain ⟨rfl, rfl⟩ := ih hr₁
    rw [hst] at hst₁
    cases hst₁
    exact ⟨rfl, rfl⟩

/-- An invariant of states and emitted events: it holds where a run starts, and
    every step that meets `C` preserves it. -/
theorem Run.invariant {I : σ → List ε → Prop} (hinit : I s₀ [])
    (hstep : ∀ s tr a s' es, I s tr → C s a → step s a = some (s', es) → I s' (tr ++ es))
    (h : Run step C s₀ as s tr) : I s tr := by
  induction h with
  | nil => exact hinit
  | snoc _ hC hst ih => exact hstep _ _ _ _ _ ih hC hst

/-- The events of a run all have the property `P` if each step emits only such
    events, where an invariant `I` of the runs may be used. -/
theorem Run.forall_events {I : σ → List ε → Prop} {P : ε → Prop}
    (hinv : ∀ {as s tr}, Run step C s₀ as s tr → I s tr)
    (hstep : ∀ s tr a s' es, I s tr → C s a → step s a = some (s', es) → ∀ e ∈ es, P e)
    (h : Run step C s₀ as s tr) : ∀ e ∈ tr, P e := by
  induction h with
  | nil => simp
  | snoc hr hC hst ih =>
    intro e he
    rcases List.mem_append.mp he with he | he
    · exact ih e he
    · exact hstep _ _ _ _ _ (hinv hr) hC hst e he

/-- If a step stays good exactly when it meets `C`, then a run is good exactly when all
    its steps meet `C`. -/
theorem Run.exact_state {I Good : σ → List ε → Prop}
    (hinv : ∀ {as s tr}, Run step Free s₀ as s tr → I s tr) (hnil : Good s₀ [])
    (hstep : ∀ s tr a s' es, I s tr → step s a = some (s', es) →
      (Good s' (tr ++ es) ↔ Good s tr ∧ C s a))
    (h : Run step Free s₀ as s tr) : Good s tr ↔ Run step C s₀ as s tr := by
  induction h with
  | nil => exact ⟨fun _ => .nil, fun _ => hnil⟩
  | snoc hr _ hst ih =>
    rw [hstep _ _ _ _ _ (hinv hr) hst, ih]
    constructor
    · rintro ⟨hrun, hC⟩
      exact .snoc hrun hC hst
    · intro hrun
      obtain ⟨s₁, tr₁, es₁, hr₁, hC₁, -, -⟩ := hrun.last
      obtain ⟨rfl, rfl⟩ := hr.det hr₁
      exact ⟨hr₁, hC₁⟩

/-- If a step keeps the emitted events good exactly when it meets `C`, then the
    events of a run are good exactly when all its steps meet `C`. -/
theorem Run.exact {I : σ → List ε → Prop} {Good : List ε → Prop}
    (hinv : ∀ {as s tr}, Run step Free s₀ as s tr → I s tr) (hnil : Good [])
    (hstep : ∀ s tr a s' es, I s tr → step s a = some (s', es) →
      (Good (tr ++ es) ↔ Good tr ∧ C s a))
    (h : Run step Free s₀ as s tr) : Good tr ↔ Run step C s₀ as s tr :=
  h.exact_state hinv hnil hstep

/-- Every state of the run of `as`, its first and its last among them, has the property `P`. -/
def Always (step : σ → α → Option (σ × List ε)) (s₀ : σ) (P : σ → Prop) (as : List α) : Prop :=
  ∀ bs cs t tr, as = bs ++ cs → Run step Free s₀ bs t tr → P t

theorem always_nil {P : σ → Prop} (h : P s₀) : Always step s₀ P [] := by
  intro bs cs t tr heq hrun
  obtain ⟨rfl, -⟩ := List.append_eq_nil_iff.mp heq.symm
  obtain ⟨rfl, -⟩ := hrun.det (.nil (C := Free))
  exact h

theorem always_snoc {P : σ → Prop} {s' : σ} {a : α} {es : List ε}
    (h : Run step Free s₀ as s tr) (hst : step s a = some (s', es)) :
    Always step s₀ P (as ++ [a]) ↔ Always step s₀ P as ∧ P s' := by
  constructor
  · intro hall
    refine ⟨fun bs cs t tr' heq => ?_, hall (as ++ [a]) [] s' _ (by simp) (h.snoc trivial hst)⟩
    exact hall bs (cs ++ [a]) t tr' (by rw [heq, List.append_assoc])
  · rintro ⟨hall, hlast⟩ bs cs t tr' heq hrun
    rcases List.eq_nil_or_concat cs with rfl | ⟨cs', b, rfl⟩
    · rw [List.append_nil] at heq
      subst heq
      obtain ⟨rfl, -⟩ := hrun.det (h.snoc trivial hst)
      exact hlast
    · rw [List.concat_eq_append, ← List.append_assoc] at heq
      obtain ⟨rfl, -⟩ := List.append_inj' heq rfl
      exact hall bs cs' t tr' rfl hrun

/-- A run whose steps all lead to good states. -/
theorem Run.always {P : σ → Prop} (hinit : P s₀)
    (h : Run step (fun s a => ∀ r ∈ step s a, P r.1) s₀ as s tr) : Always step s₀ P as := by
  induction h with
  | nil => exact always_nil hinit
  | snoc hr hP hst ih => exact (always_snoc hr.free hst).mpr ⟨ih, hP _ hst⟩

/-- If a step from a good state leads to a good one exactly when it meets `C`, then all states
    of a run are good exactly when all its steps meet `C`. The invariant `J` is kept by the
    steps from good states. -/
theorem Run.always_iff {J Good : σ → Prop} (hJ : J s₀) (hgood : Good s₀)
    (hkeep : ∀ s a s' es, J s → Good s → step s a = some (s', es) → J s')
    (hstep : ∀ s a s' es, J s → Good s → step s a = some (s', es) → (Good s' ↔ C s a))
    (h : Run step Free s₀ as s tr) : Always step s₀ Good as ↔ Run step C s₀ as s tr := by
  have hinv : ∀ {as s tr}, Run step Free s₀ as s tr → Always step s₀ Good as → J s := by
    intro as s tr h
    induction h with
    | nil => exact fun _ => hJ
    | snoc hr _ hst ih =>
      intro hall
      have hbefore := ((always_snoc hr hst).mp hall).1
      exact hkeep _ _ _ _ (ih hbefore) (hbefore _ [] _ _ (by simp) hr) hst
  induction h with
  | nil => exact ⟨fun _ => .nil, fun _ => always_nil hgood⟩
  | snoc hr _ hst ih =>
    refine (always_snoc hr hst).trans ⟨?_, ?_⟩
    · rintro ⟨hbefore, hlast⟩
      have hC := hstep _ _ _ _ (hinv hr hbefore) (hbefore _ [] _ _ (by simp) hr) hst
      exact (ih.mp hbefore).snoc (hC.mp hlast) hst
    · intro hrun
      obtain ⟨s₁, tr₁, es₁, hr₁, hC₁, -, -⟩ := hrun.last
      obtain ⟨rfl, rfl⟩ := hr.det hr₁
      have hbefore := ih.mpr hr₁
      have hC := hstep _ _ _ _ (hinv hr hbefore) (hbefore _ [] _ _ (by simp) hr) hst
      exact ⟨hbefore, hC.mpr hC₁⟩

end Runs

/-! ## Runs of two machines -/

/-- A machine with other outputs: `obs` says what is seen of a step. -/
def observe {β : Type*} (step : σ → α → Option (σ × List ε)) (obs : σ → α → List ε → List β) (s : σ)
    (a : α) : Option (σ × List β) :=
  (step s a).map fun r => (r.1, obs s a r.2)

/-- Every run can be observed. -/
theorem Run.observed {β : Type*} {step : σ → α → Option (σ × List ε)}
    {obs : σ → α → List ε → List β} {C : σ → α → Prop} {s₀ s : σ} {as : List α} {tr : List ε}
    (h : Run step C s₀ as s tr) : ∃ seen, Run (observe step obs) C s₀ as s seen := by
  induction h with
  | nil => exact ⟨[], .nil⟩
  | snoc _ hC hst ih =>
    obtain ⟨seen, hrun⟩ := ih
    exact ⟨_, hrun.snoc hC (by rw [observe, hst]; rfl)⟩

/-- Where a step depends on the part `f` of the state alone, a run does. -/
theorem Run.transfer {τ : Type*} {step : σ → α → Option (σ × List ε)} {f : σ → τ}
    (hf : ∀ s t a, f s = f t → (step s a).map (Prod.map f id) = (step t a).map (Prod.map f id))
    {s₀ s t₀ : σ} {as : List α} {tr : List ε} (h₀ : f s₀ = f t₀)
    (h : Run step Free s₀ as s tr) : ∃ t, Run step Free t₀ as t tr ∧ f s = f t := by
  induction h with
  | nil => exact ⟨t₀, .nil, h₀⟩
  | @snoc as s s' tr es a _ _ hst ih =>
    obtain ⟨t, hrun, heq⟩ := ih
    have hmap := hf s t a heq
    rw [hst, Option.map_some] at hmap
    obtain ⟨⟨t', es'⟩, hst', hparts⟩ := Option.map_eq_some_iff.mp hmap.symm
    obtain ⟨hstate, rfl⟩ := Prod.mk.inj hparts
    exact ⟨t', hrun.snoc trivial hst', hstate.symm⟩

/-! ## Events and what came before them -/

/-- `P` holds of each event with the events before it. -/
def EachAfter (P : List ε → ε → Prop) (tr : List ε) : Prop :=
  ∀ tr₁ e tr₂, tr = tr₁ ++ e :: tr₂ → P tr₁ e

theorem eachAfter_nil (P : List ε → ε → Prop) : EachAfter P [] := by
  intro tr₁ e tr₂ h
  simp at h

theorem eachAfter_append {P : List ε → ε → Prop} {tr es : List ε} :
    EachAfter P (tr ++ es) ↔ EachAfter P tr ∧ EachAfter (fun es₁ e => P (tr ++ es₁) e) es := by
  constructor
  · intro h
    refine ⟨fun tr₁ e tr₂ heq => h tr₁ e (tr₂ ++ es) (by simp [heq]), fun es₁ e es₂ heq => ?_⟩
    exact h (tr ++ es₁) e es₂ (by simp [heq])
  · rintro ⟨htr, hes⟩ tr₁ e tr₂ heq
    rcases List.append_eq_append_iff.mp heq with ⟨es₁, rfl, h⟩ | ⟨tr', htr', h⟩
    · exact hes es₁ e tr₂ h
    · cases tr' with
      | nil =>
        have := hes [] e tr₂ (by simpa using h.symm)
        rwa [htr', List.append_nil, List.append_nil] at this
      | cons e' tr' =>
        cases h
        exact htr tr₁ e tr' htr'

theorem eachAfter_singleton {P : List ε → ε → Prop} {e : ε} : EachAfter P [e] ↔ P [] e := by
  constructor
  · exact fun h => h [] e [] rfl
  · intro h tr₁ e' tr₂ heq
    obtain ⟨rfl, rfl, -⟩ : tr₁ = [] ∧ e = e' ∧ tr₂ = [] := by
      cases tr₁ with
      | nil => simpa using heq
      | cons a l => simp at heq
    exact h

/-- Where no event of a step is one that `P` speaks about. -/
theorem eachAfter_of_forall {P : List ε → ε → Prop} {tr : List ε}
    (h : ∀ e ∈ tr, ∀ tr₁, P tr₁ e) : EachAfter P tr :=
  fun tr₁ e _ heq => h e (by simp [heq]) tr₁

/-! ## Computing runs -/

/-- The run of `as` from `s`: its last state and the events it emits. -/
def exec (step : σ → α → Option (σ × List ε)) (s : σ) : List α → Option (σ × List ε)
  | [] => some (s, [])
  | a :: as =>
    match step s a with
    | none => none
    | some (s', es) => (exec step s' as).map fun r => (r.1, es ++ r.2)

theorem Run.append_exec {step : σ → α → Option (σ × List ε)} {s₀ s : σ} {as : List α}
    {tr : List ε} (h : Run step Free s₀ as s tr) {bs : List α} {r : σ × List ε}
    (hr : exec step s bs = some r) : Run step Free s₀ (as ++ bs) r.1 (tr ++ r.2) := by
  induction bs generalizing as s tr r with
  | nil =>
    cases hr
    simpa using h
  | cons b bs ih =>
    simp only [exec] at hr
    split at hr
    · cases hr
    · rename_i s' es hst
      obtain ⟨q, hq, rfl⟩ := Option.map_eq_some_iff.mp hr
      have := ih (h.snoc trivial hst) hq
      simpa using this

/-- A computed run is a run. -/
theorem run_of_exec {step : σ → α → Option (σ × List ε)} {s₀ s : σ} {as : List α} {tr : List ε}
    (h : exec step s₀ as = some (s, tr)) : Run step Free s₀ as s tr := by
  simpa using Run.nil.append_exec h

/-- Forward simulation: `abs` maps states, `view` events, and each step is a number of steps
    of the other machine. -/
theorem Run.simulates {σ' α' ε' : Type*} {step : σ → α → Option (σ × List ε)}
    {step' : σ' → α' → Option (σ' × List ε')} {C : σ → α → Prop} {abs : σ → σ'}
    {view : ε → Option ε'} {s₀ s : σ} {as : List α} {tr : List ε} (h : Run step C s₀ as s tr)
    (hsim : ∀ s a s' es, step s a = some (s', es) →
      ∃ bs, exec step' (abs s) bs = some (abs s', es.filterMap view)) :
    ∃ bs, Run step' Free (abs s₀) bs (abs s) (tr.filterMap view) := by
  induction h with
  | nil => exact ⟨[], .nil⟩
  | snoc _ _ hst ih =>
    obtain ⟨bs, hrun⟩ := ih
    obtain ⟨bs', hexec⟩ := hsim _ _ _ _ hst
    rw [List.filterMap_append]
    exact ⟨bs ++ bs', hrun.append_exec hexec⟩

/-- A run of the machine that stops where `C` fails. -/
theorem Run.of_guarded {step : σ → α → Option (σ × List ε)} {C : σ → α → Prop}
    [∀ s a, Decidable (C s a)] {s₀ s : σ} {as : List α} {tr : List ε}
    (h : Run (fun s a => if C s a then step s a else none) Free s₀ as s tr) :
    Run step C s₀ as s tr := by
  induction h with
  | nil => exact .nil
  | snoc _ _ hst ih =>
    split at hst
    · rename_i hC
      exact ih.snoc hC hst
    · cases hst

/-- The events of a computed run, where the states need not be compared. -/
theorem exists_run_of_trace {step : σ → α → Option (σ × List ε)} {s₀ : σ} {as : List α}
    {tr : List ε} (h : (exec step s₀ as).map Prod.snd = some tr) :
    ∃ s, Run step Free s₀ as s tr := by
  obtain ⟨⟨s, _⟩, hr, rfl⟩ := Option.map_eq_some_iff.mp h
  exact ⟨s, run_of_exec hr⟩

end Ghostport.Lib
