import Mathlib.Data.List.Induction
import Mathlib.Data.Rat.Defs
import Ghostport.Tui.App

/-!
# Throughput (`src/tui/app.rs`, lines 192-231)

`apply_status` shifts the current snapshot to the previous one only if there is a current one:
after an error there is none, and the previous snapshot stays what it was.

Results:
* `rateSamples_applied`: which samples are kept after any sequence of calls.
* `rates_recent_iff`: when a rate is computed from the two newest samples.
-/

namespace Ghostport.Tui

open Ghostport.Core

/-- A snapshot with the time at which it was captured. -/
abbrev Sample := Instant × StatusSnapshot

/-- A call of `apply_status`: the time that it reads, and its argument. -/
abbrev StatusCall := Instant × Except String StatusSnapshot

namespace App

/-- The two samples that `link_rate` reads (lines 216-218). -/
def rateSamples (app : App) : Option (Sample × Sample) := do
  let previous ← app.previousSnapshot
  let curSnap ← app.statusSnapshot
  let curAt ← app.statusCapturedAt
  return (previous, (curAt, curSnap))

/-- `link_rate` (lines 215-231), with exact quotients for the floats. -/
def linkRate (app : App) (linkId : String) : Option (ℚ × ℚ) := do
  let ((prevAt, prevSnap), (curAt, curSnap)) ← app.rateSamples
  -- `duration_since` saturates
  let elapsed := max 0 (curAt - prevAt)
  if elapsed ≤ 0 then none
  else
    let seconds : ℚ := elapsed / 10 ^ 9
    let prevLink ← prevSnap.links.find? (fun l => l.id = linkId)
    let curLink ← curSnap.links.find? (fun l => l.id = linkId)
    -- `saturating_sub`
    let fwd := curLink.bytesForward.toNat - prevLink.bytesForward.toNat
    let back := curLink.bytesBack.toNat - prevLink.bytesBack.toNat
    return (fwd / seconds, back / seconds)

/-- The calls, one after the other. -/
def applyAll (app : App) (calls : List StatusCall) : App :=
  calls.foldl (fun app call => app.applyStatus call.1 call.2) app

end App

/-! ## Histories -/

/-- What a call captures. -/
def captured : StatusCall → Option Sample
  | (now, .ok snap) => some (now, snap)
  | (_, .error _) => none

/-- The samples of the calls that succeeded, each with its own time. -/
def successes (calls : List StatusCall) : List Sample := calls.filterMap captured

/-- The first of two calls that both succeeded. -/
def shifted (calls : StatusCall × StatusCall) : Option Sample :=
  (captured calls.2).bind fun _ => captured calls.1

/-- The samples after which the very next call succeeded as well. -/
def followed (calls : List StatusCall) : List Sample := (calls.zip calls.tail).filterMap shifted

theorem zip_tail_concat {α : Type} (l : List α) (a : α) :
    (l ++ [a]).zip (l ++ [a]).tail = l.zip l.tail ++ (l.getLast?.map fun b => (b, a)).toList := by
  induction l with
  | nil => rfl
  | cons b l ih =>
    cases l with
    | nil => rfl
    | cons c l =>
      simp only [List.cons_append, List.tail_cons, List.zip_cons_cons] at ih ⊢
      rw [ih]
      rfl

theorem successes_concat (calls : List StatusCall) (call : StatusCall) :
    successes (calls ++ [call]) = successes calls ++ (captured call).toList := by
  unfold successes
  rw [List.filterMap_append]
  cases h : captured call <;> simp [h]

theorem followed_concat (calls : List StatusCall) (call : StatusCall) :
    followed (calls ++ [call]) =
      followed calls ++ (calls.getLast?.bind fun last => shifted (last, call)).toList := by
  unfold followed
  rw [zip_tail_concat, List.filterMap_append]
  cases calls.getLast? with
  | none => rfl
  | some last => cases h : shifted (last, call) <;> simp [h]

theorem successes_of_last {calls : List StatusCall} {sample : Sample}
    (h : calls.getLast?.bind captured = some sample) :
    ∃ before, calls = before ++ [(sample.1, .ok sample.2)] ∧
      successes calls = successes before ++ [sample] := by
  obtain ⟨call, hlast, hcaptured⟩ := Option.bind_eq_some_iff.mp h
  obtain ⟨before, rfl⟩ := List.getLast?_eq_some_iff.mp hlast
  obtain ⟨now, _ | snap⟩ := call
  · cases hcaptured
  · cases hcaptured
    exact ⟨before, rfl, successes_concat before _⟩

theorem failed_of_last {calls : List StatusCall} (hne : calls ≠ [])
    (h : calls.getLast?.bind captured = none) :
    ∃ before failedAt e, calls = before ++ [(failedAt, .error e)] := by
  obtain ⟨before, ⟨now, result⟩, rfl⟩ := (List.eq_nil_or_concat' calls).resolve_left hne
  rw [List.getLast?_concat] at h
  cases result with
  | error e => exact ⟨before, now, e, rfl⟩
  | ok snap => cases h

theorem mem_successes_of_followed {calls : List StatusCall} {sample : Sample}
    (h : sample ∈ followed calls) : sample ∈ successes calls := by
  obtain ⟨⟨call, next⟩, hmem, hshifted⟩ := List.mem_filterMap.mp h
  obtain ⟨_, -, hcaptured⟩ := Option.bind_eq_some_iff.mp hshifted
  exact List.mem_filterMap.mpr ⟨call, (List.of_mem_zip hmem).1, hcaptured⟩

/-! ## What the state keeps of a history -/

structure Keeps (calls : List StatusCall) (app : App) : Prop where
  snapshot : app.statusSnapshot = (calls.getLast?.bind captured).map Prod.snd
  capturedAt : app.statusCapturedAt = (successes calls).getLast?.map Prod.fst
  previous : app.previousSnapshot = (followed calls).getLast?

theorem keeps_new (configPath : String) (config : Config) :
    Keeps [] (App.new configPath config) :=
  ⟨rfl, rfl, rfl⟩

theorem Keeps.step {calls : List StatusCall} {app : App} (h : Keeps calls app)
    (call : StatusCall) : Keeps (calls ++ [call]) (app.applyStatus call.1 call.2) := by
  obtain ⟨now, result⟩ := call
  cases result with
  | error e =>
    constructor
    · rw [List.getLast?_concat]
      rfl
    · rw [successes_concat]
      simpa [captured, App.applyStatus] using h.capturedAt
    · rw [followed_concat]
      have hnone : (calls.getLast?.bind fun last => shifted (last, (now, .error e))) = none := by
        cases calls.getLast? <;> rfl
      rw [hnone]
      simpa [App.applyStatus] using h.previous
  | ok snap =>
    constructor
    · rw [List.getLast?_concat]
      rfl
    · rw [successes_concat]
      simp [captured, App.applyStatus]
    · rw [followed_concat]
      have hshift : (calls.getLast?.bind fun last => shifted (last, (now, .ok snap))) =
          calls.getLast?.bind captured := rfl
      rw [hshift]
      unfold App.applyStatus
      simp only [h.snapshot]
      cases hlast : calls.getLast?.bind captured with
      | none => simpa using h.previous
      | some sample =>
        obtain ⟨before, -, hsuccesses⟩ := successes_of_last hlast
        have hat : app.statusCapturedAt = some sample.1 := by
          rw [h.capturedAt, hsuccesses, List.getLast?_concat]
          rfl
        simp [hat]

theorem keeps_applyAll {before : List StatusCall} {app : App} (h : Keeps before app)
    (calls : List StatusCall) : Keeps (before ++ calls) (app.applyAll calls) := by
  induction calls generalizing before app with
  | nil => simpa [App.applyAll] using h
  | cons call calls ih =>
    have := ih (h.step call)
    rwa [List.append_assoc] at this

/-- The samples that are compared: the last one after which a call succeeded at once, and that of
    the last call. -/
theorem rateSamples_applied (configPath : String) (config : Config) (calls : List StatusCall) :
    ((App.new configPath config).applyAll calls).rateSamples =
      (followed calls).getLast?.bind fun previous =>
        (calls.getLast?.bind captured).map fun current => (previous, current) := by
  have h := keeps_applyAll (keeps_new configPath config) calls
  rw [List.nil_append] at h
  unfold App.rateSamples
  rw [h.previous, h.snapshot, h.capturedAt]
  cases (followed calls).getLast? with
  | none => rfl
  | some previous =>
    cases hlast : calls.getLast?.bind captured with
    | none => rfl
    | some sample =>
      obtain ⟨before, -, hsuccesses⟩ := successes_of_last hlast
      rw [hsuccesses, List.getLast?_concat]
      rfl

/-- A rate is computed where time has passed and both samples have the link. -/
theorem linkRate_isSome_iff {app : App} {earlier later : Sample} {linkId : String}
    (h : app.rateSamples = some (earlier, later)) :
    (app.linkRate linkId).isSome ↔ earlier.1 < later.1 ∧
      linkId ∈ earlier.2.links.map (fun l => l.id) ∧
      linkId ∈ later.2.links.map (fun l => l.id) := by
  unfold App.linkRate
  rw [h]
  have hfound : ∀ links : List LinkSnapshot,
      linkId ∈ links.map (fun l => l.id) ↔ (links.find? fun l => l.id = linkId).isSome := by
    intro links
    simp [List.find?_isSome]
  rw [hfound, hfound]
  simp only [Option.bind_eq_bind, Option.bind_some]
  by_cases hlt : earlier.1 < later.1
  · rw [if_neg (not_le.mpr (lt_max_of_lt_right (Int.sub_pos_of_lt hlt)))]
    cases earlier.2.links.find? fun l => l.id = linkId with
    | none => simp
    | some prevLink =>
      cases later.2.links.find? fun l => l.id = linkId with
      | none => simp
      | some curLink => simp [hlt]
  · rw [if_pos (max_le le_rfl (Int.sub_nonpos_of_le (not_lt.mp hlt)))]
    simp [hlt]

/-! ## The two newest samples -/

/-- Where a rate is computed, the samples are those of the last two calls that succeeded. -/
def Recent (calls : List StatusCall) (app : App) : Prop :=
  ∀ linkId rate, app.linkRate linkId = some rate → ∃ rest earlier later,
    successes calls = rest ++ [earlier, later] ∧ app.rateSamples = some (earlier, later)

/-- The last call succeeds right after one that failed, and of the successes before these two the
    last one that was followed at once by another is not the newest. A rate is computed. -/
def Skipped (calls : List StatusCall) : Prop :=
  ∃ before failedAt e now snap followedLast newest linkId,
    calls = before ++ [(failedAt, .error e), (now, .ok snap)] ∧
    (followed before).getLast? = some followedLast ∧
    (successes before).getLast? = some newest ∧ followedLast ≠ newest ∧
    followedLast.1 < now ∧ linkId ∈ followedLast.2.links.map (fun l => l.id) ∧
    linkId ∈ snap.links.map (fun l => l.id)

/-- After a failed call and a successful one. -/
theorem followed_resumed (before : List StatusCall) (failedAt now : Instant) (e : String)
    (snap : StatusSnapshot) :
    followed (before ++ [(failedAt, .error e), (now, .ok snap)]) = followed before := by
  have hsplit : before ++ [(failedAt, .error e), (now, .ok snap)] =
      (before ++ [(failedAt, .error e)]) ++ [((now, .ok snap) : StatusCall)] := by simp
  have hfailed :
      (before.getLast?.bind fun last => shifted (last, (failedAt, .error e))) = none := by
    cases before.getLast? <;> rfl
  rw [hsplit, followed_concat, followed_concat, hfailed, List.getLast?_concat]
  simp [shifted, captured]

theorem successes_resumed (before : List StatusCall) (failedAt now : Instant) (e : String)
    (snap : StatusSnapshot) :
    successes (before ++ [(failedAt, .error e), (now, .ok snap)]) =
      successes before ++ [(now, snap)] :=
  List.filterMap_append ..

/-- The older sample of a rate is the newest before the last one, or a call failed in between. -/
theorem newest_or_resumed {before : List StatusCall} {now : Instant} {snap : StatusSnapshot}
    {earlier : Sample}
    (h : (followed (before ++ [(now, .ok snap)])).getLast? = some earlier) :
    (successes before).getLast? = some earlier ∨ ∃ older failedAt e newest,
      before = older ++ [(failedAt, .error e)] ∧ (followed older).getLast? = some earlier ∧
      (successes older).getLast? = some newest ∧ earlier ≠ newest := by
  rw [followed_concat] at h
  cases hprev : before.getLast?.bind captured with
  | some sample =>
    -- the call before succeeded too
    obtain ⟨_, -, hsuccesses⟩ := successes_of_last hprev
    have hshift : (before.getLast?.bind fun last => shifted (last, (now, .ok snap))) =
        some sample := hprev
    rw [hshift, Option.toList_some, List.getLast?_concat] at h
    left
    rw [hsuccesses, List.getLast?_concat, h]
  | none =>
    have hshift : (before.getLast?.bind fun last => shifted (last, (now, .ok snap))) =
        none := hprev
    rw [hshift, Option.toList_none, List.append_nil] at h
    have hmem := mem_successes_of_followed (List.mem_of_getLast? h)
    have hne : before ≠ [] := by
      rintro rfl
      cases hmem
    obtain ⟨older, failedAt, e, rfl⟩ := failed_of_last hne hprev
    have hnone : (older.getLast?.bind fun last => shifted (last, (failedAt, .error e))) =
        none := by
      cases older.getLast? <;> rfl
    rw [followed_concat, hnone, Option.toList_none, List.append_nil] at h
    have hfailed : successes (older ++ [(failedAt, .error e)]) = successes older := by
      rw [successes_concat]
      exact List.append_nil _
    rw [hfailed] at hmem ⊢
    obtain ⟨newest, hnewest⟩ : ∃ newest, (successes older).getLast? = some newest :=
      ⟨_, List.getLast?_eq_some_getLast (List.ne_nil_of_mem hmem)⟩
    by_cases hsame : earlier = newest
    · exact .inl (by rw [hnewest, hsame])
    · exact .inr ⟨older, failedAt, e, newest, rfl, h, hnewest, hsame⟩

section

variable {configPath : String} {config : Config} {calls : List StatusCall}

/-- A rate is then computed, with a sample that is not the newest but one. -/
theorem not_recent_of_skipped (h : Skipped calls) :
    ¬ Recent calls ((App.new configPath config).applyAll calls) := by
  obtain ⟨before, failedAt, e, now, snap, followedLast, newest, linkId, rfl, hfollowed, hnewest,
    hne, hlt, hin, hin'⟩ := h
  intro hrecent
  have hsamples := rateSamples_applied configPath config
    (before ++ [(failedAt, .error e), (now, .ok snap)])
  have hlast : (before ++ [((failedAt, .error e) : StatusCall), (now, .ok snap)]).getLast?.bind
      captured = some (now, snap) := by
    rw [List.append_cons, List.getLast?_concat]
    rfl
  rw [followed_resumed, hfollowed, hlast] at hsamples
  obtain ⟨rate, hrate⟩ := Option.isSome_iff_exists.mp
    ((linkRate_isSome_iff hsamples).mpr ⟨hlt, hin, hin'⟩)
  obtain ⟨rest, earlier, later, hsuccesses, heq⟩ := hrecent linkId rate hrate
  rw [hsamples] at heq
  cases heq
  obtain ⟨older, hold⟩ := List.getLast?_eq_some_iff.mp hnewest
  rw [successes_resumed, hold, List.append_cons rest] at hsuccesses
  obtain ⟨hinit, -⟩ := List.append_inj' hsuccesses rfl
  obtain ⟨-, hsame⟩ := List.append_inj' hinit rfl
  exact hne (List.head_eq_of_cons_eq hsame).symm

theorem recent_of_not_skipped (hskipped : ¬ Skipped calls) :
    Recent calls ((App.new configPath config).applyAll calls) := by
  have hsamples := rateSamples_applied configPath config calls
  intro linkId rate hrate
  obtain ⟨⟨earlier, later⟩, hused⟩ : ∃ used,
      ((App.new configPath config).applyAll calls).rateSamples = some used := by
    unfold App.linkRate at hrate
    obtain ⟨used, hused, -⟩ := Option.bind_eq_some_iff.mp hrate
    exact ⟨used, hused⟩
  obtain ⟨hlt, hin, hin'⟩ := (linkRate_isSome_iff hused).mp (Option.isSome_of_eq_some hrate)
  rw [hused] at hsamples
  obtain ⟨_, hfollowed, hlater⟩ := Option.bind_eq_some_iff.mp hsamples.symm
  obtain ⟨_, hlast, heq⟩ := Option.map_eq_some_iff.mp hlater
  cases heq
  obtain ⟨before, rfl, hsuccesses⟩ := successes_of_last hlast
  rcases newest_or_resumed hfollowed with hnewest | ⟨older, failedAt, e, newest, rfl, hresumed⟩
  · obtain ⟨rest, hrest⟩ := List.getLast?_eq_some_iff.mp hnewest
    exact ⟨rest, earlier, later, by rw [hsuccesses, hrest, ← List.append_cons], hused⟩
  · obtain ⟨hlastFollowed, hnewest, hne⟩ := hresumed
    exact absurd ⟨older, failedAt, e, later.1, later.2, earlier, newest, linkId, by simp,
      hlastFollowed, hnewest, hne, hlt, hin, hin'⟩ hskipped

end

/-- The rates are those of the two newest samples exactly if none of them was skipped. -/
theorem rates_recent_iff (configPath : String) (config : Config) (calls : List StatusCall) :
    Recent calls ((App.new configPath config).applyAll calls) ↔ ¬ Skipped calls :=
  ⟨fun hrecent hskipped => not_recent_of_skipped hskipped hrecent, recent_of_not_skipped⟩

/-- A server with one link that has relayed so many bytes. -/
def relayed (bytes : UInt64) : StatusSnapshot where
  role := "server"
  uptimeSecs := 60
  controlConnected := true
  controlConnectedSinceSecsAgo := some 30
  controlPeerAddr := some "203.0.113.5:40000"
  controlPeerName := some "laptop"
  links := [⟨"db", "forward", 1, 1, bytes, 0⟩]

/-- One second apart: two successes, a daemon that does not answer, and a third. -/
def restarted : List StatusCall :=
  [(0, .ok (relayed 0)), (10 ^ 9, .ok (relayed 9000)),
    (2 * 10 ^ 9, .error "failed to read status: Connection reset by peer (os error 104)"),
    (3 * 10 ^ 9, .ok (relayed 9000))]

/-- Nothing has been relayed since the second success, and the rate is 3000 bytes a second: it is
    that since the first one. -/
theorem restarted_stale :
    let app := (App.new "client.toml" Config.clientConfig).applyAll restarted
    app.linkRate "db" = some (3000, 0) ∧
      app.rateSamples = some ((0, relayed 0), (3 * 10 ^ 9, relayed 9000)) ∧
      successes restarted =
        [(0, relayed 0), (10 ^ 9, relayed 9000), (3 * 10 ^ 9, relayed 9000)] ∧
      ¬ Recent restarted app := by
  intro app
  have hrate : app.linkRate "db" = some (3000, 0) := by decide +kernel
  have hused : app.rateSamples = some ((0, relayed 0), (3 * 10 ^ 9, relayed 9000)) := by
    decide +kernel
  refine ⟨hrate, hused, by decide +kernel, fun hrecent => ?_⟩
  obtain ⟨rest, earlier, later, hsuccesses, heq⟩ := hrecent "db" _ hrate
  rw [hused] at heq
  cases heq
  have hsecond : (successes restarted).reverse[1]? = some (0, relayed 0) := by
    rw [hsuccesses, List.reverse_append]
    rfl
  revert hsecond
  decide +kernel

end Ghostport.Tui
