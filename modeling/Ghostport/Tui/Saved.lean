import Ghostport.Tui.Effects

/-!
# The file and the dirty flag

Every change of the config in memory sets the dirty flag, and only a save that succeeds takes
it back.

Results:
* `saveConfig_cases`: a save writes a valid config, or changes nothing but the message.
* `clean_run`: where the flag is not set, the file holds the config that is in memory.
* `saved_truthful`: the file and the flag over whole runs.
-/

namespace Ghostport.Tui

open Ghostport.Core Ghostport.Lib

/-! ## Saving -/

/-- The file is loaded as this config. -/
def Holds (toml : Toml) (file : File) (c : Config) : Prop :=
  ∀ path, Config.load toml path file = .ok c

theorem holds_of_load {toml : Toml} {path : String} {file : File} {c : Config}
    (h : Config.load toml path file = .ok c) : Holds toml file c := by
  intro path'
  unfold Config.load at h ⊢
  split at h
  · cases h
  · split at h
    · cases h
    · rename_i text htext
      cases hparse : toml.fromStr text with
      | error e =>
        rw [hparse] at h
        cases h
      | ok c' =>
        rw [hparse] at h
        exact h

/-- The write of the file, if there is one, succeeds. -/
def WritesSucceed (_ : State) : Input → Prop
  | .key _ answers => answers.write = .written
  | .idle _ | .other => True

/-- What a save does, where the write succeeds. -/
inductive SaveCase (crates : Crates) (s s' : State) : Prop
  | written {text : String} :
    (s.app.config.save crates.base64 crates.toml s.app.configPath s.file .written).1 = .ok () →
    s.app.config.validate crates.base64 = [] →
    crates.toml.toStringPretty s.app.config = .ok text → s'.file = some (utf8 text.toList) →
    s'.app.config = s.app.config → s'.app.dirty = false → SaveCase crates s s'
  | refused {errors : List String} :
    (s.app.config.save crates.base64 crates.toml s.app.configPath s.file .written).1 =
      .error errors →
    s'.file = s.file → Kept s.app s'.app → SaveCase crates s s'

theorem saveConfig_cases (crates : Crates) {s : State} {answers : Answers}
    (hwrite : answers.write = .written) : SaveCase crates s (saveConfig crates s answers) := by
  unfold saveConfig
  rw [hwrite]
  cases hsave : s.app.config.save crates.base64 crates.toml s.app.configPath s.file .written with
  | mk result file =>
    cases result with
    | ok u =>
      obtain ⟨hvalid, text, htext, rfl⟩ := Config.save_ok hsave
      exact .written (by rw [hsave]) hvalid htext rfl rfl rfl
    | error errors =>
      obtain rfl := Config.save_error hsave
      exact .refused (by rw [hsave]) rfl ⟨rfl, rfl⟩

/-- Where the flag is not set, the file holds the config. -/
def Clean (crates : Crates) (s : State) : Prop :=
  s.app.dirty = false → Holds crates.toml s.file s.app.config

section

variable {crates : Crates} {s s' : State} {input : Input} {es : List Event}

theorem clean_step (htoml : crates.toml.Reloads) (hclean : Clean crates s)
    (hwrites : WritesSucceed s input) (hst : step crates s input = some (s', es)) :
    Clean crates s' := by
  intro hdirty
  cases step_effect hst with
  | kept hkept hfile =>
    rw [hkept.config, hfile]
    exact hclean (hkept.dirty.symm.trans hdirty)
  | linkPut _ _ _ _ htrue _ _ | linkTaken _ _ _ _ _ htrue _ _ | peerPut _ _ _ _ _ htrue _ _
  | peerTaken _ _ _ _ _ htrue _ _ =>
    rw [htrue] at hdirty
    cases hdirty
  | @saved answers hinput _ heq =>
    subst hinput heq
    cases @saveConfig_cases crates { s with app := cleared s.app } _ hwrites with
    | written _ _ htext hfile hconfig _ =>
      rw [hfile, hconfig]
      exact Config.load_utf8 (htoml _ _ htext)
    | refused _ hfile hkept =>
      rw [hkept.config, hfile]
      exact hclean (hkept.dirty.symm.trans hdirty)

theorem clean_start {configPath : String} {file : File} {answers : Answers}
    (h : start crates configPath file answers = .ok s) : Clean crates s := by
  unfold start at h
  cases hload : Config.load crates.toml configPath file with
  | error e =>
    rw [hload] at h
    cases h
  | ok config =>
    rw [hload] at h
    obtain rfl := Except.ok.inj h
    intro _
    have hplain := plain_applyStatus (refreshServiceInfo (App.new configPath config) answers)
      answers.now answers.status
    show Holds crates.toml file
      ((refreshServiceInfo (App.new configPath config) answers).applyStatus answers.now
        answers.status).config
    rw [hplain.config]
    exact holds_of_load hload

theorem clean_run (htoml : crates.toml.Reloads) {inputs : List Input} {tr : List Event}
    (h : TuiRun crates WritesSucceed inputs s tr) : Clean crates s := by
  obtain ⟨configPath, file, answers, s₀, hstart, hrun⟩ := h
  exact hrun.invariant (I := fun s _ => Clean crates s) (clean_start hstart)
    fun _ _ _ _ _ hclean hC hst => clean_step htoml hclean hC hst

/-! ## Results -/

/-- What a step may do to the file. -/
structure SavesOnly (crates : Crates) (s : State) (input : Input) (s' : State) : Prop where
  /-- Only `save_config` writes the file, and only a valid config. -/
  changed : s'.file ≠ s.file → ∃ answers text, input = .key (.char 's') answers ∧
    s' = saveConfig crates { s with app := cleared s.app } answers ∧
    s.app.config.validate crates.base64 = [] ∧
    crates.toml.toStringPretty s.app.config = .ok text ∧ s'.file = some (utf8 text.toList)
  /-- A refused save changes neither the file, the config nor the flag. -/
  refused : ∀ answers errors, s' = saveConfig crates { s with app := cleared s.app } answers →
    answers.write = .written →
    (s.app.config.save crates.base64 crates.toml s.app.configPath s.file .written).1 =
      .error errors →
    s'.file = s.file ∧ Kept s.app s'.app

theorem savesOnly_step (hwrites : WritesSucceed s input)
    (hst : step crates s input = some (s', es)) : SavesOnly crates s input s' := by
  constructor
  · intro hchanged
    cases step_effect hst with
    | kept _ hfile | linkPut _ _ _ _ _ _ hfile | linkTaken _ _ _ _ _ _ _ hfile
    | peerPut _ _ _ _ _ _ _ hfile | peerTaken _ _ _ _ _ _ _ hfile =>
      exact absurd hfile hchanged
    | @saved answers hinput _ heq =>
      subst hinput heq
      cases @saveConfig_cases crates { s with app := cleared s.app } _ hwrites with
      | @written text _ hvalid htext hfile _ _ =>
        exact ⟨answers, text, rfl, rfl, hvalid, htext, hfile⟩
      | refused _ hfile _ => exact absurd hfile hchanged
  · rintro answers errors rfl hwrite herror
    cases @saveConfig_cases crates { s with app := cleared s.app } _ hwrite with
    | written hok _ _ _ _ _ => exact absurd (hok.symm.trans herror) (by simp)
    | refused _ hfile hkept => exact ⟨hfile, hkept.config, hkept.dirty⟩

/-- In every run from a loaded config in which writes succeed: where the dirty flag is not set,
    the file holds exactly the config in memory; and each further step changes the file only by
    a save of a valid config, and nothing where the save is refused. -/
theorem saved_truthful (htoml : crates.toml.Reloads) {inputs : List Input} {tr : List Event}
    (hrun : TuiRun crates WritesSucceed inputs s tr) :
    Clean crates s ∧ ∀ input s' es, WritesSucceed s input → step crates s input = some (s', es) →
      SavesOnly crates s input s' :=
  ⟨clean_run htoml hrun, fun _ _ _ hwrites hst => savesOnly_step hwrites hst⟩

end

/-! ## A link is removed, and the config saved -/

theorem reloads_example : exampleCrates.toml.Reloads := Toml.reloads_among (by decide +kernel)

instance (s : State) (input : Input) : Decidable (WritesSucceed s input) :=
  match input with
  | .key _ answers => inferInstanceAs (Decidable (answers.write = .written))
  | .idle _ => inferInstanceAs (Decidable True)
  | .other => inferInstanceAs (Decidable True)

theorem saved_truthful_example : ∃ s, TuiRun exampleCrates WritesSucceed (press "2jdys") s [] ∧
    s.app.config = exampleSmaller ∧ Holds exampleCrates.toml s.file exampleSmaller := by
  obtain ⟨s, hrun, hclean, hconfig⟩ : ∃ s,
      Run (step exampleCrates) WritesSucceed exampleStart (press "2jdys") s [] ∧
        s.app.dirty = false ∧ s.app.config = exampleSmaller := exists_exampleRun (by decide +kernel)
  have htui : TuiRun exampleCrates WritesSucceed (press "2jdys") s [] :=
    ⟨_, _, _, _, start_example, hrun⟩
  have hholds := (saved_truthful reloads_example htui).1 hclean
  rw [hconfig] at hholds
  exact ⟨s, htui, hconfig, hholds⟩

end Ghostport.Tui
