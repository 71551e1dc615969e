import Ghostport.Tui.Wizards

/-!
# What is pending

The values that a wizard collects stay in the state when it is left. None of them is read before
it is set again: two states that differ in what is pending outside of a wizard have the same
runs.

Results:
* `step_forget`: a step depends on what is alive, and on nothing else.
* `wizards_framed`: how wizards end, and what they leave behind.
-/

namespace Ghostport.Tui

open Ghostport.Core Ghostport.Lib Ghostport.Net

/-! ## What is alive -/

namespace App

/-- The state without what is pending for other modes than this. -/
def liveIn (app : App) : Mode → App
  | .chooseTemplate =>
    { app with
      pendingPeerName := none, pendingPeerPublicKey := none, pendingDefaultPeerPublicKey := none
      pendingPeerLinks := [], peerLinksCursor := 0, editingOriginalPeerName := none }
  | .addLinkId | .addLinkDirection | .addLinkAddress =>
    { app with
      pendingPeerName := none, pendingPeerPublicKey := none, pendingDefaultPeerPublicKey := none
      pendingPeerLinks := [], peerLinksCursor := 0, editingOriginalPeerName := none
      templateSelected := ⟨0, menuLen_pos⟩ }
  | .addPeerName | .addPeerPublicKey | .addPeerLinks =>
    { app with
      pendingLinkId := none, pendingLinkMode := none, pendingDefaultAddress := none
      editingOriginalId := none, templateSelected := ⟨0, menuLen_pos⟩ }
  | .normal | .confirmRemoveLink | .confirmServiceAction | .confirmRemovePeer =>
    { app with
      pendingLinkId := none, pendingLinkMode := none, pendingDefaultAddress := none
      editingOriginalId := none, pendingPeerName := none, pendingPeerPublicKey := none
      pendingDefaultPeerPublicKey := none, pendingPeerLinks := [], peerLinksCursor := 0
      editingOriginalPeerName := none, inputBuffer := [], templateSelected := ⟨0, menuLen_pos⟩ }

/-- The state without what is pending, unless its own wizard runs. -/
def live (app : App) : App := app.liveIn app.mode

theorem mode_liveIn (app : App) (mode : Mode) : (app.liveIn mode).mode = app.mode := by
  cases mode <;> rfl

theorem shouldQuit_liveIn (app : App) (mode : Mode) :
    (app.liveIn mode).shouldQuit = app.shouldQuit := by
  cases mode <;> rfl

theorem liveIn_liveIn (app : App) (mode : Mode) :
    (app.liveIn mode).liveIn mode = app.liveIn mode := by
  cases mode <;> rfl

theorem live_live (app : App) : app.live.live = app.live := by
  unfold live
  rw [mode_liveIn, liveIn_liveIn]

theorem cleared_live (app : App) : cleared app.live = (cleared app).live := by
  show cleared (app.liveIn app.mode) = (cleared app).liveIn app.mode
  cases app.mode <;> rfl

end App

/-- No difference that is alive. -/
def Alike (app app' : App) : Prop := app.live = app'.live

/-- Moreover the same events. -/
def AlikeOut (x y : App × List Event) : Prop := Alike x.1 y.1 ∧ x.2 = y.2

/-- No difference that is alive, and the same file. -/
def Similar (s t : State) : Prop := Alike s.app t.app ∧ s.file = t.file

/-- Moreover the same events. -/
def SimilarOut (x y : State × List Event) : Prop := Similar x.1 y.1 ∧ x.2 = y.2

section

variable {app x y : App} {mode : Mode}

theorem alike_of_mode (hx : x.mode = mode) (hy : y.mode = mode)
    (h : x.liveIn mode = y.liveIn mode) : Alike x y := by
  unfold Alike App.live
  rw [hx, hy, h]

theorem rel_ite {α : Type} {R : α → α → Prop} {c : Prop} [Decidable c] {x y x' y' : α}
    (h : c → R x y) (h' : ¬ c → R x' y') : R (if c then x else x') (if c then y else y') := by
  split
  · exact h ‹_›
  · exact h' ‹_›

/-! ## The keys of normal mode -/

theorem alike_moveLinkSelection (hmode : app.mode = .normal) (delta : ℤ) :
    Alike ((app.liveIn .normal).moveLinkSelection delta) (app.moveLinkSelection delta) := by
  unfold App.moveLinkSelection
  exact rel_ite (fun _ => alike_of_mode hmode hmode rfl) fun _ => alike_of_mode hmode hmode rfl

theorem alike_movePeerSelection (hmode : app.mode = .normal) (delta : ℤ) :
    Alike ((app.liveIn .normal).movePeerSelection delta) (app.movePeerSelection delta) := by
  unfold App.movePeerSelection
  exact rel_ite (fun _ => alike_of_mode hmode hmode rfl) fun _ => alike_of_mode hmode hmode rfl

theorem alike_beginEditLink (hmode : app.mode = .normal) :
    Alike (app.liveIn .normal).beginEditLink app.beginEditLink := by
  unfold App.beginEditLink
  have hsel : (app.liveIn .normal).selectedLink = app.selectedLink := rfl
  rw [hsel]
  split
  · exact alike_of_mode hmode hmode rfl
  · exact alike_of_mode rfl rfl rfl

theorem alike_beginAddPeer (hmode : app.mode = .normal) :
    Alike (app.liveIn .normal).beginAddPeer app.beginAddPeer := by
  unfold App.beginAddPeer
  exact rel_ite (fun _ => alike_of_mode hmode hmode rfl) fun _ => alike_of_mode rfl rfl rfl

theorem alike_beginEditPeer (hmode : app.mode = .normal) :
    Alike (app.liveIn .normal).beginEditPeer app.beginEditPeer := by
  unfold App.beginEditPeer
  refine rel_ite (fun _ => alike_of_mode hmode hmode rfl) fun _ => ?_
  have hsel : (app.liveIn .normal).selectedPeer = app.selectedPeer := rfl
  rw [hsel]
  split
  · exact alike_of_mode hmode hmode rfl
  · exact alike_of_mode rfl rfl rfl

theorem alike_applyStatus (hmode : app.mode = .normal) (now : Instant)
    (result : Except String StatusSnapshot) :
    Alike ((app.liveIn .normal).applyStatus now result) (app.applyStatus now result) := by
  cases result <;> exact alike_of_mode hmode hmode rfl

/-! ## The keys of the link wizard -/

theorem alike_confirmTemplateChoice (app : App) :
    Alike (app.liveIn .chooseTemplate).confirmTemplateChoice app.confirmTemplateChoice := by
  unfold App.confirmTemplateChoice
  refine rel_ite (fun _ => alike_of_mode rfl rfl rfl) fun _ => ?_
  have hselected : (app.liveIn .chooseTemplate).templateSelected = app.templateSelected := rfl
  rw [hselected]
  split <;> exact alike_of_mode rfl rfl rfl

theorem alike_confirmLinkId (app : App) :
    Alike (app.liveIn .addLinkId).confirmLinkId app.confirmLinkId := by
  unfold App.confirmLinkId
  refine rel_ite (fun _ => alike_of_mode rfl rfl rfl) fun _ => ?_
  exact rel_ite (fun _ => alike_of_mode rfl rfl rfl) fun _ => alike_of_mode rfl rfl rfl

theorem alike_confirmLinkAddress (hmode : app.mode = .addLinkAddress) :
    Alike (app.liveIn .addLinkAddress).confirmLinkAddress app.confirmLinkAddress := by
  unfold App.confirmLinkAddress
  have hid : (app.liveIn .addLinkAddress).pendingLinkId = app.pendingLinkId := rfl
  have hlink : (app.liveIn .addLinkAddress).pendingLinkMode = app.pendingLinkMode := rfl
  rw [hid, hlink]
  split
  · refine rel_ite (fun _ => alike_of_mode rfl rfl rfl) fun _ => ?_
    refine rel_ite (fun _ => alike_of_mode hmode hmode rfl) fun _ => ?_
    exact alike_of_mode rfl rfl rfl
  · exact alike_of_mode rfl rfl rfl

/-! ## The keys of the peer wizard -/

theorem alike_confirmPeerName (app : App) :
    Alike (app.liveIn .addPeerName).confirmPeerName app.confirmPeerName := by
  unfold App.confirmPeerName
  exact rel_ite (fun _ => alike_of_mode rfl rfl rfl) fun _ => alike_of_mode rfl rfl rfl

theorem alike_confirmPeerPublicKey (base64 : Base64) (hmode : app.mode = .addPeerPublicKey) :
    Alike ((app.liveIn .addPeerPublicKey).confirmPeerPublicKey base64)
      (app.confirmPeerPublicKey base64) := by
  unfold App.confirmPeerPublicKey
  refine rel_ite (fun _ => alike_of_mode rfl rfl rfl) fun _ => ?_
  refine rel_ite (fun _ => alike_of_mode rfl rfl rfl) fun _ => ?_
  have htext : (app.liveIn .addPeerPublicKey).inputBuffer = app.inputBuffer := rfl
  rw [htext]
  split
  · exact alike_of_mode hmode hmode rfl
  · exact alike_of_mode rfl rfl rfl

theorem alike_movePeerLinksCursor (hmode : app.mode = .addPeerLinks) (delta : ℤ) :
    Alike ((app.liveIn .addPeerLinks).movePeerLinksCursor delta)
      (app.movePeerLinksCursor delta) := by
  unfold App.movePeerLinksCursor
  exact rel_ite (fun _ => alike_of_mode hmode hmode rfl) fun _ => alike_of_mode hmode hmode rfl

theorem alike_togglePeerLink (hmode : app.mode = .addPeerLinks) :
    Alike (app.liveIn .addPeerLinks).togglePeerLink app.togglePeerLink := by
  unfold App.togglePeerLink
  have hlinks : (app.liveIn .addPeerLinks).config.links[(app.liveIn .addPeerLinks).peerLinksCursor]?
      = app.config.links[app.peerLinksCursor]? := rfl
  rw [hlinks]
  split <;> exact alike_of_mode hmode hmode rfl

theorem alike_confirmPeerLinks (app : App) :
    Alike (app.liveIn .addPeerLinks).confirmPeerLinks app.confirmPeerLinks := by
  unfold App.confirmPeerLinks
  have hname : (app.liveIn .addPeerLinks).pendingPeerName = app.pendingPeerName := rfl
  have hkey : (app.liveIn .addPeerLinks).pendingPeerPublicKey = app.pendingPeerPublicKey := rfl
  rw [hname, hkey]
  split <;> exact alike_of_mode rfl rfl rfl

/-! ## The keys of the prompts -/

theorem alike_removeSelectedLink (app : App) :
    Alike (app.liveIn .confirmRemoveLink).removeSelectedLink app.removeSelectedLink := by
  unfold App.removeSelectedLink
  have hlinks : (app.liveIn .confirmRemoveLink).config.links[
      (app.liveIn .confirmRemoveLink).linksSelected]? = app.config.links[app.linksSelected]? := rfl
  rw [hlinks]
  split <;> exact alike_of_mode rfl rfl rfl

theorem alike_removeSelectedPeer (app : App) :
    Alike (app.liveIn .confirmRemovePeer).removeSelectedPeer app.removeSelectedPeer := by
  unfold App.removeSelectedPeer
  have hpeers : (app.liveIn .confirmRemovePeer).config.peers[
      (app.liveIn .confirmRemovePeer).peersSelected]? = app.config.peers[app.peersSelected]? := rfl
  rw [hpeers]
  split <;> exact alike_of_mode rfl rfl rfl

theorem alike_runPendingServiceAction (hmode : app.mode = .normal) (answers : Answers) :
    AlikeOut (runPendingServiceAction (app.liveIn .normal) answers)
      (runPendingServiceAction app answers) := by
  unfold runPendingServiceAction
  have hpending : (app.liveIn .normal).pendingServiceAction = app.pendingServiceAction := rfl
  rw [hpending]
  split
  · exact ⟨alike_of_mode hmode hmode rfl, rfl⟩
  · exact ⟨@alike_applyStatus
      (refreshServiceInfo { app with pendingServiceAction := none } answers) hmode _ _, rfl⟩

/-! ## Handlers -/

variable {crates : Crates} {answers : Answers} {file : File} {code : KeyCode}

theorem similar_saveConfig (hmode : app.mode = .normal) :
    Similar (saveConfig crates ⟨app.liveIn .normal, file⟩ answers)
      (saveConfig crates ⟨app, file⟩ answers) := by
  unfold saveConfig
  have hconfig : (app.liveIn .normal).config = app.config := rfl
  have hpath : (app.liveIn .normal).configPath = app.configPath := rfl
  simp only [hconfig, hpath]
  cases app.config.save crates.base64 crates.toml app.configPath file answers.write with
  | mk result file' => cases result <;> exact ⟨alike_of_mode hmode hmode rfl, rfl⟩

theorem similar_handleLinksTab (hmode : app.mode = .normal) :
    Similar (handleLinksTab crates ⟨app.liveIn .normal, file⟩ code answers)
      (handleLinksTab crates ⟨app, file⟩ code answers) := by
  have hsame : Similar ⟨app.liveIn .normal, file⟩ ⟨app, file⟩ :=
    ⟨alike_of_mode hmode hmode rfl, rfl⟩
  unfold handleLinksTab
  refine rel_ite (fun _ => ⟨alike_moveLinkSelection hmode _, rfl⟩) fun _ => ?_
  refine rel_ite (fun _ => ⟨alike_moveLinkSelection hmode _, rfl⟩) fun _ => ?_
  refine rel_ite (fun _ => ⟨alike_of_mode rfl rfl rfl, rfl⟩) fun _ => ?_
  refine rel_ite (fun _ => ?_) fun _ => ?_
  · exact rel_ite (fun _ => ⟨alike_beginEditLink hmode, rfl⟩) fun _ => hsame
  · refine rel_ite (fun _ => ?_) fun _ => ?_
    · exact rel_ite (fun _ => ⟨alike_of_mode rfl rfl rfl, rfl⟩) fun _ => hsame
    · exact rel_ite (fun _ => similar_saveConfig hmode) fun _ => hsame

theorem similar_handlePeersTab (hmode : app.mode = .normal) :
    Similar (handlePeersTab crates ⟨app.liveIn .normal, file⟩ code answers)
      (handlePeersTab crates ⟨app, file⟩ code answers) := by
  have hsame : Similar ⟨app.liveIn .normal, file⟩ ⟨app, file⟩ :=
    ⟨alike_of_mode hmode hmode rfl, rfl⟩
  unfold handlePeersTab
  refine rel_ite (fun _ => ⟨alike_movePeerSelection hmode _, rfl⟩) fun _ => ?_
  refine rel_ite (fun _ => ⟨alike_movePeerSelection hmode _, rfl⟩) fun _ => ?_
  refine rel_ite (fun _ => ⟨alike_beginAddPeer hmode, rfl⟩) fun _ => ?_
  refine rel_ite (fun _ => ?_) fun _ => ?_
  · exact rel_ite (fun _ => ⟨alike_beginEditPeer hmode, rfl⟩) fun _ => hsame
  · refine rel_ite (fun _ => ?_) fun _ => ?_
    · exact rel_ite (fun _ => ⟨alike_of_mode rfl rfl rfl, rfl⟩) fun _ => hsame
    · exact rel_ite (fun _ => similar_saveConfig hmode) fun _ => hsame

theorem alike_handleServiceTab (hmode : app.mode = .normal) :
    AlikeOut (handleServiceTab (app.liveIn .normal) code answers)
      (handleServiceTab app code answers) := by
  have hsame : AlikeOut (app.liveIn .normal, []) (app, []) := ⟨alike_of_mode hmode hmode rfl, rfl⟩
  unfold handleServiceTab
  refine rel_ite (fun _ => ⟨alike_of_mode hmode hmode rfl, rfl⟩) fun _ => ?_
  refine rel_ite (fun _ => ⟨alike_of_mode hmode hmode rfl, rfl⟩) fun _ => ?_
  refine rel_ite (fun _ => ?_) fun _ => hsame
  by_cases hlogs : app.selectedServiceAction = .viewLogs
  · have hlive : (app.liveIn .normal).selectedServiceAction = .viewLogs := hlogs
    rw [activate_viewLogs hlogs, activate_viewLogs hlive]
    refine rel_ite (fun _ => ?_) fun hne => absurd hmode hne
    exact @alike_runPendingServiceAction { app with pendingServiceAction := some .viewLogs }
      hmode answers
  · have hlive : (app.liveIn .normal).selectedServiceAction ≠ .viewLogs := hlogs
    rw [activate_confirm hlogs, activate_confirm hlive]
    exact rel_ite (fun h => by cases h) fun _ => ⟨alike_of_mode rfl rfl rfl, rfl⟩

theorem similar_handleNormal (hmode : app.mode = .normal) :
    SimilarOut (handleNormal crates ⟨app.liveIn .normal, file⟩ code answers)
      (handleNormal crates ⟨app, file⟩ code answers) := by
  unfold handleNormal
  iterate 6
    refine rel_ite (fun _ => ⟨⟨alike_of_mode hmode hmode rfl, rfl⟩, rfl⟩) fun _ => ?_
  have htab : (app.liveIn .normal).tab = app.tab := rfl
  simp only [htab]
  cases app.tab with
  | links => exact ⟨similar_handleLinksTab hmode, rfl⟩
  | peers => exact ⟨similar_handlePeersTab hmode, rfl⟩
  | service =>
    obtain ⟨halike, hes⟩ := @alike_handleServiceTab app answers code hmode
    exact ⟨⟨halike, rfl⟩, hes⟩
  | status =>
    exact rel_ite (fun _ => ⟨⟨alike_applyStatus hmode _ _, rfl⟩, rfl⟩)
      fun _ => ⟨⟨alike_of_mode hmode hmode rfl, rfl⟩, rfl⟩

theorem alike_handleChooseTemplate (hmode : app.mode = .chooseTemplate) :
    Alike (handleChooseTemplate (app.liveIn .chooseTemplate) code)
      (handleChooseTemplate app code) := by
  unfold handleChooseTemplate
  refine rel_ite (fun _ => alike_of_mode rfl rfl rfl) fun _ => ?_
  iterate 2
    refine rel_ite (fun _ => alike_of_mode hmode hmode rfl) fun _ => ?_
  exact rel_ite (fun _ => alike_confirmTemplateChoice app) fun _ => alike_of_mode hmode hmode rfl

theorem alike_handleLinkTextInput (hmode : app.mode = mode)
    (htext : mode = .addLinkId ∨ mode = .addLinkAddress) :
    Alike (handleLinkTextInput (app.liveIn mode) code) (handleLinkTextInput app code) := by
  unfold handleLinkTextInput
  refine rel_ite (fun _ => ?_) fun _ => ?_
  · rcases htext with rfl | rfl <;> exact alike_of_mode rfl rfl rfl
  refine rel_ite (fun _ => ?_) fun _ => ?_
  · rw [app.mode_liveIn mode, hmode]
    rcases htext with rfl | rfl
    · exact alike_confirmLinkId app
    · exact alike_confirmLinkAddress hmode
  · rcases htext with rfl | rfl <;> cases code <;> exact alike_of_mode hmode hmode rfl

theorem alike_handleLinkModeChoice (hmode : app.mode = .addLinkDirection) :
    Alike (handleLinkModeChoice (app.liveIn .addLinkDirection) code)
      (handleLinkModeChoice app code) := by
  unfold handleLinkModeChoice
  iterate 3
    refine rel_ite (fun _ => alike_of_mode rfl rfl rfl) fun _ => ?_
  exact alike_of_mode hmode hmode rfl

theorem alike_handlePeerTextInput (base64 : Base64) (hmode : app.mode = mode)
    (htext : mode = .addPeerName ∨ mode = .addPeerPublicKey) :
    Alike (handlePeerTextInput base64 (app.liveIn mode) code)
      (handlePeerTextInput base64 app code) := by
  unfold handlePeerTextInput
  refine rel_ite (fun _ => ?_) fun _ => ?_
  · rcases htext with rfl | rfl <;> exact alike_of_mode rfl rfl rfl
  refine rel_ite (fun _ => ?_) fun _ => ?_
  · rw [app.mode_liveIn mode, hmode]
    rcases htext with rfl | rfl
    · exact alike_confirmPeerName app
    · exact alike_confirmPeerPublicKey base64 hmode
  · rcases htext with rfl | rfl <;> cases code <;> exact alike_of_mode hmode hmode rfl

theorem alike_handlePeerLinksChecklist (hmode : app.mode = .addPeerLinks) :
    Alike (handlePeerLinksChecklist (app.liveIn .addPeerLinks) code)
      (handlePeerLinksChecklist app code) := by
  unfold handlePeerLinksChecklist
  refine rel_ite (fun _ => alike_of_mode rfl rfl rfl) fun _ => ?_
  iterate 2
    refine rel_ite (fun _ => alike_movePeerLinksCursor hmode _) fun _ => ?_
  refine rel_ite (fun _ => alike_togglePeerLink hmode) fun _ => ?_
  exact rel_ite (fun _ => alike_confirmPeerLinks app) fun _ => alike_of_mode hmode hmode rfl

theorem alike_handleConfirmServiceAction (app : App) :
    AlikeOut (handleConfirmServiceAction (app.liveIn .confirmServiceAction) code answers)
      (handleConfirmServiceAction app code answers) := by
  unfold handleConfirmServiceAction
  exact rel_ite
    (fun _ => @alike_runPendingServiceAction { app with mode := .normal } rfl answers)
    fun _ => ⟨alike_of_mode rfl rfl rfl, rfl⟩

/-- Every key. -/
theorem similar_handleKey :
    SimilarOut (handleKey crates ⟨app.live, file⟩ code answers)
      (handleKey crates ⟨app, file⟩ code answers) := by
  have hlive : app.live.mode = app.mode := app.mode_liveIn app.mode
  unfold handleKey
  simp only [hlive]
  unfold App.live
  cases hmode : app.mode with
  | normal => exact similar_handleNormal hmode
  | chooseTemplate => exact ⟨⟨alike_handleChooseTemplate hmode, rfl⟩, rfl⟩
  | addLinkId => exact ⟨⟨alike_handleLinkTextInput hmode (.inl rfl), rfl⟩, rfl⟩
  | addLinkAddress => exact ⟨⟨alike_handleLinkTextInput hmode (.inr rfl), rfl⟩, rfl⟩
  | addLinkDirection => exact ⟨⟨alike_handleLinkModeChoice hmode, rfl⟩, rfl⟩
  | addPeerName => exact ⟨⟨alike_handlePeerTextInput _ hmode (.inl rfl), rfl⟩, rfl⟩
  | addPeerPublicKey => exact ⟨⟨alike_handlePeerTextInput _ hmode (.inr rfl), rfl⟩, rfl⟩
  | addPeerLinks => exact ⟨⟨alike_handlePeerLinksChecklist hmode, rfl⟩, rfl⟩
  | confirmRemoveLink =>
    refine ⟨⟨?_, rfl⟩, rfl⟩
    exact rel_ite (fun _ => alike_removeSelectedLink app) fun _ => alike_of_mode rfl rfl rfl
  | confirmRemovePeer =>
    refine ⟨⟨?_, rfl⟩, rfl⟩
    exact rel_ite (fun _ => alike_removeSelectedPeer app) fun _ => alike_of_mode rfl rfl rfl
  | confirmServiceAction =>
    obtain ⟨halike, hes⟩ := @alike_handleConfirmServiceAction answers code app
    exact ⟨⟨halike, rfl⟩, hes⟩

theorem idleTick_liveIn (app : App) (mode : Mode) :
    idleTick (app.liveIn mode) answers = (idleTick app answers).liveIn mode := by
  unfold idleTick
  have htab : (app.liveIn mode).tab = app.tab := by cases mode <;> rfl
  rw [htab]
  cases app.tab with
  | status => cases mode <;> cases answers.status <;> rfl
  | service | links | peers => cases mode <;> rfl

theorem alike_idleTick (app : App) : Alike (idleTick app.live answers) (idleTick app answers) := by
  have hmode := (refreshed_idleTick app answers).mode
  have hlive := ((refreshed_idleTick app.live answers).mode).trans (app.mode_liveIn app.mode)
  refine alike_of_mode hlive hmode ?_
  rw [App.live, idleTick_liveIn, App.liveIn_liveIn]

end

/-! ## Steps and runs -/

/-- The state without what is pending, and the file. -/
def forget (s : State) : State := ⟨s.app.live, s.file⟩

theorem similar_iff {s t : State} : Similar s t ↔ forget s = forget t :=
  (State.mk.injEq _ _ _ _).symm.to_iff

/-- A step depends on what is alive, and on nothing else. -/
theorem step_forget (crates : Crates) (s : State) (input : Input) :
    (step crates (forget s) input).map (Prod.map forget id) =
      (step crates s input).map (Prod.map forget id) := by
  unfold step
  have hquit : (forget s).app.shouldQuit = s.app.shouldQuit :=
    s.app.shouldQuit_liveIn s.app.mode
  rw [hquit]
  split
  · rfl
  · cases input with
    | key code answers =>
      have hkey := @similar_handleKey (cleared s.app) crates answers s.file code
      rw [← App.cleared_live] at hkey
      obtain ⟨hsimilar, hes⟩ := hkey
      exact congrArg some (Prod.ext (similar_iff.mp hsimilar) hes)
    | idle answers =>
      exact congrArg some (Prod.ext (similar_iff.mp ⟨alike_idleTick s.app, rfl⟩) rfl)
    | other =>
      exact congrArg some (Prod.ext (similar_iff.mp ⟨s.app.live_live, rfl⟩) rfl)

section

variable {crates : Crates} {s t s' : State} {inputs : List Input} {tr : List Event}

theorem similar_run (h : Similar s t) (hrun : Run (step crates) Free s inputs s' tr) :
    ∃ t', Run (step crates) Free t inputs t' tr ∧ Similar s' t' := by
  have hstep : ∀ s t input, forget s = forget t →
      (step crates s input).map (Prod.map forget id) =
        (step crates t input).map (Prod.map forget id) := by
    intro s t input heq
    rw [← step_forget crates s, ← step_forget crates t, heq]
  obtain ⟨t', hrun', heq⟩ := hrun.transfer hstep (similar_iff.mp h)
  exact ⟨t', hrun', similar_iff.mpr heq⟩

theorem Similar.kept (h : Similar s t) : Kept s.app t.app := by
  have config : ∀ app : App, app.live.config = app.config := by
    intro app
    unfold App.live
    cases app.mode <;> rfl
  have dirty : ∀ app : App, app.live.dirty = app.dirty := by
    intro app
    unfold App.live
    cases app.mode <;> rfl
  have hlive : s.app.live = t.app.live := h.1
  refine ⟨?_, ?_⟩
  · rw [← config t.app, ← hlive, config]
  · rw [← dirty t.app, ← hlive, dirty]

/-- From normal mode: a completed wizard puts in one entry and changes nothing else of the
    config, any other step of a wizard changes neither the config nor the flag, and what is
    pending has no effect on a later run. -/
theorem wizards_framed (hmode : s.app.mode = .normal) :
    (∀ first inputs t last s', WizardRun crates Mode.isLinkWizard s first inputs t last s' →
      Kept s.app t.app ∧ LinkFramed s.app (editedLink s.app first) t.app last s'.app) ∧
    (∀ first inputs t last s', WizardRun crates Mode.isPeerWizard s first inputs t last s' →
      Kept s.app t.app ∧
        PeerFramed crates.base64 s.app (editedPeer s.app first) t.app last s'.app) ∧
    ∀ t, Similar s t → ∀ inputs s' tr, Run (step crates) Free s inputs s' tr →
      ∃ t', Run (step crates) Free t inputs t' tr ∧ Similar s' t' ∧ Kept s'.app t'.app := by
  refine ⟨fun _ _ _ _ _ h => linkFramed_of_run hmode h,
    fun _ _ _ _ _ h => peerFramed_of_run hmode h, fun t ht inputs s' tr hrun => ?_⟩
  obtain ⟨t', hrun', hsimilar⟩ := similar_run ht hrun
  exact ⟨t', hrun', hsimilar, hsimilar.kept⟩

end

/-! ### The first template, with the address that it proposes -/

theorem wizards_framed_ssh : ∃ s t s',
    Run (step exampleCrates) Free exampleStart (press "2") s [] ∧
    WizardRun exampleCrates Mode.isLinkWizard s (.key (.char 'a') exampleAnswers) (press "\n\n") t
      (.key .enter exampleAnswers) s' ∧
    ∃ entry, exampleConfig.validateLink entry = [] ∧
      s'.app.config.links = upsert LinkConfig.id none entry exampleConfig.links := by
  obtain ⟨s, t, s', hrun, hmode, hconfig, hwizard, hcompletes⟩ : ∃ s t s',
      Run (step exampleCrates) Free exampleStart (press "2") s [] ∧ s.app.mode = .normal ∧
      s.app.config = exampleConfig ∧
      WizardRun exampleCrates Mode.isLinkWizard s (.key (.char 'a') exampleAnswers)
        (press "\n\n") t (.key .enter exampleAnswers) s' ∧
      CompletesLink t.app (.key .enter exampleAnswers) := by
    refine ⟨_, _, _, run_of_exec rfl, rfl, rfl,
      ⟨⟨_, _, _, rfl, Run.of_guarded (run_of_exec rfl)⟩, ?_, _, rfl⟩, ⟨_, rfl⟩, ?_, ?_, ?_⟩
    all_goals decide
  obtain ⟨entry, -, hvalid, hlinks, -, -⟩ :=
    ((wizards_framed hmode).1 _ _ _ _ _ hwizard).2.completed hcompletes
  rw [hconfig] at hvalid hlinks
  exact ⟨s, t, s', hrun, hwizard, entry, hvalid, by rw [hlinks]; rfl⟩

end Ghostport.Tui
