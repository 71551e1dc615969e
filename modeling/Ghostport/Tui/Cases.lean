import Ghostport.Tui.Keys

/-!
# What a step of the TUI can do

For a key, its cases: the mode it is pressed in, the state after and the events. The handlers
are unfolded here and nowhere else.
-/

namespace Ghostport.Tui

open Ghostport.Core Ghostport.Lib

/-! ## Modes -/

/-- The steps of adding or editing a link. -/
def Mode.isLinkWizard : Mode → Bool
  | .chooseTemplate | .addLinkId | .addLinkDirection | .addLinkAddress => true
  | .normal | .confirmRemoveLink | .confirmServiceAction | .addPeerName | .addPeerPublicKey
  | .addPeerLinks | .confirmRemovePeer => false

/-- The steps of adding or editing a peer. -/
def Mode.isPeerWizard : Mode → Bool
  | .addPeerName | .addPeerPublicKey | .addPeerLinks => true
  | .normal | .chooseTemplate | .addLinkId | .addLinkDirection | .addLinkAddress
  | .confirmRemoveLink | .confirmServiceAction | .confirmRemovePeer => false

/-- The questions that `y` answers. -/
def Mode.isPrompt : Mode → Bool
  | .confirmRemoveLink | .confirmServiceAction | .confirmRemovePeer => true
  | .normal | .chooseTemplate | .addLinkId | .addLinkDirection | .addLinkAddress | .addPeerName
  | .addPeerPublicKey | .addPeerLinks => false

theorem Mode.isPrompt_of_wizard {mode : Mode} (h : mode.isLinkWizard ∨ mode.isPeerWizard) :
    mode.isPrompt = false := by
  revert h
  cases mode <;> simp [isLinkWizard, isPeerWizard, isPrompt]

/-! ## Keys -/

/-- The cases of `handle_key`. -/
inductive KeyCase (crates : Crates) (answers : Answers) (app : App) (file : File)
    (code : KeyCode) : State → List Event → Prop
  -- in every mode but those of the prompts
  | ignored : app.mode.isPrompt = false → KeyCase crates answers app file code ⟨app, file⟩ []
  | cursor {links peers cursor : ℕ} {template : Fin menuLen} {service : Fin serviceMenu.length} :
    app.mode.isPrompt = false →
    KeyCase crates answers app file code
      ⟨{ app with
          linksSelected := links, peersSelected := peers, peerLinksCursor := cursor,
          templateSelected := template, serviceMenuSelected := service }, file⟩ []
  | typed {text : List Char} :
    app.mode.isLinkWizard ∨ app.mode.isPeerWizard →
    KeyCase crates answers app file code ⟨{ app with inputBuffer := text }, file⟩ []
  -- in normal mode
  | quit : app.mode = .normal →
    KeyCase crates answers app file code ⟨{ app with shouldQuit := true }, file⟩ []
  | switched {tab : Tab} : app.mode = .normal →
    KeyCase crates answers app file code ⟨{ app with tab := tab }, file⟩ []
  | refreshed : app.mode = .normal →
    KeyCase crates answers app file code
      ⟨app.applyStatus answers.now answers.status, file⟩ []
  | saved : app.mode = .normal → code = .char 's' →
    KeyCase crates answers app file code (saveConfig crates ⟨app, file⟩ answers) []
  | linkAdded : app.mode = .normal → code = .char 'a' →
    KeyCase crates answers app file code ⟨app.beginAddLink, file⟩ []
  | linkEdited {link : LinkConfig} : app.mode = .normal → code = .char 'e' →
    app.selectedLink = some link →
    KeyCase crates answers app file code ⟨app.beginEditLink, file⟩ []
  | askedLink {link : LinkConfig} : app.mode = .normal → app.tab = .links → code = .char 'd' →
    app.selectedLink = some link →
    KeyCase crates answers app file code ⟨{ app with mode := .confirmRemoveLink }, file⟩ []
  | peerAdded : app.mode = .normal → code = .char 'a' →
    KeyCase crates answers app file code ⟨app.beginAddPeer, file⟩ []
  | peerEdited {peer : PeerConfig} : app.mode = .normal → code = .char 'e' →
    app.selectedPeer = some peer →
    KeyCase crates answers app file code ⟨app.beginEditPeer, file⟩ []
  | askedPeer {peer : PeerConfig} : app.mode = .normal → app.tab = .peers → code = .char 'd' →
    app.selectedPeer = some peer →
    KeyCase crates answers app file code ⟨{ app with mode := .confirmRemovePeer }, file⟩ []
  | askedService : app.mode = .normal → app.tab = .service → code = .enter →
    app.selectedServiceAction ≠ .viewLogs →
    KeyCase crates answers app file code
      ⟨{ app with
          pendingServiceAction := some app.selectedServiceAction
          mode := .confirmServiceAction }, file⟩ []
  | logsViewed : app.mode = .normal → app.selectedServiceAction = .viewLogs →
    KeyCase crates answers app file code
      ⟨(refreshServiceInfo { app with pendingServiceAction := none } answers).applyStatus
        answers.now answers.status, file⟩ [.ran .viewLogs]
  -- in the link wizard
  | linkCancelled : app.mode.isLinkWizard →
    KeyCase crates answers app file code ⟨app.cancelLinkWizard, file⟩ []
  | templateConfirmed : app.mode = .chooseTemplate →
    KeyCase crates answers app file code ⟨app.confirmTemplateChoice, file⟩ []
  | linkIdConfirmed : app.mode = .addLinkId → code = .enter →
    KeyCase crates answers app file code ⟨app.confirmLinkId, file⟩ []
  | modeChosen {mode : LinkMode} : app.mode = .addLinkDirection →
    KeyCase crates answers app file code ⟨app.chooseLinkMode mode, file⟩ []
  | addressConfirmed : app.mode = .addLinkAddress → code = .enter →
    KeyCase crates answers app file code ⟨app.confirmLinkAddress, file⟩ []
  -- in the peer wizard
  | peerCancelled : app.mode.isPeerWizard →
    KeyCase crates answers app file code ⟨app.cancelPeerWizard, file⟩ []
  | nameConfirmed : app.mode = .addPeerName → code = .enter →
    KeyCase crates answers app file code ⟨app.confirmPeerName, file⟩ []
  | publicKeyConfirmed : app.mode = .addPeerPublicKey → code = .enter →
    KeyCase crates answers app file code ⟨app.confirmPeerPublicKey crates.base64, file⟩ []
  | toggled : app.mode = .addPeerLinks →
    KeyCase crates answers app file code ⟨app.togglePeerLink, file⟩ []
  | linksConfirmed : app.mode = .addPeerLinks → code = .enter →
    KeyCase crates answers app file code ⟨app.confirmPeerLinks, file⟩ []
  -- in the prompts
  | linkRemoved : app.mode = .confirmRemoveLink → code.isYes →
    KeyCase crates answers app file code ⟨app.removeSelectedLink, file⟩ []
  | peerRemoved : app.mode = .confirmRemovePeer → code.isYes →
    KeyCase crates answers app file code ⟨app.removeSelectedPeer, file⟩ []
  | dismissed : app.mode = .confirmRemoveLink ∨ app.mode = .confirmRemovePeer → ¬ code.isYes →
    KeyCase crates answers app file code ⟨{ app with mode := .normal }, file⟩ []
  | serviceConfirmed : app.mode = .confirmServiceAction → code.isYes →
    KeyCase crates answers app file code
      ⟨(runPendingServiceAction { app with mode := .normal } answers).1, file⟩
      (runPendingServiceAction { app with mode := .normal } answers).2
  | serviceCancelled : app.mode = .confirmServiceAction → ¬ code.isYes →
    KeyCase crates answers app file code ⟨app.cancelServiceAction, file⟩ []

section

variable {crates : Crates} {answers : Answers} {app : App} {file : File} {code : KeyCode}

theorem handleLinksTab_cases (hmode : app.mode = .normal) (htab : app.tab = .links) :
    KeyCase crates answers app file code (handleLinksTab crates ⟨app, file⟩ code answers) [] := by
  have hprompt : app.mode.isPrompt = false := by rw [hmode]; rfl
  have hmove : ∀ delta, KeyCase crates answers app file code
      ⟨app.moveLinkSelection delta, file⟩ [] := by
    intro delta
    unfold App.moveLinkSelection
    split
    · exact .ignored hprompt
    · exact .cursor hprompt
  unfold handleLinksTab
  split
  · exact hmove 1
  · split
    · exact hmove (-1)
    · split
      · exact .linkAdded hmode ‹_›
      · split
        · split
          · rename_i hcode hsel
            obtain ⟨link, hlink⟩ := Option.isSome_iff_exists.mp hsel
            exact .linkEdited hmode hcode hlink
          · exact .ignored hprompt
        · split
          · split
            · rename_i hcode hsel
              obtain ⟨link, hlink⟩ := Option.isSome_iff_exists.mp hsel
              exact .askedLink hmode htab hcode hlink
            · exact .ignored hprompt
          · split
            · exact .saved hmode ‹_›
            · exact .ignored hprompt

theorem handlePeersTab_cases (hmode : app.mode = .normal) (htab : app.tab = .peers) :
    KeyCase crates answers app file code (handlePeersTab crates ⟨app, file⟩ code answers) [] := by
  have hprompt : app.mode.isPrompt = false := by rw [hmode]; rfl
  have hmove : ∀ delta, KeyCase crates answers app file code
      ⟨app.movePeerSelection delta, file⟩ [] := by
    intro delta
    unfold App.movePeerSelection
    split
    · exact .ignored hprompt
    · exact .cursor hprompt
  unfold handlePeersTab
  split
  · exact hmove 1
  · split
    · exact hmove (-1)
    · split
      · exact .peerAdded hmode ‹_›
      · split
        · split
          · rename_i hcode hsel
            obtain ⟨peer, hpeer⟩ := Option.isSome_iff_exists.mp hsel
            exact .peerEdited hmode hcode hpeer
          · exact .ignored hprompt
        · split
          · split
            · rename_i hcode hsel
              obtain ⟨peer, hpeer⟩ := Option.isSome_iff_exists.mp hsel
              exact .askedPeer hmode htab hcode hpeer
            · exact .ignored hprompt
          · split
            · exact .saved hmode ‹_›
            · exact .ignored hprompt

theorem activate_viewLogs (h : app.selectedServiceAction = .viewLogs) :
    app.activateSelectedServiceAction = { app with pendingServiceAction := some .viewLogs } := by
  unfold App.activateSelectedServiceAction
  rw [h]
  exact if_neg (by decide)

theorem activate_confirm (h : app.selectedServiceAction ≠ .viewLogs) :
    app.activateSelectedServiceAction =
      { app with
        pendingServiceAction := some app.selectedServiceAction
        mode := .confirmServiceAction } := by
  have hconfirm : app.selectedServiceAction.needsConfirm = true := decide_eq_true h
  exact if_pos hconfirm

theorem handleServiceTab_cases (hmode : app.mode = .normal) (htab : app.tab = .service) :
    KeyCase crates answers app file code ⟨(handleServiceTab app code answers).1, file⟩
      (handleServiceTab app code answers).2 := by
  have hprompt : app.mode.isPrompt = false := by rw [hmode]; rfl
  unfold handleServiceTab
  split
  · exact .cursor hprompt
  · split
    · exact .cursor hprompt
    · split
      · rename_i hcode
        by_cases hlogs : app.selectedServiceAction = .viewLogs
        · rw [activate_viewLogs hlogs]
          have hnormal : ({ app with pendingServiceAction := some .viewLogs } : App).mode =
              .normal := hmode
          rw [if_pos hnormal]
          exact .logsViewed hmode hlogs
        · rw [activate_confirm hlogs]
          have hprompt : ¬ Mode.confirmServiceAction = .normal := by decide
          rw [if_neg hprompt]
          exact .askedService hmode htab hcode hlogs
      · exact .ignored hprompt

theorem handleNormal_cases (hmode : app.mode = .normal) :
    KeyCase crates answers app file code (handleNormal crates ⟨app, file⟩ code answers).1
      (handleNormal crates ⟨app, file⟩ code answers).2 := by
  have hprompt : app.mode.isPrompt = false := by rw [hmode]; rfl
  unfold handleNormal
  split
  · exact .quit hmode
  · split
    · exact .switched hmode
    · split
      · exact .switched hmode
      · split
        · exact .switched hmode
        · split
          · exact .switched hmode
          · split
            · exact .switched hmode
            · cases htab : app.tab with
              | links => exact handleLinksTab_cases hmode htab
              | service => exact handleServiceTab_cases hmode htab
              | peers => exact handlePeersTab_cases hmode htab
              | status =>
                simp only
                split
                · exact .refreshed hmode
                · exact .ignored hprompt

theorem handleChooseTemplate_cases (hmode : app.mode = .chooseTemplate) :
    KeyCase crates answers app file code ⟨handleChooseTemplate app code, file⟩ [] := by
  have hprompt : app.mode.isPrompt = false := by rw [hmode]; rfl
  unfold handleChooseTemplate
  split
  · exact .linkCancelled (by rw [hmode]; rfl)
  · split
    · exact .cursor hprompt
    · split
      · exact .cursor hprompt
      · split
        · exact .templateConfirmed hmode
        · exact .ignored hprompt

theorem typed_cases (hmode : app.mode.isLinkWizard ∨ app.mode.isPeerWizard) :
    KeyCase crates answers app file code ⟨typed app code, file⟩ [] := by
  have hprompt := Mode.isPrompt_of_wizard hmode
  cases code with
  | backspace | char c => exact .typed hmode
  | enter | esc | tab | up | down | other => exact .ignored hprompt

theorem handleLinkTextInput_cases (hmode : app.mode = .addLinkId ∨ app.mode = .addLinkAddress) :
    KeyCase crates answers app file code ⟨handleLinkTextInput app code, file⟩ [] := by
  have hwizard : app.mode.isLinkWizard := by
    rcases hmode with hmode | hmode <;> rw [hmode] <;> rfl
  unfold handleLinkTextInput
  split
  · exact .linkCancelled hwizard
  · split
    · rename_i hcode
      rcases hmode with hmode | hmode <;> simp only [hmode]
      · exact .linkIdConfirmed hmode hcode
      · exact .addressConfirmed hmode hcode
    · exact typed_cases (.inl hwizard)

theorem handleLinkModeChoice_cases (hmode : app.mode = .addLinkDirection) :
    KeyCase crates answers app file code ⟨handleLinkModeChoice app code, file⟩ [] := by
  unfold handleLinkModeChoice
  split
  · exact .linkCancelled (by rw [hmode]; rfl)
  · split
    · exact .modeChosen hmode
    · split
      · exact .modeChosen hmode
      · exact .ignored (by rw [hmode]; rfl)

theorem handlePeerTextInput_cases (hmode : app.mode = .addPeerName ∨ app.mode = .addPeerPublicKey) :
    KeyCase crates answers app file code
      ⟨handlePeerTextInput crates.base64 app code, file⟩ [] := by
  have hwizard : app.mode.isPeerWizard := by
    rcases hmode with hmode | hmode <;> rw [hmode] <;> rfl
  unfold handlePeerTextInput
  split
  · exact .peerCancelled hwizard
  · split
    · rename_i hcode
      rcases hmode with hmode | hmode <;> simp only [hmode]
      · exact .nameConfirmed hmode hcode
      · exact .publicKeyConfirmed hmode hcode
    · exact typed_cases (.inr hwizard)

theorem handlePeerLinksChecklist_cases (hmode : app.mode = .addPeerLinks) :
    KeyCase crates answers app file code ⟨handlePeerLinksChecklist app code, file⟩ [] := by
  have hprompt : app.mode.isPrompt = false := by rw [hmode]; rfl
  have hmove : ∀ delta, KeyCase crates answers app file code
      ⟨app.movePeerLinksCursor delta, file⟩ [] := by
    intro delta
    unfold App.movePeerLinksCursor
    split
    · exact .ignored hprompt
    · exact .cursor hprompt
  unfold handlePeerLinksChecklist
  split
  · exact .peerCancelled (by rw [hmode]; rfl)
  · split
    · exact hmove 1
    · split
      · exact hmove (-1)
      · split
        · exact .toggled hmode
        · split
          · exact .linksConfirmed hmode ‹_›
          · exact .ignored hprompt

/-- Every key. -/
theorem handleKey_cases :
    KeyCase crates answers app file code (handleKey crates ⟨app, file⟩ code answers).1
      (handleKey crates ⟨app, file⟩ code answers).2 := by
  unfold handleKey
  cases hmode : app.mode with
  | normal => exact handleNormal_cases hmode
  | chooseTemplate => exact handleChooseTemplate_cases hmode
  | addLinkId => exact handleLinkTextInput_cases (.inl hmode)
  | addLinkAddress => exact handleLinkTextInput_cases (.inr hmode)
  | addLinkDirection => exact handleLinkModeChoice_cases hmode
  | addPeerName => exact handlePeerTextInput_cases (.inl hmode)
  | addPeerPublicKey => exact handlePeerTextInput_cases (.inr hmode)
  | addPeerLinks => exact handlePeerLinksChecklist_cases hmode
  | confirmRemoveLink =>
    simp only [handleConfirmRemoveLink]
    split
    · exact .linkRemoved hmode ‹_›
    · exact .dismissed (.inl hmode) ‹_›
  | confirmRemovePeer =>
    simp only [handleConfirmRemovePeer]
    split
    · exact .peerRemoved hmode ‹_›
    · exact .dismissed (.inr hmode) ‹_›
  | confirmServiceAction =>
    simp only [handleConfirmServiceAction]
    split
    · exact .serviceConfirmed hmode ‹_›
    · exact .serviceCancelled hmode ‹_›

end

/-! ## Steps -/

/-- What the loop does to the message before it handles a key. -/
def cleared (app : App) : App := { app with message := none }

/-- The cases of a step. -/
inductive StepCase (crates : Crates) (s : State) : Input → State → List Event → Prop
  | key {code : KeyCode} {answers : Answers} {s' : State} {es : List Event} :
    KeyCase crates answers (cleared s.app) s.file code s' es →
    StepCase crates s (.key code answers) s' es
  | idle {answers : Answers} :
    StepCase crates s (.idle answers) { s with app := idleTick s.app answers } []
  | other : StepCase crates s .other s []

theorem step_cases {crates : Crates} {s s' : State} {input : Input} {es : List Event}
    (h : step crates s input = some (s', es)) : StepCase crates s input s' es := by
  unfold step at h
  split at h
  · cases h
  · cases input with
    | key code answers =>
      have hcase := @handleKey_cases crates answers (cleared s.app) s.file code
      obtain ⟨rfl, rfl⟩ := Prod.mk.inj (Option.some.inj h)
      exact .key hcase
    | idle answers =>
      cases h
      exact .idle
    | other =>
      cases h
      exact .other

end Ghostport.Tui
