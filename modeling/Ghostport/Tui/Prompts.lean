import Ghostport.Tui.Effects

/-!
# The prompts

An action that needs a confirmation, or the removal of an entry, happens only where `y` answers
the prompt that the key before it has opened.

Results:
* `prompted_run`: which key has opened a prompt, in which state, and what it asks for.
* `confirmed_only`: what the answers do, over whole runs.
-/

namespace Ghostport.Tui

open Ghostport.Core Ghostport.Lib

/-! ## The key before -/

def Input.isKey : Input → Bool
  | .key _ _ => true
  | .idle _ | .other => false

/-- The last key of the inputs is `code`, and it has been pressed in the state `t`. -/
def LastKey (crates : Crates) (s₀ : State) (inputs : List Input) (code : KeyCode) (t : State) :
    Prop :=
  ∃ before answers after tr, inputs = before ++ .key code answers :: after ∧
    (∀ input ∈ after, input.isKey = false) ∧ Run (step crates) Free s₀ before t tr

section

variable {crates : Crates} {s₀ s s' t : State} {inputs : List Input} {input : Input}
  {tr es : List Event} {code : KeyCode}

theorem lastKey_pressed {answers : Answers} (hrun : Run (step crates) Free s₀ inputs s tr) :
    LastKey crates s₀ (inputs ++ [.key code answers]) code s :=
  ⟨inputs, answers, [], tr, rfl, by simp, hrun⟩

theorem LastKey.quiet (h : LastKey crates s₀ inputs code t) (hinput : input.isKey = false) :
    LastKey crates s₀ (inputs ++ [input]) code t := by
  obtain ⟨before, answers, after, tr, rfl, hafter, hrun⟩ := h
  refine ⟨before, answers, after ++ [input], tr, by simp, ?_, hrun⟩
  intro i hi
  rcases List.mem_append.mp hi with hi | hi
  · exact hafter i hi
  · rw [List.mem_singleton.mp hi]
    exact hinput

/-! ## Open prompts -/

/-- The prompt that is open, if one is, has been opened by the last key, and asks for what was
    selected then. No action waits where no prompt for it is open. -/
structure Prompted (crates : Crates) (s₀ : State) (inputs : List Input) (s : State) : Prop where
  service : s.app.mode = .confirmServiceAction → ∃ t, LastKey crates s₀ inputs .enter t ∧
    t.app.mode = .normal ∧ t.app.tab = .service ∧ t.app.selectedServiceAction ≠ .viewLogs ∧
    s.app.pendingServiceAction = some t.app.selectedServiceAction
  idle : s.app.mode ≠ .confirmServiceAction → s.app.pendingServiceAction = none
  link : s.app.mode = .confirmRemoveLink → ∃ t link, LastKey crates s₀ inputs (.char 'd') t ∧
    t.app.mode = .normal ∧ t.app.tab = .links ∧ t.app.selectedLink = some link ∧
    s.app.config = t.app.config ∧ s.app.linksSelected = t.app.linksSelected
  peer : s.app.mode = .confirmRemovePeer → ∃ t peer, LastKey crates s₀ inputs (.char 'd') t ∧
    t.app.mode = .normal ∧ t.app.tab = .peers ∧ t.app.selectedPeer = some peer ∧
    s.app.config = t.app.config ∧ s.app.peersSelected = t.app.peersSelected

/-- Where no prompt is open. -/
theorem prompted_of_none (hmode : s.app.mode.isPrompt = false)
    (hpending : s.app.pendingServiceAction = none) : Prompted crates s₀ inputs s := by
  have hne : ∀ mode : Mode, mode.isPrompt = true → s.app.mode ≠ mode := by
    intro mode hprompt heq
    rw [heq, hprompt] at hmode
    cases hmode
  exact ⟨fun h => absurd h (hne _ rfl), fun _ => hpending, fun h => absurd h (hne _ rfl),
    fun h => absurd h (hne _ rfl)⟩

/-- Between two keys nothing of a prompt changes. -/
structure Still (app app' : App) : Prop where
  mode : app'.mode = app.mode
  config : app'.config = app.config
  links : app'.linksSelected = app.linksSelected
  peers : app'.peersSelected = app.peersSelected
  pending : app'.pendingServiceAction = app.pendingServiceAction

theorem Refreshed.still {app app' : App} (h : Refreshed app app') : Still app app' := by
  cases h
  exact ⟨rfl, rfl, rfl, rfl, rfl⟩

theorem Prompted.quiet (h : Prompted crates s₀ inputs s) (hstill : Still s.app s'.app)
    (hinput : input.isKey = false) : Prompted crates s₀ (inputs ++ [input]) s' := by
  constructor
  case service =>
    intro hmode
    obtain ⟨t, hkey, hnormal, htab, hlogs, hpending⟩ := h.service (hstill.mode ▸ hmode)
    exact ⟨t, hkey.quiet hinput, hnormal, htab, hlogs, hstill.pending.trans hpending⟩
  case idle =>
    intro hmode
    exact hstill.pending.trans (h.idle (hstill.mode ▸ hmode))
  case link =>
    intro hmode
    obtain ⟨t, link, hkey, hnormal, htab, hsel, hconfig, hlinks⟩ := h.link (hstill.mode ▸ hmode)
    exact ⟨t, link, hkey.quiet hinput, hnormal, htab, hsel, hstill.config.trans hconfig,
      hstill.links.trans hlinks⟩
  case peer =>
    intro hmode
    obtain ⟨t, peer, hkey, hnormal, htab, hsel, hconfig, hpeers⟩ := h.peer (hstill.mode ▸ hmode)
    exact ⟨t, peer, hkey.quiet hinput, hnormal, htab, hsel, hstill.config.trans hconfig,
      hstill.peers.trans hpeers⟩

/-! ## Keys -/

theorem runPendingServiceAction_ran {app : App} {action : ServiceAction}
    (h : app.pendingServiceAction = some action) (answers : Answers) :
    (runPendingServiceAction app answers).2 = [.ran action] := by
  unfold runPendingServiceAction
  rw [h]

theorem confirmLinkAddress_idle {app : App} (hmode : app.mode.isPrompt = false) :
    app.confirmLinkAddress.mode.isPrompt = false ∧
      app.confirmLinkAddress.pendingServiceAction = app.pendingServiceAction := by
  have hc := confirmLinkAddress_cases app
  generalize app.confirmLinkAddress = app' at hc
  cases hc with
  | missing _ | emptied _ | completed _ => exact ⟨rfl, rfl⟩
  | rejected _ => exact ⟨hmode, rfl⟩

theorem confirmPeerLinks_idle (app : App) :
    app.confirmPeerLinks.mode.isPrompt = false ∧
      app.confirmPeerLinks.pendingServiceAction = app.pendingServiceAction := by
  have hc := confirmPeerLinks_cases app
  generalize app.confirmPeerLinks = app' at hc
  cases hc <;> exact ⟨rfl, rfl⟩

theorem Plain.isPrompt {app app' : App} (h : Plain app app') (hmode : app.mode.isPrompt = false) :
    app'.mode.isPrompt = false := by
  by_contra hprompt
  have hopen := h.prompt (by simpa using hprompt)
  rw [hmode] at hopen
  cases hopen

theorem prompted_key {answers : Answers} (h : Prompted crates s₀ inputs s)
    (hrun : Run (step crates) Free s₀ inputs s tr)
    (hc : KeyCase crates answers (cleared s.app) s.file code s' es) :
    Prompted crates s₀ (inputs ++ [.key code answers]) s' := by
  -- where no prompt is open no action waits
  have idle : ∀ {mode : Mode}, (cleared s.app).mode = mode → mode ≠ .confirmServiceAction →
      s.app.pendingServiceAction = none := by
    rintro mode rfl hne
    exact h.idle hne
  have closed : (cleared s.app).mode.isPrompt = false → s.app.pendingServiceAction = none := by
    intro hmode
    refine idle rfl fun heq => ?_
    rw [heq] at hmode
    cases hmode
  have plain : ∀ {mode : Mode}, (cleared s.app).mode = mode → mode.isPrompt = false →
      ∀ {app' : App}, Plain (cleared s.app) app' →
      Prompted crates s₀ (inputs ++ [.key code answers]) ⟨app', s.file⟩ := by
    rintro mode rfl hmode app' hplain
    exact prompted_of_none (hplain.isPrompt hmode) (hplain.pending.trans (closed hmode))
  cases hc with
  | ignored hmode | cursor hmode => exact prompted_of_none hmode (closed hmode)
  | typed hmode =>
    have hprompt := Mode.isPrompt_of_wizard hmode
    exact prompted_of_none hprompt (closed hprompt)
  | quit hmode | switched hmode => exact plain hmode rfl ⟨⟨rfl, rfl⟩, id, rfl⟩
  | refreshed hmode => exact plain hmode rfl (plain_applyStatus _ _ _)
  | logsViewed hmode _ =>
    have hplain := plain_applyStatus
      (refreshServiceInfo { cleared s.app with pendingServiceAction := none } answers)
      answers.now answers.status
    have hprompt : (cleared s.app).mode.isPrompt = false := by rw [hmode]; rfl
    exact prompted_of_none (hplain.isPrompt hprompt) hplain.pending
  | saved hmode _ =>
    obtain ⟨-, hmode', hpending⟩ := saveConfig_app crates ⟨cleared s.app, s.file⟩ answers
    refine prompted_of_none ?_ (hpending.trans (idle hmode (by decide)))
    rw [hmode', hmode]
    rfl
  | linkAdded hmode _ => exact prompted_of_none rfl (idle hmode (by decide))
  | linkEdited hmode _ _ => exact plain hmode rfl (plain_beginEditLink _)
  | peerAdded hmode _ => exact plain hmode rfl (plain_beginAddPeer _)
  | peerEdited hmode _ _ => exact plain hmode rfl (plain_beginEditPeer _)
  | linkCancelled hmode =>
    exact prompted_of_none rfl (closed (Mode.isPrompt_of_wizard (.inl hmode)))
  | templateConfirmed hmode => exact plain hmode rfl (plain_confirmTemplateChoice _)
  | linkIdConfirmed hmode _ => exact plain hmode rfl (plain_confirmLinkId _)
  | modeChosen hmode => exact prompted_of_none rfl (idle hmode (by decide))
  | addressConfirmed hmode _ =>
    have hprompt : (cleared s.app).mode.isPrompt = false := by rw [hmode]; rfl
    obtain ⟨hmode', hpending⟩ := confirmLinkAddress_idle hprompt
    exact prompted_of_none hmode' (hpending.trans (closed hprompt))
  | peerCancelled hmode =>
    exact prompted_of_none rfl (closed (Mode.isPrompt_of_wizard (.inr hmode)))
  | nameConfirmed hmode _ => exact plain hmode rfl (plain_confirmPeerName _)
  | publicKeyConfirmed hmode _ => exact plain hmode rfl (plain_confirmPeerPublicKey _ _)
  | toggled hmode => exact plain hmode rfl (plain_togglePeerLink _)
  | linksConfirmed hmode _ =>
    obtain ⟨hmode', hpending⟩ := confirmPeerLinks_idle (cleared s.app)
    exact prompted_of_none hmode' (hpending.trans (idle hmode (by decide)))
  | linkRemoved hmode _ =>
    obtain ⟨hmode', hpending⟩ := removeSelectedLink_idle (cleared s.app)
    exact prompted_of_none (by rw [hmode']; rfl) (hpending.trans (idle hmode (by decide)))
  | peerRemoved hmode _ =>
    obtain ⟨hmode', hpending⟩ := removeSelectedPeer_idle (cleared s.app)
    exact prompted_of_none (by rw [hmode']; rfl) (hpending.trans (idle hmode (by decide)))
  | dismissed hmode _ =>
    rcases hmode with hmode | hmode <;> exact prompted_of_none rfl (idle hmode (by decide))
  | serviceConfirmed _ _ =>
    have hplain := (runPendingServiceAction_app { cleared s.app with mode := .normal }
      answers).plain
    exact prompted_of_none (hplain.isPrompt rfl) hplain.pending
  | serviceCancelled _ _ => exact prompted_of_none rfl rfl
  | askedLink hmode htab hcode hsel =>
    subst hcode
    refine ⟨(by cases ·), fun _ => idle hmode (by decide), fun _ => ?_, (by cases ·)⟩
    exact ⟨s, _, lastKey_pressed hrun, hmode, htab, hsel, rfl, rfl⟩
  | askedPeer hmode htab hcode hsel =>
    subst hcode
    refine ⟨(by cases ·), fun _ => idle hmode (by decide), (by cases ·), fun _ => ?_⟩
    exact ⟨s, _, lastKey_pressed hrun, hmode, htab, hsel, rfl, rfl⟩
  | askedService hmode htab hcode hlogs =>
    subst hcode
    refine ⟨fun _ => ?_, fun h => absurd rfl h, (by cases ·), (by cases ·)⟩
    exact ⟨s, lastKey_pressed hrun, hmode, htab, hlogs, rfl⟩

/-- In every run. -/
theorem prompted_run (hmode : s₀.app.mode.isPrompt = false)
    (hpending : s₀.app.pendingServiceAction = none) (hrun : Run (step crates) Free s₀ inputs s tr) :
    Prompted crates s₀ inputs s := by
  induction hrun with
  | nil => exact prompted_of_none hmode hpending
  | snoc hrun _ hst ih =>
    cases step_cases hst with
    | other => exact ih.quiet ⟨rfl, rfl, rfl, rfl, rfl⟩ rfl
    | idle => exact ih.quiet (refreshed_idleTick _ _).still rfl
    | key hc => exact prompted_key ih hrun hc

/-! ## Results -/

/-- What a step may run and take out. -/
structure ConfirmedOnly (crates : Crates) (s₀ : State) (inputs : List Input) (s : State)
    (input : Input) (s' : State) (es : List Event) : Prop where
  /-- An action that is not `ViewLogs` runs on `y`, where the last key was the `Enter` on it. -/
  ran : ∀ action, Event.ran action ∈ es → action ≠ .viewLogs →
    es = [.ran action] ∧ ∃ code answers t, input = .key code answers ∧ code.isYes ∧
      LastKey crates s₀ inputs .enter t ∧ t.app.mode = .normal ∧ t.app.tab = .service ∧
      t.app.selectedServiceAction = action
  /-- But for the end of the link wizard, the links change on `y`, where the last key was the
      `d` on the link that is taken out. -/
  linkTaken : s.app.mode ≠ .addLinkAddress → s'.app.config.links ≠ s.app.config.links →
    ∃ code answers t link, input = .key code answers ∧ code.isYes ∧
      LastKey crates s₀ inputs (.char 'd') t ∧ t.app.mode = .normal ∧ t.app.tab = .links ∧
      t.app.selectedLink = some link ∧
      s'.app.config =
        { t.app.config with links := t.app.config.links.eraseIdx t.app.linksSelected }
  /-- The same for the peers. -/
  peerTaken : s.app.mode ≠ .addPeerLinks → s'.app.config.peers ≠ s.app.config.peers →
    ∃ code answers t peer, input = .key code answers ∧ code.isYes ∧
      LastKey crates s₀ inputs (.char 'd') t ∧ t.app.mode = .normal ∧ t.app.tab = .peers ∧
      t.app.selectedPeer = some peer ∧
      s'.app.config =
        { t.app.config with peers := t.app.config.peers.eraseIdx t.app.peersSelected }
  /-- Any other key closes the prompt and does nothing else. -/
  dismissed : s.app.mode.isPrompt → ∀ code answers, input = .key code answers →
    ¬ code.isYes → es = [] ∧ Kept s.app s'.app ∧ s'.app.mode = .normal
  /-- No action is left waiting. -/
  idle : s'.app.mode ≠ .confirmServiceAction → s'.app.pendingServiceAction = none

theorem ran_cases (hprompted : Prompted crates s₀ inputs s)
    (hst : step crates s input = some (s', es)) {action : ServiceAction}
    (hran : Event.ran action ∈ es) (hlogs : action ≠ .viewLogs) :
    es = [.ran action] ∧ ∃ code answers t, input = .key code answers ∧ code.isYes ∧
      LastKey crates s₀ inputs .enter t ∧ t.app.mode = .normal ∧ t.app.tab = .service ∧
      t.app.selectedServiceAction = action := by
  cases step_cases hst with
  | other | idle => cases hran
  | key hc =>
    cases hc with
    | logsViewed _ _ =>
      cases List.mem_singleton.mp hran
      exact absurd rfl hlogs
    | serviceConfirmed hmode hyes =>
      obtain ⟨t, hkey, hnormal, htab, -, hpending⟩ := hprompted.service hmode
      have hes := @runPendingServiceAction_ran { cleared s.app with mode := .normal } _ hpending
      rw [hes] at hran
      rw [hes]
      obtain rfl := Event.ran.inj (List.mem_singleton.mp hran)
      exact ⟨rfl, _, _, t, rfl, hyes, hkey, hnormal, htab, rfl⟩
    | _ => cases hran

theorem linkTaken_cases (hprompted : Prompted crates s₀ inputs s)
    (hst : step crates s input = some (s', es)) (hmode : s.app.mode ≠ .addLinkAddress)
    (hchanged : s'.app.config.links ≠ s.app.config.links) :
    ∃ code answers t link, input = .key code answers ∧ code.isYes ∧
      LastKey crates s₀ inputs (.char 'd') t ∧ t.app.mode = .normal ∧ t.app.tab = .links ∧
      t.app.selectedLink = some link ∧
      s'.app.config =
        { t.app.config with links := t.app.config.links.eraseIdx t.app.linksSelected } := by
  cases step_effect hst with
  | kept hkept _ => exact absurd (by rw [hkept.config]) hchanged
  | linkPut _ hput _ _ _ _ _ => exact absurd hput hmode
  | linkTaken hinput hyes hprompt _ hconfig _ _ _ =>
    obtain ⟨t, link, hkey, hnormal, htab, hsel, heq, hlinks⟩ := hprompted.link hprompt
    rw [heq, hlinks] at hconfig
    exact ⟨_, _, t, link, hinput, hyes, hkey, hnormal, htab, hsel, hconfig⟩
  | peerPut _ _ _ _ hconfig _ _ _ | peerTaken _ _ _ _ hconfig _ _ _ =>
    exact absurd (by rw [hconfig]) hchanged
  | @saved answers _ _ heq =>
    refine absurd ?_ hchanged
    rw [heq, (saveConfig_app crates { s with app := cleared s.app } answers).1]
    rfl

theorem peerTaken_cases (hprompted : Prompted crates s₀ inputs s)
    (hst : step crates s input = some (s', es)) (hmode : s.app.mode ≠ .addPeerLinks)
    (hchanged : s'.app.config.peers ≠ s.app.config.peers) :
    ∃ code answers t peer, input = .key code answers ∧ code.isYes ∧
      LastKey crates s₀ inputs (.char 'd') t ∧ t.app.mode = .normal ∧ t.app.tab = .peers ∧
      t.app.selectedPeer = some peer ∧
      s'.app.config =
        { t.app.config with peers := t.app.config.peers.eraseIdx t.app.peersSelected } := by
  cases step_effect hst with
  | kept hkept _ => exact absurd (by rw [hkept.config]) hchanged
  | peerPut _ hput _ _ _ _ _ _ => exact absurd hput hmode
  | peerTaken hinput hyes hprompt _ hconfig _ _ _ =>
    obtain ⟨t, peer, hkey, hnormal, htab, hsel, heq, hpeers⟩ := hprompted.peer hprompt
    rw [heq, hpeers] at hconfig
    exact ⟨_, _, t, peer, hinput, hyes, hkey, hnormal, htab, hsel, hconfig⟩
  | linkPut _ _ _ hconfig _ _ _ | linkTaken _ _ _ _ hconfig _ _ _ =>
    exact absurd (by rw [hconfig]) hchanged
  | @saved answers _ _ heq =>
    refine absurd ?_ hchanged
    rw [heq, (saveConfig_app crates { s with app := cleared s.app } answers).1]
    rfl

theorem dismissed_cases {answers : Answers} (hprompt : s.app.mode.isPrompt)
    (hyes : ¬ code.isYes) (hst : step crates s (.key code answers) = some (s', es)) :
    es = [] ∧ Kept s.app s'.app ∧ s'.app.mode = .normal := by
  have hopen : (cleared s.app).mode.isPrompt = true := hprompt
  have closed : ∀ {mode : Mode}, (cleared s.app).mode = mode → mode.isPrompt = false → False := by
    rintro mode rfl hmode
    rw [hopen] at hmode
    cases hmode
  cases step_cases hst with
  | key hc =>
    cases hc with
    | dismissed _ _ | serviceCancelled _ _ => exact ⟨rfl, ⟨rfl, rfl⟩, rfl⟩
    | linkRemoved _ h | peerRemoved _ h | serviceConfirmed _ h => exact absurd h hyes
    | ignored h | cursor h => exact (closed rfl h).elim
    | typed h => exact (closed rfl (Mode.isPrompt_of_wizard h)).elim
    | linkCancelled h => exact (closed rfl (Mode.isPrompt_of_wizard (.inl h))).elim
    | peerCancelled h => exact (closed rfl (Mode.isPrompt_of_wizard (.inr h))).elim
    | quit h | switched h | refreshed h | templateConfirmed h | modeChosen h | toggled h =>
      exact (closed h rfl).elim
    | saved h _ | linkAdded h _ | peerAdded h _ | logsViewed h _ | linkIdConfirmed h _
    | addressConfirmed h _ | nameConfirmed h _ | publicKeyConfirmed h _ | linksConfirmed h _ =>
      exact (closed h rfl).elim
    | linkEdited h _ _ | peerEdited h _ _ => exact (closed h rfl).elim
    | askedLink h _ _ _ | askedPeer h _ _ _ | askedService h _ _ _ => exact (closed h rfl).elim

/-- In every run from a loaded config, for the step after it: actions run, and entries are taken
    out, only on the `y` that follows the key that asked for just this. -/
theorem confirmed_only {configPath : String} {file : File} {answers : Answers}
    (hstart : start crates configPath file answers = .ok s₀)
    (hrun : Run (step crates) Free s₀ inputs s tr) (hst : step crates s input = some (s', es)) :
    ConfirmedOnly crates s₀ inputs s input s' es := by
  obtain ⟨hnormal, hpending⟩ := start_idle hstart
  have hmode : s₀.app.mode.isPrompt = false := by rw [hnormal]; rfl
  have hprompted := prompted_run hmode hpending hrun
  have hprompted' := prompted_run hmode hpending (hrun.snoc trivial hst)
  constructor
  case ran => exact fun action hran hlogs => ran_cases hprompted hst hran hlogs
  case linkTaken => exact linkTaken_cases hprompted hst
  case peerTaken => exact peerTaken_cases hprompted hst
  case dismissed =>
    rintro hprompt code answers rfl hyes
    exact dismissed_cases hprompt hyes hst
  case idle => exact hprompted'.idle

end

/-- `Enter` on the Service tab and then `y` start the daemon. -/
theorem confirmed_only_start : ∃ s tr s',
    Run (step exampleCrates) Free exampleStart (press "3\n") s tr ∧
    step exampleCrates s (.key (.char 'y') exampleAnswers) = some (s', [.ran .start]) ∧
    ∃ t, LastKey exampleCrates exampleStart (press "3\n") .enter t ∧
      t.app.selectedServiceAction = .start := by
  obtain ⟨s, tr, s', hrun, hst⟩ : ∃ s tr s',
      Run (step exampleCrates) Free exampleStart (press "3\n") s tr ∧
        step exampleCrates s (.key (.char 'y') exampleAnswers) = some (s', [.ran .start]) :=
    ⟨_, _, _, run_of_exec rfl, rfl⟩
  have hconfirmed := confirmed_only start_example hrun hst
  obtain ⟨-, code, answers, t, -, -, hkey, -, -, hselected⟩ :=
    hconfirmed.ran .start (by simp) (by decide)
  exact ⟨s, tr, s', hrun, hst, t, hkey, hselected⟩

end Ghostport.Tui
