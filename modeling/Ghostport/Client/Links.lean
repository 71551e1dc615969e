import Ghostport.Client.Cases

/-!
# The links that the tasks of the client work for

Results:
* `linksInv_run`: every task works for a link of the config, of the mode that its origin
  has, and every link has its counters.
* `hello_of_run`: every hello names such a link.
-/

namespace Ghostport.Client

open Ghostport.Core Ghostport.Net Ghostport.Lib

/-- The mode of the links that a tunnel of this origin is dialed for. -/
def Origin.mode : Origin → LinkMode
  | .accepted _ => .forward
  | .signalled _ _ => .reverse

/-- The config has a link of this id and mode. -/
def HasLink (config : Config) (id : String) (mode : LinkMode) : Prop :=
  ∃ link ∈ config.links, link.id = id ∧ link.mode = mode

def Stream.HasLink (stream : Stream) (config : Config) : Prop :=
  Client.HasLink config stream.linkId stream.origin.mode

structure LinksInv (ctx : Context) (s : State) : Prop where
  listeners : ∀ l ∈ s.listeners, HasLink ctx.config l.linkId .forward
  openings : ∀ o ∈ s.openings, HasLink ctx.config o.linkId .reverse
  tunnels : ∀ t ∈ s.tunnels, t.stream.HasLink ctx.config
  stats : ∀ link ∈ ctx.config.links, (s.stats link.id).isSome

variable {ctx : Context} {s s' : State} {es : List Event}

theorem forwardListeners_links {links : List LinkConfig} {ls : List ForwardListener}
    (h : forwardListeners links = some ls) :
    ∀ l ∈ ls, ∃ link ∈ links, link.id = l.linkId ∧ link.mode = .forward := by
  induction links generalizing ls with
  | nil =>
    cases h
    simp
  | cons link links ih =>
    rw [forwardListeners] at h
    have later : ∀ {rest : List ForwardListener}, forwardListeners links = some rest →
        ∀ l ∈ rest, ∃ link' ∈ link :: links, link'.id = l.linkId ∧ link'.mode = .forward := by
      intro rest hrest l hl
      obtain ⟨link', hlink', hprops⟩ := ih hrest l hl
      exact ⟨link', List.mem_cons_of_mem _ hlink', hprops⟩
    split at h
    · rename_i hforward
      split at h
      · cases h
      · obtain ⟨rest, hrest, rfl⟩ := Option.map_eq_some_iff.mp h
        intro l hl
        rcases List.mem_cons.mp hl with rfl | hl
        · exact ⟨link, by simp, rfl, hforward.2⟩
        · exact later hrest l hl
    · exact later h

theorem linksInv_start {clock : Instant} {s₀ : State} (h : start ctx clock = some s₀) :
    LinksInv ctx s₀ := by
  unfold start at h
  split at h
  · rename_i hlisteners _
    cases h
    refine ⟨forwardListeners_links hlisteners, by simp, by simp, fun link hlink => ?_⟩
    have hid : link.id ∈ ctx.config.links.map (·.id) := List.mem_map_of_mem hlink
    simp [initialStats, hid]
  · cases h

namespace LinksInv

/-- Counters of a link are updated, not removed. -/
theorem stats_update (h : LinksInv ctx s) (id : String) {stats : Option LinkStats}
    (hstats : (s.stats id).isSome → stats.isSome) :
    ∀ link ∈ ctx.config.links, (Function.update s.stats id stats link.id).isSome := by
  intro link hlink
  rw [Function.update_apply]
  split
  · rename_i hid
    exact hstats (hid ▸ h.stats link hlink)
  · exact h.stats link hlink

theorem tunnels_set (h : LinksInv ctx s) {i : ℕ} {stream : Stream} {phase phase' : TunnelPhase}
    (hi : s.tunnels[i]? = some ⟨stream, phase⟩) :
    ∀ t ∈ s.tunnels.set i ⟨stream, phase'⟩, t.stream.HasLink ctx.config := by
  intro t ht
  rcases List.mem_or_eq_of_mem_set ht with ht | rfl
  · exact h.tunnels t ht
  · exact h.tunnels ⟨stream, phase⟩ (List.mem_of_getElem? hi)

theorem dial (h : LinksInv ctx s) {stream : Stream} (hstream : stream.HasLink ctx.config)
    (hc : DialCase ctx s stream s' es) : LinksInv ctx s' := by
  cases hc with
  | dialed _ =>
    refine ⟨h.listeners, h.openings, fun t ht => ?_, h.stats⟩
    rcases List.mem_append.mp ht with ht | ht
    · exact h.tunnels t ht
    · rw [List.mem_singleton.mp ht]
      exact hstream
  | panicked _ => exact h

theorem tunnel (h : LinksInv ctx s) {i : ℕ} {a : TunnelAction}
    (hc : TunnelCase s i a s' es) : LinksInv ctx s' := by
  have erased : ∀ t ∈ s.tunnels.eraseIdx i, t.stream.HasLink ctx.config :=
    fun t ht => h.tunnels t (List.mem_of_mem_eraseIdx ht)
  cases hc with
  | failed _ _ | panicked _ _ => exact ⟨h.listeners, h.openings, erased, h.stats⟩
  | connected hi _ | hello hi => exact ⟨h.listeners, h.openings, h.tunnels_set hi, h.stats⟩
  | @started stream stats hi _ =>
    exact ⟨h.listeners, h.openings, h.tunnels_set hi, h.stats_update stream.linkId fun _ => rfl⟩
  | @ended stream result _ =>
    exact ⟨h.listeners, h.openings, erased, h.stats_update stream.linkId (by simp)⟩

theorem step (h : LinksInv ctx s) {a : Action} (hst : Client.step ctx s a = some (s', es)) :
    LinksInv ctx s' := by
  cases step_cases hst with
  | tick _ => exact ⟨h.listeners, h.openings, h.tunnels, h.stats⟩
  | @listener i a _ _ hc =>
    cases hc with
    | @bound linkId listenAddr _ _ _ hi =>
      refine ⟨fun l hl => ?_, h.openings, h.tunnels, h.stats⟩
      rcases List.mem_or_eq_of_mem_set hl with hl | rfl
      · exact h.listeners l hl
      · exact h.listeners ⟨linkId, listenAddr, .binding⟩ (List.mem_of_getElem? hi)
    | acceptFailed _ => exact h
    | @accepted linkId _ peerAddr _ _ hi hdial =>
      have hlink : Stream.HasLink ⟨linkId, .accepted peerAddr⟩ ctx.config :=
        h.listeners _ (List.mem_of_getElem? hi)
      exact h.dial hlink hdial
  | @opening i result _ _ hc =>
    have erased : ∀ o ∈ s.openings.eraseIdx i, HasLink ctx.config o.linkId .reverse :=
      fun o ho => h.openings o (List.mem_of_mem_eraseIdx ho)
    cases hc with
    | failed _ => exact ⟨h.listeners, erased, h.tunnels, h.stats⟩
    | @opened opening _ _ _ hi hs₁ hdial =>
      subst hs₁
      have h₁ : LinksInv ctx { s with openings := s.openings.eraseIdx i } :=
        ⟨h.listeners, erased, h.tunnels, h.stats⟩
      have hlink : Stream.HasLink ⟨opening.linkId, .signalled opening.streamId opening.target⟩
          ctx.config := h.openings _ (List.mem_of_getElem? hi)
      exact h₁.dial hlink hdial
  | tunnel hc => exact h.tunnel hc
  | control hc =>
    cases hc with
    | quiet _ => exact ⟨h.listeners, h.openings, h.tunnels, h.stats⟩
    | opening hreverse hopening =>
      subst hopening
      refine ⟨h.listeners, fun o ho => ?_, h.tunnels, h.stats⟩
      rcases List.mem_append.mp ho with ho | ho
      · exact h.openings o ho
      · rw [List.mem_singleton.mp ho]
        obtain ⟨link, hlink, hprops⟩ := List.any_eq_true.mp hreverse
        exact ⟨link, hlink, by simpa using hprops⟩

end LinksInv

variable {C : State → Action → Prop} {as : List Action} {tr : List Event}

theorem linksInv_run (h : ClientRun ctx C as s tr) : LinksInv ctx s := by
  obtain ⟨clock, s₀, hstart, hrun⟩ := h
  exact hrun.invariant (I := fun s _ => LinksInv ctx s) (linksInv_start hstart)
    fun _ _ _ _ _ hi _ hst => hi.step hst

/-- A step sends hellos only for tunnels that it finds. -/
theorem hello_of_step {a : Action} (hst : step ctx s a = some (s', es)) {stream : Stream}
    (hmem : .hello stream ∈ es) : ∃ t ∈ s.tunnels, t.stream = stream := by
  have dial : ∀ {s s' : State} {es : List Event} {st : Stream}, DialCase ctx s st s' es →
      .hello stream ∉ es := by
    intro s s' es st hc
    cases hc <;> simp
  cases step_cases hst with
  | tick _ => simp at hmem
  | listener hc =>
    cases hc with
    | bound _ | acceptFailed _ => simp at hmem
    | accepted _ hdial => exact absurd hmem (dial hdial)
  | opening hc =>
    cases hc with
    | failed _ => simp at hmem
    | opened _ _ hdial => exact absurd hmem (dial hdial)
  | tunnel hc =>
    cases hc with
    | hello hi =>
      obtain rfl : stream = _ := by simpa using hmem
      exact ⟨_, List.mem_of_getElem? hi, rfl⟩
    | failed _ _ | connected _ _ | started _ _ | panicked _ _ | ended _ => simp at hmem
  | control hc =>
    cases hc with
    | quiet hquiet => exact absurd rfl ((hquiet _ hmem).2 stream)
    | opening _ _ => simp at hmem

theorem hello_of_run (h : ClientRun ctx C as s tr) :
    ∀ stream, .hello stream ∈ tr → stream.HasLink ctx.config := by
  obtain ⟨clock, s₀, hstart, hrun⟩ := h
  induction hrun with
  | nil => simp
  | snoc hr _ hst ih =>
    intro stream hmem
    rcases List.mem_append.mp hmem with hmem | hmem
    · exact ih stream hmem
    · obtain ⟨t, ht, rfl⟩ := hello_of_step hst hmem
      exact (linksInv_run ⟨clock, s₀, hstart, hr⟩).tunnels t ht

end Ghostport.Client
