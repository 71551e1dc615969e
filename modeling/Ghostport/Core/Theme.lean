import Mathlib.Data.List.Basic

/-!
# Colours of the daemon's log lines (`crates/ghostport-core/src/theme.rs`)

Each colour of the `cybercore` palette is a text of ANSI SGR sequences, empty
where colours are off.
-/

namespace Ghostport.Core

/-- One SGR sequence: `ESC [ params m`. -/
def sgr (params : List Char) : List Char := '\x1b' :: '[' :: (params ++ ['m'])

def isSgrParam (c : Char) : Bool := ('0' ≤ c && c ≤ '9') || c = ';'

/-- A text made of SGR sequences only. -/
def IsSgr (t : List Char) : Prop :=
  ∃ seqs : List (List Char), (∀ params ∈ seqs, ∀ c ∈ params, isSgrParam c) ∧
    t = (seqs.map sgr).flatten

/-- The colours of `cybercore::palette` that the daemon uses. -/
structure Palette where
  acidGreen : List Char
  orange : List Char
  red : List Char
  cyan : List Char
  reset : List Char
  acidGreen_sgr : IsSgr acidGreen
  orange_sgr : IsSgr orange
  red_sgr : IsSgr red
  cyan_sgr : IsSgr cyan
  reset_sgr : IsSgr reset

namespace Palette

variable (p : Palette)

/-- `theme::ok`. -/
def ok (s : List Char) : List Char := p.acidGreen ++ s ++ p.reset

/-- `theme::warn`. -/
def warn (s : List Char) : List Char := p.orange ++ s ++ p.reset

/-- `theme::err`. -/
def err (s : List Char) : List Char := p.red ++ s ++ p.reset

/-- `theme::accent`. -/
def accent (s : List Char) : List Char := p.cyan ++ s ++ p.reset

end Palette

theorem isSgr_nil : IsSgr [] := ⟨[], by simp, rfl⟩

/-- The palette where colours are off. -/
def Palette.plain : Palette :=
  ⟨[], [], [], [], [], isSgr_nil, isSgr_nil, isSgr_nil, isSgr_nil, isSgr_nil⟩

end Ghostport.Core
