/-
Wildcards, said from the text of a pattern alone: a filling takes this text apart at its stars and gives
every star a text within a line, and the pattern fits a name when the filled pattern is a part of that
name. The matcher decides exactly this, and a sheet answers with the first entry that a pattern fits,
skills before spells and melee attacks before ranged ones.

The pieces of a filling are the parts of the pattern text, so that a filling for a name is the same as a
place of the name where the pieces stand in their order.
-/
import Rollmark.Proofs.Sheet.Pattern

namespace Rollmark

namespace NamePattern

/-! ## Fillings -/

/-- A star with the text that it stands for, and the piece behind it. -/
structure FilledStar where
  gap : List Char
  oneLine : '\n' ∉ gap
  piece : List Char
  plain : '*' ∉ piece

/-- A pattern whose stars are filled. -/
structure Filling where
  first : List Char
  plain : '*' ∉ first
  stars : List FilledStar

namespace Filling

variable (f : Filling)

/-- The pieces with stars between them. -/
def pattern : List Char := f.first ++ f.stars.flatMap fun s => '*' :: s.piece

/-- The pieces with the texts of the stars between them. -/
def text : List Char := f.first ++ f.stars.flatMap fun s => s.gap ++ s.piece

def pieces : NamePattern := f.first :: f.stars.map FilledStar.piece

/-- The pieces are the parts of the pattern text. -/
theorem split_pattern : Text.split '*' f.pattern = f.pieces := by
  obtain ⟨first, hplain, stars⟩ := f
  induction stars generalizing first with
  | nil =>
    show Text.split '*' (first ++ []) = [first]
    rw [List.append_nil, Text.split_of_notMem hplain]
  | cons s stars ih =>
    have hrest := ih s.piece s.plain
    show Text.split '*' (first ++ '*' :: (s.piece ++ stars.flatMap fun s => '*' :: s.piece)) = _
    rw [Text.split_append hplain]
    exact congrArg (first :: ·) hrest

theorem stands_text (rest : List Char) : Stands f.pieces (f.text ++ rest) := by
  obtain ⟨first, hplain, stars⟩ := f
  induction stars generalizing first with
  | nil => exact ⟨rest, by simp [text]⟩
  | cons s stars ih =>
    refine ⟨s.gap, _, ?_, s.oneLine, ih s.piece s.plain⟩
    simp [text]

end Filling

/-- Pieces without stars that stand in front of a text are the pieces of a filling. -/
theorem exists_filling {first : List Char} {more : NamePattern} {cs : List Char}
    (h : Stands (first :: more) cs) (hplain : ∀ piece ∈ first :: more, '*' ∉ piece) :
    ∃ f : Filling, f.pieces = first :: more ∧ f.text <+: cs := by
  -- the gap in front of the next piece is taken from the place where that piece stands
  induction more generalizing first cs with
  | nil =>
    obtain ⟨rest, rfl⟩ := h
    refine ⟨⟨first, hplain first List.mem_cons_self, []⟩, rfl, rest, ?_⟩
    simp [Filling.text]
  | cons next more ih =>
    rw [List.forall_mem_cons] at hplain
    obtain ⟨gap, behind, rfl, hgap, hmore⟩ := h
    obtain ⟨⟨piece, hpiece, stars⟩, hpieces, rest, rfl⟩ := ih hmore hplain.2
    obtain ⟨rfl, rfl⟩ := List.cons.inj hpieces
    refine ⟨⟨first, hplain.1, ⟨gap, hgap, piece, hpiece⟩ :: stars⟩, rfl, rest, ?_⟩
    simp [Filling.text]

/-- A pattern fits a name: with a text within a line for every star it is a part of the name. -/
def Fits (pattern name : String) : Prop :=
  ∃ f : Filling, f.pattern = pattern.toList ∧ f.text <:+: name.toList

/-- The matcher finds a filling whenever there is one, and nothing else. -/
theorem isMatch_ofText_iff {pattern name : String} :
    (ofText pattern).isMatch name = true ↔ Fits pattern name := by
  obtain ⟨first, more, hsplit⟩ := List.exists_cons_of_ne_nil (Text.split_ne_nil '*' pattern.toList)
  have hpattern : ofText pattern = first :: more := hsplit
  rw [isMatch_iff, hpattern]
  constructor
  · rintro ⟨before, rest, hname, hstands⟩
    -- the pieces of the filling are the parts of the pattern, which make up its text again
    have hplain : ∀ piece ∈ first :: more, '*' ∉ piece := fun piece hpiece =>
      Text.notMem_of_mem_split (hsplit ▸ hpiece)
    obtain ⟨f, hpieces, after, rfl⟩ := exists_filling hstands hplain
    obtain ⟨rfl, rfl⟩ := List.cons.inj hpieces
    refine ⟨f, ?_, before, after, by rw [hname, List.append_assoc]⟩
    rw [← Text.flatMap_of_split hsplit, List.flatMap_map]
    rfl
  · rintro ⟨f, hf, before, after, hname⟩
    -- a pattern text has only one way to be taken apart, so the matcher works on these pieces
    rw [← hf, f.split_pattern] at hsplit
    refine ⟨before, f.text ++ after, by rw [← hname, List.append_assoc], ?_⟩
    rw [← hsplit]
    exact f.stands_text after

/-- A star does not reach into the next line, but a piece can. -/
example : (ofText "a*b").isMatch "a\nb" = false ∧ (ofText "a\nb*").isMatch "(a\nb)" = true := by decide

end NamePattern

/-! ## Lookups -/

namespace Sheet

/-- The names of the skills and then of the spells, each with the answer for it. -/
def skillEntries (s : Sheet) : List (String × SkillMatch) :=
  (s.skills ++ s.spells).map fun skill => (skill.name, ⟨skill.name, some skill.level⟩)

/-- The display names of the melee attacks and then of the ranged ones, each with the answer for it. -/
def attackEntries (s : Sheet) : List (String × AttackMatch) :=
  (s.melee.map fun a =>
      (displayName a.name a.mode, ⟨a.name, leadingNumber? a.level, nonEmpty? a.mode, none, none⟩))
    ++ s.ranged.map fun a =>
      (displayName a.name a.mode,
        ⟨a.name, leadingNumber? a.level, nonEmpty? a.mode, leadingNumber? a.rof, leadingNumber? a.rcl⟩)

/-- The answer of a lookup: the one for the first name that the pattern fits, or none when it fits no
name. -/
def IsFirstFit {α : Type} (pattern : String) (entries : List (String × α)) : Option α → Prop
  | some answer => ∃ before name after, entries = before ++ (name, answer) :: after ∧
      NamePattern.Fits pattern name ∧ ∀ entry ∈ before, ¬ NamePattern.Fits pattern entry.1
  | none => ∀ entry ∈ entries, ¬ NamePattern.Fits pattern entry.1

theorem isFirstFit_find? {α : Type} (pattern : String) (entries : List (String × α)) :
    IsFirstFit pattern entries
      ((entries.find? fun entry => (NamePattern.ofText pattern).isMatch entry.1).map Prod.snd) := by
  cases hfound : entries.find? fun entry => (NamePattern.ofText pattern).isMatch entry.1 with
  | none =>
    intro entry hentry hfits
    exact List.find?_eq_none.1 hfound entry hentry (NamePattern.isMatch_ofText_iff.2 hfits)
  | some found =>
    obtain ⟨hfits, before, after, hentries, hbefore⟩ := List.find?_eq_some_iff_append.1 hfound
    refine ⟨before, found.1, after, hentries, NamePattern.isMatch_ofText_iff.1 hfits, ?_⟩
    intro entry hentry hfits
    have hmatch := NamePattern.isMatch_ofText_iff.2 hfits
    simpa [hmatch] using hbefore entry hentry

variable (s : Sheet) (pattern : String)

theorem findSkill?_eq : s.findSkill? pattern =
    (s.skillEntries.find? fun entry => (NamePattern.ofText pattern).isMatch entry.1).map Prod.snd := by
  rw [skillEntries, List.find?_map, Option.map_map, List.find?_append]
  rfl

theorem findAttack?_eq : s.findAttack? pattern =
    (s.attackEntries.find? fun entry => (NamePattern.ofText pattern).isMatch entry.1).map Prod.snd := by
  rw [attackEntries, List.find?_append, List.find?_map, List.find?_map, findAttack?]
  dsimp only [Function.comp_def]
  cases s.melee.find? fun a => (NamePattern.ofText pattern).isMatch (displayName a.name a.mode) with
  | some a => rfl
  | none => simp [Option.map_map, Function.comp_def]

/-- A pattern matches a name exactly when it fits it, and a sheet answers with its first skill or spell, and
with its first melee or ranged attack, that the pattern fits. -/
theorem lookup_firstFit :
    (∀ name, (NamePattern.ofText pattern).isMatch name = true ↔ NamePattern.Fits pattern name) ∧
      IsFirstFit pattern s.skillEntries (s.findSkill? pattern) ∧
      IsFirstFit pattern s.attackEntries (s.findAttack? pattern) := by
  refine ⟨fun name => NamePattern.isMatch_ofText_iff, ?_, ?_⟩
  · rw [findSkill?_eq]
    exact isFirstFit_find? pattern s.skillEntries
  · rw [findAttack?_eq]
    exact isFirstFit_find? pattern s.attackEntries

end Sheet

end Rollmark
