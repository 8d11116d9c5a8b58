/-
Name patterns, said without marks: a pattern stands in front of a text when its pieces stand there
one after another with text within a line between them, and it fits a name when it stands at some
place of it. A pattern that is made from a text fits every name that holds this text, because each
star of the text can stand for itself.

The matcher works backwards, from the last piece to the first one and from the end of the text to its
beginning. What it keeps is a mark for every place of the text, and each of its steps turns the marks
for one property of places into the marks for another one.
-/
import Rollmark.Proofs.Text.Scan
import Rollmark.Sheet.Lookup

namespace Rollmark.NamePattern

/-- The pieces of a pattern stand in front of a text, with gaps between them that stay within a
line. -/
def Stands : NamePattern → List Char → Prop
  | [], _ => True
  | [piece], cs => ∃ rest, cs = piece ++ rest
  | piece :: next :: more, cs =>
    ∃ gap rest, cs = piece ++ (gap ++ rest) ∧ '\n' ∉ gap ∧ Stands (next :: more) rest

/-! ## Marks -/

/-- The marks of the places of a text, from its beginning to its end: a place is marked when what
stands behind it has the property. -/
inductive Marks (p : List Char → Prop) : List Char → List Bool → Prop
  | nil {mark : Bool} (hmark : mark = true ↔ p []) : Marks p [] [mark]
  | cons {c : Char} {cs : List Char} {mark : Bool} {marks : List Bool}
      (hmark : mark = true ↔ p (c :: cs)) (hmarks : Marks p cs marks) :
      Marks p (c :: cs) (mark :: marks)

namespace Marks

variable {p q : List Char → Prop} {cs : List Char} {marks : List Bool}

theorem headD_eq (h : Marks p cs marks) : marks.headD false = true ↔ p cs := by
  cases h <;> assumption

/-- The marks of the places behind a lead. -/
theorem drop {lead : List Char} (h : Marks p (lead ++ cs) marks) : Marks p cs (marks.drop lead.length) := by
  induction lead generalizing marks with
  | nil => exact h
  | cons c lead ih =>
    cases h with
    | cons _ hmarks => exact ih hmarks

theorem congr (h : Marks p cs marks) (hpq : ∀ cs, p cs ↔ q cs) : Marks q cs marks := by
  induction h with
  | nil hmark => exact .nil (hmark.trans (hpq _))
  | cons hmark _ ih => exact .cons (hmark.trans (hpq _)) ih

/-- Every place can be marked. -/
theorem replicate (cs : List Char) : Marks (fun _ => True) cs (List.replicate (cs.length + 1) true) := by
  induction cs with
  | nil => exact .nil (iff_of_true rfl trivial)
  | cons c cs ih => exact .cons (iff_of_true rfl trivial) ih

/-- Some place is marked exactly when what stands behind one of them has the property. -/
theorem any_eq (h : Marks p cs marks) :
    marks.any id = true ↔ ∃ before rest, cs = before ++ rest ∧ p rest := by
  induction h with
  | @nil mark hmark =>
    rw [List.any_cons, List.any_nil, Bool.or_false]
    constructor
    · exact fun hm => ⟨[], [], rfl, hmark.1 hm⟩
    · rintro ⟨before, rest, heq, hrest⟩
      obtain ⟨-, rfl⟩ := List.append_eq_nil_iff.1 heq.symm
      exact hmark.2 hrest
  | @cons c cs mark marks hmark _ ih =>
    rw [List.any_cons, Bool.or_eq_true, ih]
    constructor
    · rintro (hm | ⟨before, rest, rfl, hrest⟩)
      · exact ⟨[], c :: cs, rfl, hmark.1 hm⟩
      · exact ⟨c :: before, rest, rfl, hrest⟩
    · rintro ⟨before, rest, heq, hrest⟩
      cases before with
      | nil => exact .inl (hmark.2 (heq ▸ hrest))
      | cons d before => exact .inr ⟨before, rest, (List.cons.inj heq).2, hrest⟩

/-! ### The steps of the matcher -/

/-- From the marks of a property: the places from which such a place can be reached within the line. -/
theorem reachMark (h : Marks p cs marks) :
    Marks (fun cs => ∃ gap rest, cs = gap ++ rest ∧ '\n' ∉ gap ∧ p rest) cs
      (NamePattern.reachMark cs marks) := by
  induction h with
  | nil hmark =>
    refine .nil (hmark.trans ⟨fun h => ⟨[], [], rfl, List.not_mem_nil, h⟩, ?_⟩)
    rintro ⟨gap, rest, heq, -, hrest⟩
    obtain ⟨-, rfl⟩ := List.append_eq_nil_iff.1 heq.symm
    exact hrest
  | @cons c cs mark marks hmark hmarks ih =>
    refine .cons ?_ ih
    rw [Bool.or_eq_true, Bool.and_eq_true, ih.headD_eq, bne_iff_ne, hmark]
    constructor
    · rintro (hhere | ⟨hc, gap, rest, rfl, hgap, hrest⟩)
      · exact ⟨[], c :: cs, rfl, List.not_mem_nil, hhere⟩
      · exact ⟨c :: gap, rest, rfl, by rw [List.mem_cons, not_or]; exact ⟨hc.symm, hgap⟩, hrest⟩
    · rintro ⟨gap, rest, heq, hgap, hrest⟩
      cases gap with
      | nil => exact .inl (heq ▸ hrest)
      | cons d gap =>
        obtain ⟨rfl, rfl⟩ := List.cons.inj heq
        rw [List.mem_cons, not_or] at hgap
        exact .inr ⟨Ne.symm hgap.1, gap, rest, rfl, hgap.2, hrest⟩

/-- From the marks of a property: the places where a piece stands that ends at such a place. -/
theorem standAt (piece : List Char) (h : Marks p cs marks) :
    Marks (fun cs => ∃ rest, cs = piece ++ rest ∧ p rest) cs (NamePattern.standAt piece cs marks) := by
  induction h with
  | nil hmark =>
    refine .nil ?_
    rw [Bool.and_eq_true, List.isEmpty_iff, List.headD_cons, hmark]
    constructor
    · rintro ⟨rfl, hrest⟩
      exact ⟨[], rfl, hrest⟩
    · rintro ⟨rest, heq, hrest⟩
      obtain ⟨rfl, rfl⟩ := List.append_eq_nil_iff.1 heq.symm
      exact ⟨rfl, hrest⟩
  | @cons c cs mark marks hmark hmarks ih =>
    refine .cons ?_ ih
    have hall : Marks p (c :: cs) (mark :: marks) := .cons hmark hmarks
    rw [Bool.and_eq_true, Option.isSome_iff_exists]
    constructor
    · rintro ⟨⟨rest, hlead⟩, hend⟩
      rw [Text.dropLead?_eq_some.1 hlead] at hall ⊢
      exact ⟨rest, rfl, hall.drop.headD_eq.1 hend⟩
    · rintro ⟨rest, heq, hrest⟩
      rw [heq] at hall ⊢
      exact ⟨⟨rest, Text.dropLead?_append piece rest⟩, hall.drop.headD_eq.2 hrest⟩

end Marks

/-! ## Matching -/

/-- The matcher marks the places where the pattern stands. -/
theorem marks_fits (pattern : NamePattern) (text : List Char) :
    Marks (Stands pattern) text (fits text pattern) := by
  induction pattern with
  | nil => exact Marks.replicate text
  | cons piece more ih =>
    cases more with
    | nil =>
      refine ((Marks.replicate text).standAt piece).congr fun cs => ?_
      simp only [Stands, and_true]
    | cons next more =>
      refine (ih.reachMark.standAt piece).congr fun cs => ?_
      constructor
      · rintro ⟨behind, rfl, gap, rest, rfl, hgap, hrest⟩
        exact ⟨gap, rest, rfl, hgap, hrest⟩
      · rintro ⟨gap, rest, rfl, hgap, hrest⟩
        exact ⟨gap ++ rest, rfl, gap, rest, rfl, hgap, hrest⟩

/-- A pattern fits a name exactly when it stands at some place of it. -/
theorem isMatch_iff {pattern : NamePattern} {name : String} : pattern.isMatch name = true ↔
    ∃ before rest, name.toList = before ++ rest ∧ Stands pattern rest :=
  (marks_fits pattern name.toList).any_eq

/-! ## Patterns that are made from a text -/

/-- The pieces of a text stand in front of it: between two of them there is just the star. -/
theorem stands_split (cs rest : List Char) : Stands (Text.split '*' cs) (cs ++ rest) := by
  induction cs with
  | nil => exact ⟨rest, rfl⟩
  | cons c cs ih =>
    obtain ⟨piece, more, hsplit⟩ := List.exists_cons_of_ne_nil (Text.split_ne_nil '*' cs)
    by_cases hstar : c = '*'
    · subst hstar
      rw [Text.split_cons_self, hsplit]
      rw [hsplit] at ih
      exact ⟨['*'], cs ++ rest, rfl, by decide, ih⟩
    · rw [Text.split_cons_of_ne hstar hsplit]
      rw [hsplit] at ih
      -- the character belongs to the first piece, whatever follows that
      cases more with
      | nil =>
        obtain ⟨behind, hbehind⟩ := ih
        exact ⟨behind, congrArg (c :: ·) hbehind⟩
      | cons next more =>
        obtain ⟨gap, behind, hbehind, hgap, hmore⟩ := ih
        exact ⟨gap, behind, congrArg (c :: ·) hbehind, hgap, hmore⟩

/-- A pattern that is made from a part of a name fits that name. -/
theorem isMatch_ofText {part name : String} (h : part.toList <:+: name.toList) :
    (ofText part).isMatch name = true := by
  obtain ⟨before, after, hname⟩ := h
  refine isMatch_iff.2 ⟨before, part.toList ++ after, ?_, stands_split part.toList after⟩
  rw [← hname, List.append_assoc]

end Rollmark.NamePattern
