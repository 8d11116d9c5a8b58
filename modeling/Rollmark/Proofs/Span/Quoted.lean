/-
References by name: a name that can stand without quotes means the same in quotes and without them,
whatever number and text stand behind it.

Both forms are taken apart at the same places. Without quotes a name ends at the first character that is
not of its class; what stands behind it begins with a blank or a sign, if there is anything, and neither is
of that class. Behind the name both forms go on with the same characters.
-/
import Rollmark.Proofs.Span.Lookup
import Rollmark.Proofs.Span.Recovery

namespace Rollmark.Span

/-! ## Names with and without quotes -/

/-- A name that can be written without quotes. -/
structure IsPlainName (name : String) : Prop extends IsReferable name where
  noSpace : ' ' ∉ name.toList
  noPlus : '+' ∉ name.toList
  noMinus : '-' ∉ name.toList

/-- Two parses that are the same but for the texts that were parsed: both find nothing, or both find the
same kind of action and show it in the same way around the attached action. -/
inductive Alike : Parsed → Parsed → Prop
  | neither {p q : Parsed} (hp : p.action = none) (hq : q.action = none) : Alike p q
  | both {p q : Parsed} {a b : Action} {before after : List Char} (hp : p.action = some a)
      (hq : q.action = some b) (hkind : a.kind = b.kind) (hblind : a.blind = b.blind)
      (hptext : p.text.toList = before ++ attached a.encode.toList after)
      (hqtext : q.text.toList = before ++ attached b.encode.toList after) : Alike p q

section Names

variable {name number d tail : String}

theorem IsPlainName.isPlainNameChar (h : IsPlainName name) : ∀ c ∈ name.toList, isPlainNameChar c = true := by
  intro c hc
  have hsign : Text.isSign c = false := by
    rw [← Bool.not_eq_true, Text.isSign_iff]
    rintro (rfl | rfl)
    · exact h.noPlus hc
    · exact h.noMinus hc
  have hspace : c ≠ ' ' := fun hcs => h.noSpace (hcs ▸ hc)
  have hquote : c ≠ '"' := fun hcq => h.noQuote (hcq ▸ hc)
  simp [Span.isPlainNameChar, hsign, hspace, hquote]

/-- Behind a name there is a sign, a blank or nothing. -/
theorem head?_numberTail (hnumber : number = "" ∨ IsSignedNumber number) (htail : Behind d tail) :
    ∀ c ∈ (number ++ tail).toList.head?, isPlainNameChar c = false := by
  rcases hnumber with rfl | ⟨sign, digits, hchars, hsign, -, -⟩
  · rw [String.empty_append]
    exact htail.head_of_blank (by decide)
  · rw [String.toList_append, hchars]
    rintro c ⟨⟩
    rcases Text.isSign_iff.1 hsign with rfl | rfl <;> decide

/-- A name without quotes, with what stands behind it. -/
theorem name?_plain {name rest : List Char} (hne : name ≠ []) (hname : ∀ c ∈ name, isPlainNameChar c = true)
    (hrest : ∀ c ∈ rest.head?, isPlainNameChar c = false) : name? (name ++ rest) = some (name, rest) := by
  obtain ⟨c, cs, rfl⟩ := List.exists_cons_of_ne_nil hne
  simp only [name?, Text.takeWhile_run hname hrest, Text.dropWhile_run hname hrest]

/-- What is read behind a letter is the same with quotes and without them. -/
theorem namedReference?_plain (hname : IsPlainName name) (hnumber : number = "" ∨ IsSignedNumber number)
    (htail : Behind d tail) : namedReference? (name ++ (number ++ tail)).toList =
      namedReference? ("\"" ++ (name ++ ("\"" ++ (number ++ tail)))).toList := by
  obtain ⟨c, hc, -⟩ := hname.notBlank
  have hne := List.ne_nil_of_mem hc
  have hplain := name?_plain hne hname.isPlainNameChar (head?_numberTail hnumber htail)
  have hquoted := name?_quoted hne hname.noQuote (number ++ tail).toList
  have hchars : ("\"" ++ (name ++ ("\"" ++ (number ++ tail)))).toList =
      '"' :: (name.toList ++ '"' :: (number ++ tail).toList) := by
    rw [String.toList_append, String.toList_append, String.toList_append]
    rfl
  rw [hchars, String.toList_append]
  simp only [namedReference?, hplain, hquoted]

/-- A number that is not read leaves nothing of a reference. -/
theorem namedReference?_eq_none_iff (hname : IsPlainName name)
    (hnumber : number = "" ∨ IsSignedNumber number) (htail : Behind d tail) :
    namedReference? (name ++ (number ++ tail)).toList = none ↔
      number ≠ "" ∧ Amount.read? number.toList = none := by
  obtain ⟨c, hc, hblank⟩ := hname.notBlank
  have hempty := List.isEmpty_eq_false_iff.2 (Text.trim_ne_nil hc hblank)
  have hplain := name?_plain (List.ne_nil_of_mem hc) hname.isPlainNameChar (head?_numberTail hnumber htail)
  rw [String.toList_append]
  simp only [namedReference?, hplain, Option.bind_eq_bind, Option.bind_some, hempty, Bool.false_eq_true,
    if_false]
  rcases hnumber with rfl | hnumber
  · have hrun : Text.signedRun? tail.toList = none := Text.signedRun?_eq_none (htail.head_of_blank rfl)
    simp [hrun]
  · obtain ⟨sign, digits, hchars, hsign, hne, hdigits⟩ := hnumber
    have hrun : Text.signedRun? (number ++ tail).toList = some (number.toList, tail.toList) :=
      Text.signedRun?_eq_some.2 ⟨sign, digits, hsign, hchars, by rw [String.toList_append, hchars]; rfl, hne,
        hdigits, htail.head_of_blank not_decimalDigit_blank⟩
    have hnonempty : number ≠ "" := by
      rintro rfl
      cases hchars
    rw [hrun]
    cases hread : Amount.read? number.toList <;> simp [hnonempty, hread]

end Names

/-- A name without blanks, quotes and signs in it is read in the same way with quotes around it and without
them: what stands behind it is a number or none, and then a blank and any text or nothing. Either both
forms are parsed to nothing, when there is a number that is not in the digits `0` to `9` or beyond the
limits, or both to the same kind of action, and then only the attached actions differ in what is shown. -/
theorem parse_plainName {name number d tail : String} (hname : IsPlainName name)
    (hnumber : number = "" ∨ IsSignedNumber number) (htail : Behind d tail) (letter : Letter)
    (defaultDesc : String) (colored : Bool) :
    let plain := parse (letter.text ++ (name ++ (number ++ tail))) defaultDesc colored
    let quoted := parse (letter.text ++ ("\"" ++ (name ++ ("\"" ++ (number ++ tail))))) defaultDesc colored
    Alike plain quoted ∧ (plain.action = none ↔ number ≠ "" ∧ Amount.read? number.toList = none) := by
  intro plain quoted
  have hsame := namedReference?_plain hname hnumber htail
  have hplain : plain = _ := letter.parse_eq _ defaultDesc colored
  have hquoted : quoted = _ := letter.parse_eq _ defaultDesc colored
  rw [← hsame] at hquoted
  rw [← namedReference?_eq_none_iff hname hnumber htail, hplain, hquoted]
  cases namedReference? (name ++ (number ++ tail)).toList with
  | none => exact ⟨.neither rfl rfl, iff_of_true rfl rfl⟩
  | some r =>
    have hlink := fun a => toList_render_link a r.spanText letter.label r.comment colored
    exact ⟨.both rfl rfl rfl rfl (hlink _) (hlink _), by simp⟩

/-- A name with a star and with blanks that are no spaces, and behind its number a text that looks like a
number and a quote. -/
theorem parse_plainName_star :
    let plain := parse "A:\tBow*\n+02 -3\"" "" true
    let quoted := parse "A:\"\tBow*\n\"+02 -3\"" "" true
    IsPlainName "\tBow*\n" ∧ IsSignedNumber "+02" ∧ Behind "-3\"" " -3\"" ∧ Alike plain quoted ∧
      (quoted.action.map (·.kind)) = some (.attack "Bow*" (some 2) "-3\"") := by
  intro plain quoted
  have hname : IsPlainName "\tBow*\n" :=
    ⟨⟨⟨'B', by decide, by decide⟩, by decide⟩, by decide, by decide, by decide⟩
  have hnumber : IsSignedNumber "+02" := ⟨'+', ['0', '2'], rfl, rfl, by decide, List.all_eq_true.1 rfl⟩
  have htail : Behind "-3\"" " -3\"" := .blank "-3\""
  have hkind : quoted.action.map (·.kind) = some (.attack "Bow*" (some 2) "-3\"") := by decide +kernel
  exact ⟨hname, hnumber, htail, (parse_plainName hname (.inr hnumber) htail .attack "" true).1, hkind⟩

end Rollmark.Span
