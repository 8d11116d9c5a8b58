/-
Looking up what a span names: the name of an entry of a sheet, written between quotes, finds an entry
of that sheet. The quotes keep the name as it is but for the blanks at its ends, so what is looked up
is a part of the name that was written, and a pattern made from a part of a name fits that name,
whatever stars, brackets or line feeds the name holds. The entry that is found need not be the one that
was meant: an earlier one whose name holds the same part comes first.
-/
import Rollmark.Proofs.Intent
import Rollmark.Proofs.Sheet.Wildcard
import Rollmark.Proofs.Span.Written

namespace Rollmark

/-- A name that can be written between quotes: it holds none, and more than blanks. -/
structure IsReferable (name : String) : Prop where
  notBlank : ∃ c ∈ name.toList, Text.isBlank c = false
  noQuote : '"' ∉ name.toList

/-! ## What is read -/

namespace Span

variable {name : String}

/-- Between quotes a name is read without the blanks at its ends, and nothing else is read. -/
theorem namedReference?_bare (h : IsReferable name) :
    namedReference? ('"' :: (name.toList ++ ['"'])) =
      some ⟨Text.trim name.toList, none, [], Text.trim name.toList, []⟩ := by
  obtain ⟨c, hc, hblank⟩ := h.notBlank
  have htrim := List.isEmpty_eq_false_iff.2 (Text.trim_ne_nil hc hblank)
  have hquoted := name?_quoted (List.ne_nil_of_mem hc) h.noQuote
  simp only [namedReference?, Option.bind_eq_bind, hquoted, Option.bind_some, htrim]
  rfl

/-- A reference by a name between quotes, with nothing behind it. -/
theorem parse_quoted (letter : Letter) {opening : String}
    (hopening : opening.toList = letter.text.toList ++ ['"']) (h : IsReferable name) (defaultDesc : String)
    (colored : Bool) : (parse (opening ++ (name ++ "\"")) defaultDesc colored).action =
      some ⟨opening ++ (name ++ "\""), false, letter.kind (Text.trimmed name) none ""⟩ := by
  have htext : opening ++ (name ++ "\"") = letter.text ++ ("\"" ++ (name ++ "\"")) := by
    rw [← String.toList_inj]
    simp only [String.toList_append, hopening, List.append_assoc]
    rfl
  have hread : namedReference? ("\"" ++ (name ++ "\"")).toList =
      some ⟨Text.trim name.toList, none, [], Text.trim name.toList, []⟩ := by
    rw [String.toList_append, String.toList_append]
    exact namedReference?_bare h
  rw [htext, letter.parse_eq, hread]
  rfl

theorem parse_quotedSkill (h : IsReferable name) (defaultDesc : String) (colored : Bool) :
    (parse ("S:\"" ++ (name ++ "\"")) defaultDesc colored).action =
      some ⟨"S:\"" ++ (name ++ "\""), false, .skill (Text.trimmed name) none ""⟩ :=
  parse_quoted .skill rfl h defaultDesc colored

theorem parse_quotedAttack (h : IsReferable name) (defaultDesc : String) (colored : Bool) :
    (parse ("A:\"" ++ (name ++ "\"")) defaultDesc colored).action =
      some ⟨"A:\"" ++ (name ++ "\""), false, .attack (Text.trimmed name) none ""⟩ :=
  parse_quoted .attack rfl h defaultDesc colored

end Span

/-! ## What is found -/

namespace Sheet

/-- The names that the attacks of a sheet are looked up by. -/
def attackNames (s : Sheet) : List String :=
  (s.melee.map fun a => displayName a.name a.mode) ++ s.ranged.map fun a => displayName a.name a.mode

variable {s : Sheet}

/-- A part of the name of a skill or a spell finds one. -/
theorem findSkill?_of_infix {entry : Skill} (hentry : entry ∈ s.skills ++ s.spells) {part : String}
    (hpart : part.toList <:+: entry.name.toList) :
    ∃ found ∈ s.skills ++ s.spells, s.findSkill? part = some ⟨found.name, some found.level⟩ := by
  have hmem : (entry.name, ⟨entry.name, some entry.level⟩) ∈ s.skillEntries :=
    List.mem_map.2 ⟨entry, hentry, rfl⟩
  have hsome : (s.skillEntries.find? fun e => (NamePattern.ofText part).isMatch e.1).isSome :=
    List.find?_isSome.2 ⟨_, hmem, NamePattern.isMatch_ofText hpart⟩
  obtain ⟨answer, hanswer⟩ := Option.isSome_iff_exists.1 hsome
  obtain ⟨found, hfound, rfl⟩ := List.mem_map.1 (List.mem_of_find?_eq_some hanswer)
  refine ⟨found, hfound, ?_⟩
  rw [findSkill?_eq, hanswer]
  rfl

/-- A part of the name that an attack is looked up by finds one. -/
theorem findAttack?_of_infix {name : String} (hname : name ∈ s.attackNames) {part : String}
    (hpart : part.toList <:+: name.toList) : ∃ found, s.findAttack? part = some found := by
  have hnames : s.attackNames = s.attackEntries.map Prod.fst := by
    simp [attackNames, attackEntries, Function.comp_def]
  rw [hnames] at hname
  obtain ⟨entry, hentry, rfl⟩ := List.mem_map.1 hname
  rw [findAttack?_eq, ← Option.isSome_iff_exists, Option.isSome_map, List.find?_isSome]
  exact ⟨entry, hentry, NamePattern.isMatch_ofText hpart⟩

end Sheet

/-! ## What it comes down to -/

/-- The name of a skill, a spell or an attack of a sheet, written between quotes, always comes down to a
check against an entry of that sheet, and never to the error that there is none. -/
theorem dispatch_quoted (sheet : Sheet) (settings : Settings) (bucket : Bucket) (defaultDesc : String)
    (colored : Bool) :
    (∀ entry ∈ sheet.skills ++ sheet.spells, IsReferable entry.name →
      ∃ a, (Span.parse ("S:\"" ++ (entry.name ++ "\"")) defaultDesc colored).action = some a ∧
        ∃ found ∈ sheet.skills ++ sheet.spells, dispatch settings (some sheet) a bucket =
          (.ok (.check (some found.level) fun t => .check t found.name), bucket)) ∧
    (∀ name ∈ sheet.attackNames, IsReferable name →
      ∃ a, (Span.parse ("A:\"" ++ (name ++ "\"")) defaultDesc colored).action = some a ∧
        ∃ found, sheet.findAttack? (Text.trimmed name) = some found ∧
          dispatch settings (some sheet) a bucket =
            (.ok (.check found.level fun t =>
              { RollRequest.check t found.name with
                note := found.mode, rof := found.rof, rcl := found.rcl }), bucket)) := by
  have hpart : ∀ name : String, (Text.trimmed name).toList <:+: name.toList := fun name => by
    rw [Text.trimmed, String.toList_ofList]
    exact Text.trim_infix name.toList
  constructor
  · intro entry hentry hname
    obtain ⟨found, hmem, hfound⟩ := Sheet.findSkill?_of_infix hentry (hpart entry.name)
    refine ⟨_, Span.parse_quotedSkill hname defaultDesc colored, found, hmem, ?_⟩
    refine dispatch_check ?_ (fun t => rfl) bucket
    simp only [Intent.ofKind, Intent.ofActor, hfound]
    rfl
  · intro name hmem hname
    obtain ⟨found, hfound⟩ := Sheet.findAttack?_of_infix hmem (hpart name)
    refine ⟨_, Span.parse_quotedAttack hname defaultDesc colored, found, hfound, ?_⟩
    refine dispatch_check ?_ (fun t => rfl) bucket
    simp only [Intent.ofKind, Intent.ofActor, hfound]
    rfl

/-- Names with stars, brackets, a line feed and blanks at their ends. -/
theorem dispatch_quoted_wildcards :
    let sheet : Sheet :=
      { spells := [⟨" *Light*\n[x](2) ", 12⟩], ranged := [⟨"Bow* ", "a.b", "13", "", "3", "1"⟩] }
    let bow : RollRequest :=
      { RollRequest.check 13 "Bow* " with note := some "a.b", rof := some 3, rcl := some 1 }
    (IsReferable " *Light*\n[x](2) " ∧
      ∃ a, (Span.parse ("S:\"" ++ (" *Light*\n[x](2) " ++ "\"")) "" true).action = some a ∧
        dispatch {} (some sheet) a .empty = (.ok (.roll (.check 12 " *Light*\n[x](2) ")), .empty)) ∧
    "Bow*  (a.b)" ∈ sheet.attackNames ∧ IsReferable "Bow*  (a.b)" ∧
      ∃ a, (Span.parse ("A:\"" ++ ("Bow*  (a.b)" ++ "\"")) "" true).action = some a ∧
        dispatch {} (some sheet) a .empty = (.ok (.roll bow), .empty) := by
  intro sheet bow
  have hquoted := dispatch_quoted sheet {} .empty "" true
  have hspell : IsReferable " *Light*\n[x](2) " := ⟨⟨'L', by decide, rfl⟩, by decide⟩
  have hbow : IsReferable "Bow*  (a.b)" := ⟨⟨'B', by decide, rfl⟩, by decide⟩
  have hmem : "Bow*  (a.b)" ∈ sheet.attackNames := by decide
  have hattack : sheet.findAttack? (Text.trimmed "Bow*  (a.b)") =
      some ⟨"Bow* ", some 13, some "a.b", some 3, some 1⟩ := by decide
  obtain ⟨a, ha, spell, hfound, hcheck⟩ := hquoted.1 _ (List.mem_singleton_self _) hspell
  obtain rfl := List.mem_singleton.1 hfound
  obtain ⟨b, hb, attack, hfound, hshot⟩ := hquoted.2 _ hmem hbow
  obtain rfl := Option.some.inj (hfound.symm.trans hattack)
  exact ⟨⟨hspell, a, ha, hcheck⟩, hmem, hbow, b, hb, hshot⟩

end Rollmark
