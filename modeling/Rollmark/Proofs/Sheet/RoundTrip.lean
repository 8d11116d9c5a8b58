/-
Sheets on paper: the JSON text of a sheet is read as that sheet, whatever its texts, amounts and lists
are, and the amounts under names keep their order. Under no name there may be two amounts; a sheet that was
read has none such.
-/
import Rollmark.Proofs.Json.Fields
import Rollmark.Proofs.Json.RoundTrip
import Rollmark.Sheet.Wire

namespace Rollmark

open Json

/-! ## The parts of a sheet -/

namespace Skill

theorem ofJson?_toJson (s : Skill) : ofJson? s.toJson = some s := by
  have hfields : s.toJson.fields? false ["name", "level"] =
      some [("name", .string s.name), ("level", .integer s.level.val)] := rfl
  unfold ofJson?
  rw [hfields]
  simp [Fields.required, List.lookup_cons, amount?_val, text?]

theorem isWhole_toJson (s : Skill) : s.toJson.all isWhole = true := rfl

end Skill

namespace MeleeAttack

theorem ofJson?_toJson (a : MeleeAttack) : ofJson? a.toJson = some a := by
  have hfields : a.toJson.fields? false ["name", "mode", "level", "damage", "parry", "block"] =
      some [("name", .string a.name), ("mode", .string a.mode), ("level", .string a.level),
        ("damage", .string a.damage), ("parry", .string a.parry), ("block", .string a.block)] := rfl
  unfold ofJson?
  rw [hfields]
  simp [Fields.orElse, List.lookup_cons, text?]

theorem isWhole_toJson (a : MeleeAttack) : a.toJson.all isWhole = true := rfl

end MeleeAttack

namespace RangedAttack

theorem ofJson?_toJson (a : RangedAttack) : ofJson? a.toJson = some a := by
  have hfields : a.toJson.fields? false ["name", "mode", "level", "damage", "rof", "rcl"] =
      some [("name", .string a.name), ("mode", .string a.mode), ("level", .string a.level),
        ("damage", .string a.damage), ("rof", .string a.rof), ("rcl", .string a.rcl)] := rfl
  unfold ofJson?
  rw [hfields]
  simp [Fields.orElse, List.lookup_cons, text?]

theorem isWhole_toJson (a : RangedAttack) : a.toJson.all isWhole = true := rfl

end RangedAttack

namespace Encumbrance

/-- A level is a byte. -/
theorem naturalUpTo?_level (level : UInt8) : naturalUpTo? 255 (.natural level.toNat) = some level.toNat := by
  have h := level.toNat_lt
  show (if 0 ≤ (level.toNat : Int) ∧ (level.toNat : Int) ≤ (255 : Nat) then some (level.toNat : Int).toNat
    else none) = _
  rw [if_pos (by omega), Int.toNat_natCast]

theorem ofJson?_toJson (e : Encumbrance) : ofJson? e.toJson = some e := by
  have hfields : e.toJson.fields? false ["level", "dodge", "move", "current"] =
      some [("level", .natural e.level.toNat), ("dodge", .integer e.dodge.val),
        ("move", .integer e.move.val), ("current", .bool e.current)] := rfl
  unfold ofJson?
  rw [hfields]
  simp [Fields.orElse, List.lookup_cons, naturalUpTo?_level, amount?_val, flag?]

theorem isWhole_toJson (e : Encumbrance) : e.toJson.all isWhole = true := rfl

end Encumbrance

namespace Pool

theorem ofJson?_toJson (p : Pool) : ofJson? p.toJson = some p := by
  have hfields : p.toJson.fields? false ["value", "max"] =
      some [("value", .integer p.value.val), ("max", .integer p.max.val)] := rfl
  unfold ofJson?
  rw [hfields]
  simp [Fields.required, List.lookup_cons, amount?_val]

theorem isWhole_toJson (p : Pool) : p.toJson.all isWhole = true := rfl

end Pool

namespace Sheet

/-! ## Amounts under names -/

/-- Amounts under different names are read in their order. -/
theorem table?_tableJson {entries : List (String × Amount)} (h : (entries.map (·.1)).Nodup) :
    table? amount? (tableJson entries) = some entries :=
  table?_map amount?_val h

theorem isWhole_tableJson (entries : List (String × Amount)) : (tableJson entries).all isWhole = true := by
  refine all_object fun m hm => ?_
  obtain ⟨entry, -, rfl⟩ := List.mem_map.1 hm
  rfl

/-! ## Whole sheets -/

/-- Under no name stand two amounts. -/
structure WellKeyed (s : Sheet) : Prop where
  attributes : (s.attributes.map (·.1)).Nodup
  senses : (s.senses.map (·.1)).Nodup

/-- The members of a sheet. -/
def members (s : Sheet) : List (String × Json) :=
  [("name", .string s.name), ("attributes", tableJson s.attributes),
    ("FP", s.fatigue.toJson), ("swing", .string s.swing), ("thrust", .string s.thrust),
    ("skills", .array (s.skills.map Skill.toJson)), ("spells", .array (s.spells.map Skill.toJson)),
    ("melee", .array (s.melee.map MeleeAttack.toJson)),
    ("ranged", .array (s.ranged.map RangedAttack.toJson)),
    ("encumbrance", .array (s.encumbrance.map Encumbrance.toJson)),
    ("senses", tableJson s.senses), ("parry", .ofOption (.integer ·.val) s.parry),
    ("block", .ofOption (.integer ·.val) s.block)]

theorem fields?_toJson (s : Sheet) : s.toJson.fields? false fieldNames = some s.members := rfl

theorem optional?_ofOption (a : Option Amount) : optional? amount? (.ofOption (.integer ·.val) a) = some a := by
  cases a with
  | none => rfl
  | some a => exact congrArg (Option.map some) (amount?_val a)

/-- The JSON object of a sheet is read as that sheet. -/
theorem ofJson?_toJson {s : Sheet} (h : s.WellKeyed) : ofJson? s.toJson = some s := by
  unfold ofJson?
  refine Option.bind_eq_some_iff.2 ⟨_, s.fields?_toJson, ?_⟩
  refine Option.bind_eq_some_iff.2 ⟨s.name, rfl, ?_⟩
  refine Option.bind_eq_some_iff.2 ⟨s.attributes, table?_tableJson h.attributes, ?_⟩
  refine Option.bind_eq_some_iff.2 ⟨s.fatigue, s.fatigue.ofJson?_toJson, ?_⟩
  refine Option.bind_eq_some_iff.2 ⟨s.swing, rfl, ?_⟩
  refine Option.bind_eq_some_iff.2 ⟨s.thrust, rfl, ?_⟩
  refine Option.bind_eq_some_iff.2 ⟨s.skills, list?_map Skill.ofJson?_toJson _, ?_⟩
  refine Option.bind_eq_some_iff.2 ⟨s.spells, list?_map Skill.ofJson?_toJson _, ?_⟩
  refine Option.bind_eq_some_iff.2 ⟨s.melee, list?_map MeleeAttack.ofJson?_toJson _, ?_⟩
  refine Option.bind_eq_some_iff.2 ⟨s.ranged, list?_map RangedAttack.ofJson?_toJson _, ?_⟩
  refine Option.bind_eq_some_iff.2 ⟨s.encumbrance, list?_map Encumbrance.ofJson?_toJson _, ?_⟩
  refine Option.bind_eq_some_iff.2 ⟨s.senses, table?_tableJson h.senses, ?_⟩
  refine Option.bind_eq_some_iff.2 ⟨s.parry, optional?_ofOption _, ?_⟩
  exact Option.bind_eq_some_iff.2 ⟨s.block, optional?_ofOption _, rfl⟩

theorem isWhole_toJson (s : Sheet) : s.toJson.all isWhole = true := by
  have hoptional (a : Option Amount) : (Json.ofOption (.integer ·.val) a).all isWhole = true := by
    cases a <;> rfl
  have hmembers : s.members.Forall fun m => m.2.all isWhole = true :=
    ⟨rfl, isWhole_tableJson _, rfl, rfl, rfl, all_array_map Skill.isWhole_toJson _,
      all_array_map Skill.isWhole_toJson _, all_array_map MeleeAttack.isWhole_toJson _,
      all_array_map RangedAttack.isWhole_toJson _, all_array_map Encumbrance.isWhole_toJson _,
      isWhole_tableJson _, hoptional _, hoptional _⟩
  exact all_object (List.forall_iff_forall_mem.1 hmembers)

/-- The JSON text of a sheet is read as that sheet. -/
theorem read?_pretty {s : Sheet} (h : s.WellKeyed) : read? s.toJson.pretty = some s := by
  rw [read?, parse?_pretty _ s.isWhole_toJson, Option.bind_some, ofJson?_toJson h]

/-! ## Sheets that were read -/

theorem nodup_of_orElse {fields : Fields} {name : String} {entries : List (String × Amount)}
    (h : fields.orElse name [] (table? amount?) = some entries) : (entries.map (·.1)).Nodup := by
  unfold Fields.orElse at h
  split at h
  · cases h
    exact List.nodup_nil
  · exact nodup_of_table? h

/-- Whatever is read as a sheet, under no name of it stand two amounts. -/
theorem wellKeyed_of_ofJson? {v : Json} {s : Sheet} (h : ofJson? v = some s) : s.WellKeyed := by
  unfold ofJson? at h
  obtain ⟨fields, -, h⟩ := Option.bind_eq_some_iff.1 h
  obtain ⟨_, -, h⟩ := Option.bind_eq_some_iff.1 h
  obtain ⟨attributes, hattributes, h⟩ := Option.bind_eq_some_iff.1 h
  -- the senses come behind eight other fields
  iterate 8 obtain ⟨_, -, h⟩ := Option.bind_eq_some_iff.1 h
  obtain ⟨senses, hsenses, h⟩ := Option.bind_eq_some_iff.1 h
  iterate 2 obtain ⟨_, -, h⟩ := Option.bind_eq_some_iff.1 h
  cases h
  exact ⟨nodup_of_orElse hattributes, nodup_of_orElse hsenses⟩

theorem wellKeyed_of_read? {text : String} {s : Sheet} (h : read? text = some s) : s.WellKeyed := by
  obtain ⟨v, -, hv⟩ := Option.bind_eq_some_iff.1 h
  exact wellKeyed_of_ofJson? hv

/-- Spending fatigue changes no names. -/
theorem WellKeyed.spendFatigue {s : Sheet} (h : s.WellKeyed) (points : Amount) :
    (s.spendFatigue points).WellKeyed :=
  ⟨h.attributes, h.senses⟩

end Sheet

end Rollmark
