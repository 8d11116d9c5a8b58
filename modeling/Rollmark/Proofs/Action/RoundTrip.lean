/-
The wire form of actions: the JSON object of every action, whatever its texts and amounts are, is
read as that action again, and so is its text.
-/
import Rollmark.Action.Wire
import Rollmark.Proofs.Base64
import Rollmark.Proofs.Json.Fields
import Rollmark.Proofs.Json.RoundTrip

namespace Rollmark

/-! ## Amounts as numbers of the wire form -/

namespace Decimal

theorem foldl_ge (cs : List Char) (n : Nat) :
    n ≤ cs.foldl (fun n c => 10 * n + Text.digitValue c) n := by
  induction cs generalizing n with
  | nil => exact Nat.le_refl n
  | cons c cs ih =>
    have h := ih (10 * n + Text.digitValue c)
    rw [List.foldl_cons]; omega

/-- Digits that stay below 64 bits are taken in full. -/
theorem absorb_eq_foldl {cs : List Char} {n : Nat}
    (h : cs.foldl (fun n c => 10 * n + Text.digitValue c) n < Nat.pow 2 64) :
    absorb n cs = (cs.foldl (fun n c => 10 * n + Text.digitValue c) n, 0) := by
  induction cs generalizing n with
  | nil => rfl
  | cons c cs ih =>
    rw [List.foldl_cons] at h ⊢
    have hnext := Nat.lt_of_le_of_lt (foldl_ge cs _) h
    rw [absorb, if_pos hnext, ih h]

theorem absorb_digits {n : Nat} (h : n < Nat.pow 2 64) : absorb 0 (Text.digits n) = (n, 0) := by
  have hv : (Text.digits n).foldl (fun n c => 10 * n + Text.digitValue c) 0 = n :=
    Text.valueOf_digits n
  rw [absorb_eq_foldl (by rw [hv]; exact h), hv]

theorem roundToDouble_small {n : Nat} (h : n < Nat.pow 2 53) : roundToDouble n = n := by
  have hlog : n.log2 - 52 = 0 := by
    rcases Nat.eq_zero_or_pos n with rfl | hn
    · rfl
    · have := (Nat.log2_lt (by omega)).2 h; omega
  have hround : roundQuotient n 1 = n := by
    simp only [roundQuotient, Nat.div_one, Nat.mod_one, Nat.mul_zero]; rfl
  have hunit : Nat.pow 2 0 = 1 := rfl
  rw [roundToDouble, hlog, hunit, hround, Nat.mul_one]

theorem two_pow_53_lt : Nat.pow 2 53 < Nat.pow 2 1024 - Nat.pow 2 970 := by decide +kernel

/-- A number of a few digits is a finite double. -/
theorem isFinite_digits (negative : Bool) {n : Nat} (h : n < Nat.pow 2 53) :
    isFinite ⟨negative, Text.digits n, [], []⟩ = true := by
  have h64 : n < Nat.pow 2 64 := Nat.lt_trans h (by decide)
  have hexp : exponentValue ⟨negative, Text.digits n, [], []⟩ = 0 := rfl
  have hsum : exponentValue ⟨negative, Text.digits n, [], []⟩ + (0 : Nat) + (0 : Nat) - (0 : Nat) = 0 := by
    rw [hexp]; rfl
  have hone : roundToDouble (Nat.pow 10 (0 : Int).toNat) = 1 := by decide
  rw [isFinite]
  simp only [absorb_digits h64, absorb, List.length_nil]
  rw [hsum, hexp, roundToDouble_small h, hone, Nat.mul_one]
  rw [if_neg (show ¬ (decide ((0 : Int) > 2147483647) || decide ((0 : Int) > 308)) = true by decide),
    decide_eq_true (Nat.lt_trans h two_pow_53_lt), ite_self]

end Decimal

/-! ## The members of an action -/

namespace Action

open Json

/-- The values that stand in the wire form of an action. -/
inductive IsField : Json → Prop
  | text (s : String) : IsField (.string s)
  | flag (b : Bool) : IsField (.bool b)
  | amount (a : Amount) : IsField (amountJson a)

theorem IsField.depth_eq {v : Json} (h : IsField v) : v.depth = 0 := by
  cases h <;> rfl

theorem IsField.isWhole {v : Json} (h : IsField v) : v.all Json.isWhole = true := by
  cases h <;> rfl

theorem IsField.isReadable {v : Json} (h : IsField v) : v.all Json.isReadable = true := by
  cases h with
  | text s => rfl
  | flag b => rfl
  | amount a =>
    have hl := a.lower
    have hu := a.upper
    have hsmall : a.val.natAbs < 9007199254740992 := by omega
    exact Decimal.isFinite_digits _ hsmall

theorem membersDepth_eq {ms : List (String × Json)} (h : ∀ m ∈ ms, IsField m.2) : membersDepth ms = 0 := by
  induction ms with
  | nil => rfl
  | cons m ms ih =>
    rw [membersDepth, (h m List.mem_cons_self).depth_eq,
      ih fun m' hm' => h m' (List.mem_cons_of_mem m hm')]
    rfl

/-- The members that an action of any kind has. -/
def commonMembers (a : Action) : List (String × Json) :=
  [("orig", .string a.orig)] ++ (if a.blind then [("blindroll", .bool true)] else [])
    ++ [("type", .string a.kind.tag)]

/-- The names of the members that an action of any kind has. -/
def commonNames : List String := ["orig", "blindroll", "type"]

theorem toJson_eq (a : Action) : a.toJson = .object (a.commonMembers ++ a.kind.members) := rfl

theorem isField_commonMembers (a : Action) : ∀ m ∈ a.commonMembers, IsField m.2 := by
  intro m hm
  simp only [commonMembers, List.mem_append, List.mem_singleton] at hm
  rcases hm with (rfl | hm) | rfl
  · exact .text _
  · split at hm
    · rw [List.mem_singleton.1 hm]; exact .flag true
    · cases hm
  · exact .text _

theorem isField_kindMembers (k : Kind) : ∀ m ∈ k.members, IsField m.2 := by
  have htext := IsField.text
  have hamount := IsField.amount
  cases k with
  | attributeCheck name path amount desc target =>
    cases amount <;> cases target <;> simp [Kind.members, optionalMember, htext, hamount]
  | skill name amount desc =>
    cases amount <;> simp [Kind.members, optionalMember, htext, hamount]
  | attack name amount desc =>
    cases amount <;> simp [Kind.members, optionalMember, htext, hamount]
  | defense desc weapon path => cases weapon <;> simp [Kind.members, optionalMember, htext]
  | _ => simp [Kind.members, htext, hamount]

theorem isField_members (a : Action) : ∀ m ∈ a.commonMembers ++ a.kind.members, IsField m.2 :=
  List.forall_mem_append.2 ⟨isField_commonMembers a, isField_kindMembers a.kind⟩

/-! ## The names of the members -/

theorem names_commonMembers (a : Action) : (a.commonMembers.map (·.1)).Sublist commonNames := by
  apply List.isSublist_iff_sublist.1
  obtain ⟨orig, blind, kind⟩ := a
  cases blind <;> rfl

theorem names_kindMembers (k : Kind) : (k.members.map (·.1)).Sublist (fieldNames k.tag) := by
  apply List.isSublist_iff_sublist.1
  cases k with
  | attributeCheck name path amount desc target => cases amount <;> cases target <;> rfl
  | skill name amount desc => cases amount <;> rfl
  | attack name amount desc => cases amount <;> rfl
  | defense desc weapon path => cases weapon <;> rfl
  | _ => rfl

theorem tag_mem_tags (k : Kind) : k.tag ∈ tags := by
  cases k <;> simp [Kind.tag, tags]

/-- No name is declared twice for an action. -/
theorem nodup_names : ∀ tag ∈ tags, (commonNames ++ fieldNames tag).Nodup := by decide

theorem nodup_members (a : Action) : ((a.commonMembers ++ a.kind.members).map (·.1)).Nodup := by
  rw [List.map_append]
  exact (nodup_names _ (tag_mem_tags a.kind)).sublist
    ((names_commonMembers a).append (names_kindMembers a.kind))

theorem name_of_mem_commonMembers {a : Action} {m : String × Json} (h : m ∈ a.commonMembers) :
    m.1 ∈ commonNames ∧ m.1 ∉ fieldNames a.kind.tag := by
  have hm := (names_commonMembers a).subset (List.mem_map_of_mem h)
  exact ⟨hm, fun hf => (List.nodup_append.1 (nodup_names _ (tag_mem_tags a.kind))).2.2 _ hm _ hf rfl⟩

theorem name_of_mem_kindMembers {k : Kind} {m : String × Json} (h : m ∈ k.members) :
    m.1 ∈ fieldNames k.tag ∧ m.1 ∉ commonNames := by
  have hm := (names_kindMembers k).subset (List.mem_map_of_mem h)
  exact ⟨hm, fun hc => (List.nodup_append.1 (nodup_names _ (tag_mem_tags k))).2.2 _ hc _ hm rfl⟩

/-- The members that belong to the kind are those that the kind writes. -/
theorem filter_kindNames (a : Action) : ((a.commonMembers ++ a.kind.members).filter
    fun m => (fieldNames a.kind.tag).contains m.1) = a.kind.members := by
  have hcommon : (a.commonMembers.filter fun m => (fieldNames a.kind.tag).contains m.1) = [] :=
    List.filter_eq_nil_iff.2 fun m hm => by simpa using (name_of_mem_commonMembers hm).2
  have hkind : (a.kind.members.filter fun m => (fieldNames a.kind.tag).contains m.1) = a.kind.members :=
    List.filter_eq_self.2 fun m hm => by simpa using (name_of_mem_kindMembers hm).1
  rw [List.filter_append, hcommon, hkind, List.nil_append]

/-- The members that every action has are those that are looked up for every action. -/
theorem filter_commonNames (a : Action) : ((a.commonMembers ++ a.kind.members).filter
    fun m => commonNames.contains m.1) = a.commonMembers := by
  have hcommon : (a.commonMembers.filter fun m => commonNames.contains m.1) = a.commonMembers :=
    List.filter_eq_self.2 fun m hm => by simpa using (name_of_mem_commonMembers hm).1
  have hkind : (a.kind.members.filter fun m => commonNames.contains m.1) = [] :=
    List.filter_eq_nil_iff.2 fun m hm => by simpa using (name_of_mem_kindMembers hm).2
  rw [List.filter_append, hcommon, hkind, List.append_nil]

/-! ## Reading the members -/

theorem amount?_amountJson (a : Amount) : amount? (amountJson a) = some a := amount?_val a

theorem optional?_amountJson (a : Amount) : optional? amount? (amountJson a) = some (some a) := by
  show (amount? (amountJson a)).map some = _
  rw [amount?_amountJson]; rfl

theorem base?_text (b : DerivedBase) : base? (.string b.text) = some b := by
  cases b <;> rfl

/-- A kind is read from the members that it writes. -/
theorem ofFields?_members (k : Kind) : Kind.ofFields? k.tag k.members = some k := by
  have hamount := amount?_amountJson
  have hoptional := optional?_amountJson
  have hbase := base?_text
  have htext : ∀ s, text? (.string s) = some s := fun _ => rfl
  have htext' : ∀ s, optional? text? (.string s) = some (some s) := fun _ => rfl
  cases k with
  | attributeCheck name path amount desc target =>
    cases amount <;> cases target <;> simp [Kind.ofFields?, Kind.tag, Kind.members, optionalMember,
      Fields.required, Fields.orElse, List.lookup_cons, hoptional, htext]
  | skill name amount desc =>
    cases amount <;> simp [Kind.ofFields?, Kind.tag, Kind.members, optionalMember,
      Fields.required, Fields.orElse, List.lookup_cons, hoptional, htext]
  | attack name amount desc =>
    cases amount <;> simp [Kind.ofFields?, Kind.tag, Kind.members, optionalMember,
      Fields.required, Fields.orElse, List.lookup_cons, hoptional, htext]
  | defense desc weapon path =>
    cases weapon <;> simp [Kind.ofFields?, Kind.tag, Kind.members, optionalMember,
      Fields.required, Fields.orElse, List.lookup_cons, htext, htext']
  | _ =>
    simp [Kind.ofFields?, Kind.tag, Kind.members, Fields.required, List.lookup_cons, hamount, hbase,
      htext]

theorem tag?_tag (k : Kind) : tag? (.string k.tag) = some k.tag := by
  cases k <;> rfl

/-! ## Reading an action -/

/-- The JSON object of an action is read as that action. -/
theorem ofJson?_toJson (a : Action) : ofJson? a.toJson = some a := by
  have hdepth : (Json.object (a.commonMembers ++ a.kind.members)).depth = 1 := by
    rw [depth, membersDepth_eq (isField_members a)]
  have hreadable : (Json.object (a.commonMembers ++ a.kind.members)).all Json.isReadable = true :=
    all_object fun m hm => (isField_members a m hm).isReadable
  have hcommon := Fields.ofMembers?_of_nodup commonNames (nodup_members a)
  have hfields := Fields.ofMembers?_of_nodup (fieldNames a.kind.tag) (nodup_members a)
  have horig : Fields.required a.commonMembers "orig" text? = some a.orig := rfl
  have hblind : Fields.orElse a.commonMembers "blindroll" false flag? = some a.blind := by
    obtain ⟨orig, blind, kind⟩ := a
    cases blind <;> rfl
  have htag : Fields.required a.commonMembers "type" tag? = some a.kind.tag := by
    obtain ⟨orig, blind, kind⟩ := a
    cases blind <;> exact tag?_tag kind
  -- each of the two readings sees the members with its own names only
  rw [filter_commonNames] at hcommon
  rw [filter_kindNames] at hfields
  rw [toJson_eq, ofJson?, hdepth, hreadable, ← commonNames, hcommon]
  simp only [Option.bind_eq_bind, Option.bind_some, horig, hblind, htag, hfields, ofFields?_members]
  rfl

theorem isWhole_toJson (a : Action) : a.toJson.all Json.isWhole = true :=
  all_object fun m hm => (isField_members a m hm).isWhole

/-- The JSON text of an action is read as that action. -/
theorem read?_compact (a : Action) : read? a.toJson.compact = some a := by
  rw [read?, parse?_compact _ a.isWhole_toJson, Option.bind_some, ofJson?_toJson]

end Action

end Rollmark
