/-
Reading records: among members with different names every declared field is found, a list of records is
read item by item, and a table entry by entry.
-/
import Mathlib.Data.List.Nodup
import Rollmark.Json.Fields
import Rollmark.Proofs.Amount

namespace Rollmark

/-! ## Values under names -/

namespace Keyed

variable {α : Type}

theorem put_of_notMem {name : String} {kept : List (String × α)} (h : name ∉ kept.map (·.1)) (v : α) :
    put name v kept = kept ++ [(name, v)] := by
  induction kept with
  | nil => rfl
  | cons e kept ih =>
    obtain ⟨n, old⟩ := e
    rw [List.map_cons, List.mem_cons, not_or] at h
    rw [put, if_neg (Ne.symm h.1), ih h.2, List.cons_append]

/-- A name that is there keeps its place, and a new one is the last. -/
theorem keys_put (name : String) (v : α) (kept : List (String × α)) : (put name v kept).map (·.1) =
    if name ∈ kept.map (·.1) then kept.map (·.1) else kept.map (·.1) ++ [name] := by
  induction kept with
  | nil => rfl
  | cons e kept ih =>
    obtain ⟨n, old⟩ := e
    rw [put]
    by_cases hn : n = name
    · simp [hn]
    · have hname : name ≠ n := Ne.symm hn
      rw [if_neg hn, List.map_cons, ih]
      by_cases hmem : name ∈ kept.map (·.1) <;> simp [hmem, hname]

theorem nodup_put {kept : List (String × α)} (h : (kept.map (·.1)).Nodup) (name : String) (v : α) :
    ((put name v kept).map (·.1)).Nodup := by
  rw [keys_put]
  split
  · exact h
  · rename_i hnew
    rw [← List.concat_eq_append]
    exact h.concat hnew

/-- Whatever is set, under no name stand two values. -/
theorem nodup_ofList (entries : List (String × α)) : ((ofList entries).map (·.1)).Nodup := by
  have hfold : ∀ (entries kept : List (String × α)), (kept.map (·.1)).Nodup →
      ((entries.foldl (fun kept e => put e.1 e.2 kept) kept).map (·.1)).Nodup := by
    intro entries
    induction entries with
    | nil => exact fun _ h => h
    | cons e entries ih => exact fun kept h => ih _ (nodup_put h e.1 e.2)
  exact hfold entries [] List.nodup_nil

/-- Values under different names stay as they are. -/
theorem ofList_of_nodup {entries : List (String × α)} (h : (entries.map (·.1)).Nodup) :
    ofList entries = entries := by
  have hfold : ∀ (entries kept : List (String × α)), ((kept ++ entries).map (·.1)).Nodup →
      entries.foldl (fun kept e => put e.1 e.2 kept) kept = kept ++ entries := by
    intro entries
    induction entries with
    | nil => exact fun kept _ => (List.append_nil kept).symm
    | cons e entries ih =>
      intro kept h
      have hnew : e.1 ∉ kept.map (·.1) := by
        rw [List.map_append, List.map_cons] at h
        exact fun hmem => (List.nodup_append.1 h).2.2 _ hmem _ List.mem_cons_self rfl
      rw [List.foldl_cons, put_of_notMem hnew, ih _ (by rwa [List.append_assoc]), List.append_assoc]
      rfl
  exact hfold entries [] h

end Keyed

namespace Json

theorem amount?_val (a : Amount) : amount? (.integer a.val) = some a := Amount.ofInt?_val a

/-- What can be read after it is written is read from a list item by item. -/
theorem list?_map {α : Type} {read : Json → Option α} {write : α → Json}
    (h : ∀ a, read (write a) = some a) (as : List α) : list? read (.array (as.map write)) = some as := by
  show (as.map write).mapM read = some as
  induction as with
  | nil => rfl
  | cons a as ih =>
    rw [List.map_cons, List.mapM_cons, h, ih]
    rfl

/-- Under different names what can be read after it is written is read from a table entry by entry. -/
theorem table?_map {α : Type} {read : Json → Option α} {write : α → Json}
    (h : ∀ a, read (write a) = some a) {entries : List (String × α)} (hkeys : (entries.map (·.1)).Nodup) :
    table? read (.object (entries.map fun e => (e.1, write e.2))) = some entries := by
  have hread : ((entries.map fun e => (e.1, write e.2)).mapM fun m => (read m.2).map (m.1, ·)) =
      some entries := by
    clear hkeys
    induction entries with
    | nil => rfl
    | cons e entries ih =>
      rw [List.map_cons, List.mapM_cons, h, ih]
      rfl
  rw [table?, hread, Option.map_some, Keyed.ofList_of_nodup hkeys]

/-- Whatever is read as a table, under no name stand two values. -/
theorem nodup_of_table? {α : Type} {read : Json → Option α} {v : Json} {entries : List (String × α)}
    (h : table? read v = some entries) : (entries.map (·.1)).Nodup := by
  unfold table? at h
  split at h
  · obtain ⟨read, -, rfl⟩ := Option.map_eq_some_iff.1 h
    exact Keyed.nodup_ofList read
  · cases h

section Parts

variable {test : Json → Bool}

theorem all_array {vs : List Json} (h : ∀ v ∈ vs, v.all test = true) : (Json.array vs).all test = true := by
  show allItems test vs = true
  induction vs with
  | nil => rfl
  | cons v vs ih =>
    rw [allItems, h v List.mem_cons_self, ih fun v' hv' => h v' (List.mem_cons_of_mem v hv')]
    rfl

theorem all_array_map {α : Type} {write : α → Json} (h : ∀ a, (write a).all test = true) (as : List α) :
    (Json.array (as.map write)).all test = true :=
  all_array (List.forall_mem_map.2 fun a _ => h a)

theorem all_object {ms : List (String × Json)} (h : ∀ m ∈ ms, m.2.all test = true) :
    (Json.object ms).all test = true := by
  show allMembers test ms = true
  induction ms with
  | nil => rfl
  | cons m ms ih =>
    rw [allMembers, h m List.mem_cons_self, ih fun m' hm' => h m' (List.mem_cons_of_mem m hm')]
    rfl

end Parts

/-- Among members with different names nothing is repeated, whatever names are declared. -/
theorem Fields.ofMembers?_of_nodup (names : List String) {ms : List (String × Json)}
    (h : (ms.map (·.1)).Nodup) :
    Fields.ofMembers? false names ms = some (ms.filter fun m => names.contains m.1) := by
  have hdistinct : (names.all fun name =>
      ((ms.filter fun m => names.contains m.1).filter (·.1 == name)).length ≤ 1) = true := by
    rw [List.all_eq_true]
    intro name _
    have hcount : ((ms.filter fun m => names.contains m.1).map (·.1)).count name ≤ 1 :=
      List.nodup_iff_count.1 (h.sublist (List.filter_sublist.map _)) name
    rw [List.count, List.countP_map, List.countP_eq_length_filter] at hcount
    exact decide_eq_true hcount
  rw [Fields.ofMembers?]
  simp only [hdistinct, Bool.not_false, Bool.true_or, Bool.and_self, if_true]

end Json

end Rollmark
