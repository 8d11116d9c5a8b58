/-
The order of the rules is immaterial: at most one of them recognizes a content, so the first that
recognizes it is the only one, and trying the rules in any other order gives the same parse.
-/
import Mathlib.Data.List.Nodup
import Rollmark.Proofs.Span.Front
import Rollmark.Span

namespace Rollmark.Span

/-! ## Searching for the only hit -/

section Search

variable {α β : Type} {f : α → Option β}

/-- Where at most one element is a hit, a search that finds some hit finds that one. -/
theorem findSome?_of_countP_le_one {l : List α} (hone : l.countP (fun a => (f a).isSome) ≤ 1)
    {a : α} {b : β} (ha : a ∈ l) (hb : f a = some b) : l.findSome? f = some b := by
  have hmem : b ∈ l.filterMap f := List.mem_filterMap.2 ⟨a, ha, hb⟩
  have hlength : (l.filterMap f).length ≤ 1 := by rwa [List.length_filterMap_eq_countP]
  rw [← List.head?_filterMap]
  match hfound : l.filterMap f, hlength with
  | [], _ => rw [hfound] at hmem; cases hmem
  | [c], _ =>
    rw [hfound, List.mem_singleton] at hmem
    rw [hmem]
    rfl
  | _ :: _ :: _, hlength => simp at hlength

/-- Where at most one element is a hit, the order of the elements does not matter. -/
theorem findSome?_of_perm {l l' : List α} (h : l.Perm l')
    (hone : l'.countP (fun a => (f a).isSome) ≤ 1) : l.findSome? f = l'.findSome? f := by
  have hperm := h.filterMap f
  have hlength : (l'.filterMap f).length ≤ 1 := by rwa [List.length_filterMap_eq_countP]
  have hsame : l.filterMap f = l'.filterMap f := by
    match hfound : l'.filterMap f, hlength with
    | [], _ => rw [hfound] at hperm; exact hperm.eq_nil
    | [b], _ => rw [hfound] at hperm; exact hperm.eq_singleton
    | _ :: _ :: _, hlength => simp at hlength
  rw [← List.head?_filterMap, ← List.head?_filterMap, hsame]

/-- Elements with one common name and different names are at most one. -/
theorem length_le_one_of_nodup_map {name : α → β} {l : List α} {b : β} (hnodup : (l.map name).Nodup)
    (hname : ∀ a ∈ l, name a = b) : l.length ≤ 1 := by
  match l with
  | [] => exact Nat.zero_le 1
  | [_] => exact Nat.le_refl 1
  | first :: second :: more =>
    have hfirst := hname first List.mem_cons_self
    have hsecond := hname second (List.mem_cons_of_mem _ List.mem_cons_self)
    simp [hfirst, hsecond] at hnodup

end Search

/-! ## One rule at most -/

theorem nodup_ruleNames : (rules.map (·.name)).Nodup := by decide

/-- At most one rule recognizes a content, because only the owner's front fits. -/
theorem countP_recognize_le_one (body : Body) :
    rules.countP (fun rule => (rule.recognize body).isSome) ≤ 1 := by
  have howner : ∀ rule ∈ rules.filter (fun rule => (rule.recognize body).isSome),
      some rule.name = owner body.chars := by
    intro rule hrule
    obtain ⟨hmem, hsome⟩ := List.mem_filter.1 hrule
    obtain ⟨r, hr⟩ := Option.isSome_iff_exists.1 hsome
    exact (front_of_recognize hmem hr).owner_eq.symm
  have hnodup : (rules.map fun rule => some rule.name).Nodup := by decide
  rw [List.countP_eq_length_filter]
  exact length_le_one_of_nodup_map (hnodup.sublist (List.filter_sublist.map _)) howner

theorem countP_hit_le_one (body : Body) :
    rules.countP (fun rule => ((rule.recognize body).map (rule, ·)).isSome) ≤ 1 := by
  simpa only [Option.isSome_map] using countP_recognize_le_one body

/-- A rule that recognizes a content is the one that is found. -/
theorem recognize?_of_mem {rule : Rule} (hrule : rule ∈ rules) {body : Body} {r : Recognized}
    (h : rule.recognize body = some r) : recognize? body rules = some (rule, r) :=
  findSome?_of_countP_le_one (countP_hit_le_one body) hrule (by rw [h]; rfl)

/-- Only the owner of a content has to be asked. -/
theorem recognize?_of_owner {rule : Rule} (hrule : rule ∈ rules) {body : Body}
    (howner : owner body.chars = some rule.name) :
    recognize? body rules = (rule.recognize body).map (rule, ·) := by
  cases hrec : rule.recognize body with
  | some r => rw [recognize?_of_mem hrule hrec, Option.map_some]
  | none =>
    refine List.findSome?_eq_none_iff.2 fun other hother => Option.map_eq_none_iff.2 ?_
    by_contra hne
    obtain ⟨r, hr⟩ := Option.ne_none_iff_exists'.1 hne
    -- another rule that recognizes the content would own it too
    have hname := howner.symm.trans (front_of_recognize hother hr).owner_eq
    have hsame : rule = other :=
      List.inj_on_of_nodup_map nodup_ruleNames hrule hother (Option.some.inj hname)
    rw [← hsame, hrec] at hr
    cases hr

/-- No order of the rules finds another one. -/
theorem recognize?_of_perm {tried : List Rule} (h : tried.Perm rules) (body : Body) :
    recognize? body tried = recognize? body rules :=
  findSome?_of_perm h (countP_hit_le_one body)

/-! ## What is parsed -/

/-- A content with a front is a content without the mark. -/
theorem body?_of_front {name text : String} (h : Front name text.toList) (defaultDesc : String) :
    body? text defaultDesc = some ⟨text.toList, false, defaultDesc⟩ := by
  have hlength := h.two_le_length
  have hmark := h.head_ne_mark
  unfold body?
  split
  · rename_i hcs; rw [hcs] at hlength; cases hlength
  · rename_i hcs; rw [hcs] at hlength; simp at hlength
  · rename_i hcs; rw [hcs] at hmark; exact absurd rfl hmark
  · rfl

/-- With the mark in front of it, the same content is blind. -/
theorem body?_mark_append {name text : String} (h : Front name text.toList) (defaultDesc : String) :
    body? ("!" ++ text) defaultDesc = some ⟨text.toList, true, defaultDesc⟩ := by
  have htext : ("!" ++ text).toList = '!' :: text.toList := String.toList_append
  unfold body?
  rw [htext]
  match text.toList, h.two_le_length with
  | _ :: _, _ => rfl

/-- A content that some rule recognizes is parsed as that rule says. -/
theorem parse_of_recognize {text defaultDesc : String} {body : Body} {rule : Rule} {r : Recognized}
    (hbody : body? text defaultDesc = some body) (hrule : rule ∈ rules)
    (h : rule.recognize body = some r) (colored : Bool) :
    (parse text defaultDesc colored).action = some ⟨text, body.blind, r.kind⟩ := by
  simp only [parse, parseWith, hbody, recognize?_of_mem hrule h]

/-! ## Any order -/

/-- At most one rule recognizes a content, and whatever the order in which the rules are tried, every
text is parsed as before and found by the rule of the same name. -/
theorem parseWith_perm {tried : List Rule} (h : tried.Perm rules) :
    (∀ body : Body, rules.countP (fun rule => (rule.recognize body).isSome) ≤ 1) ∧
      ∀ text, matchingRuleWith? tried text = matchingRule? text ∧
        ∀ defaultDesc colored,
          parseWith tried text defaultDesc colored = parse text defaultDesc colored := by
  refine ⟨countP_recognize_le_one, fun text => ⟨?_, fun defaultDesc colored => ?_⟩⟩
  · unfold matchingRule? matchingRuleWith?
    simp only [recognize?_of_perm h]
  · unfold parse parseWith
    simp only [recognize?_of_perm h]

/-- The last rule first: an attribute with a target is still no attribute check without one. -/
theorem parseWith_reverse :
    rules.reverse.Perm rules ∧
      matchingRuleWith? rules.reverse "!ST12 Recall" = some "targeted-attribute" ∧
      parseWith rules.reverse "!ST12 Recall" "" true = parse "!ST12 Recall" "" true :=
  have h := parseWith_perm rules.reverse_perm
  ⟨rules.reverse_perm, (h.2 "!ST12 Recall").1.trans (by decide), (h.2 "!ST12 Recall").2 "" true⟩

end Rollmark.Span
