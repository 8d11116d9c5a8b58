/-
Conservation: in every run, what was added under a description was counted by a roll, was taken
out, or is still in the bucket. No modifier is lost, and none counts twice.
-/
import Rollmark.Proofs.Bucket.Balance
import Rollmark.Proofs.Intent
import Rollmark.Proofs.Session.Run

namespace Rollmark

open Modifier

/-! ## What a turn does with modifiers -/

namespace Turn

/-- The modifier that a turn has put into the bucket, if it says that it did. -/
def collected (turn : Turn) : List Modifier :=
  match turn.result with
  | .ok (.modifierAdded m) => [m]
  | _ => []

/-- The modifiers in the report of a turn that came from the bucket: all of them behind the one that
was typed into the span of the action. -/
def spent (k : Action.Kind) (turn : Turn) : List Modifier :=
  match turn.result with
  | .ok (.rolled report) => report.modifiers.drop k.typed.length
  | _ => []

end Turn

namespace Session

/-- The modifiers that a step adds. -/
def added (s : Session) : Step → List Modifier
  | .add m => [m]
  | .setRange amount => if amount = 0 then [] else [⟨amount, Bucket.rangeDesc⟩]
  | .remove _ | .clear => []
  | .activate a actor visibility => (s.activate a actor visibility).collected
  | .activateText text actor visibility => (s.activateText text actor visibility).collected

/-- The modifiers from the bucket that the report of a step counts. -/
def spent (s : Session) : Step → List Modifier
  | .activate a actor visibility => (s.activate a actor visibility).spent a.kind
  | .activateText text actor visibility =>
    match s.parsed? text with
    | some a => (s.activateText text actor visibility).spent a.kind
    | none => []
  | .add _ | .setRange _ | .remove _ | .clear => []

/-- The modifiers that a step takes out without counting them. -/
def takenOut (s : Session) : Step → List Modifier
  | .remove index => s.bucket.entries[index]?.toList
  | .clear => s.bucket.entries
  | .setRange _ => s.bucket.entries.filter fun e => e.desc = Bucket.rangeDesc
  | .add _ | .activate .. | .activateText .. => []

/-- What all steps of a run do with modifiers, one step after the other. -/
def along (part : Session → Step → List Modifier) (s : Session) : List Step → List Modifier
  | [] => []
  | x :: steps => part s x ++ along part (s.step x) steps

/-! ## One step -/

/-- A step balances when, under every description, what was in the bucket and what it adds is what
it counts, what it takes out and what is in the bucket afterwards; and no amount in there is beyond
what it was and what was added. -/
structure Balances (bound : Nat) (s s' : Session) (added spent takenOut : List Modifier) : Prop where
  under : ∀ desc, under desc s.bucket.entries + under desc added =
    under desc spent + under desc takenOut + under desc s'.bucket.entries
  within : Bucket.Within (bound + weight added) s'.bucket.entries

/-- Two steps balance when each of them does. -/
theorem Balances.trans {bound : Nat} {s s' s'' : Session}
    {added added' spent spent' takenOut takenOut' : List Modifier}
    (h : Balances bound s s' added spent takenOut)
    (h' : Balances (bound + weight added) s' s'' added' spent' takenOut') :
    Balances bound s s'' (added ++ added') (spent ++ spent') (takenOut ++ takenOut') := by
  constructor
  · intro desc
    have hfirst := h.under desc
    have hthen := h'.under desc
    simp only [under_append]
    omega
  · rw [weight_append, ← Nat.add_assoc]
    exact h'.within

section Steps

variable {s s' : Session} {bound : Nat} (h : Bucket.Within bound s.bucket.entries)
include h

theorem balances_same (hbucket : s'.bucket = s.bucket) : Balances bound s s' [] [] [] := by
  constructor
  · intro desc
    rw [hbucket, under_nil, Int.add_zero, Int.zero_add, Int.zero_add]
  · rw [hbucket]
    exact h

/-- A modifier that is added is in the bucket. -/
theorem balances_add {m : Modifier} (hlimit : bound + m.amount.val.natAbs ≤ 2147483647)
    (hbucket : s'.bucket = s.bucket.add m) : Balances bound s s' [m] [] [] := by
  constructor
  · intro desc
    have hmerge := Bucket.under_merge h hlimit desc
    rw [hbucket]
    simp [Bucket.add, Bucket.ofEntries, hmerge]
  · rw [hbucket]
    exact Bucket.within_merge h hlimit

/-- What is taken out was in the bucket. -/
theorem balances_takenOut {out : List Modifier}
    (hout : ∀ desc, under desc s.bucket.entries = under desc out + under desc s'.bucket.entries)
    (hleft : ∀ e ∈ s'.bucket.entries, e ∈ s.bucket.entries) : Balances bound s s' [] [] out := by
  constructor
  · intro desc
    rw [under_nil, Int.add_zero, Int.zero_add]
    exact hout desc
  · exact h.mono (Nat.le_add_right _ _) hleft

theorem balances_remove (index : Nat) :
    Balances bound s (s.removeModifier index) [] [] s.bucket.entries[index]?.toList := by
  have hentries : (s.removeModifier index).bucket.entries = s.bucket.entries.eraseIdx index := by
    unfold removeModifier
    dsimp only
    split <;> rfl
  refine balances_takenOut h (fun desc => ?_) fun e he => ?_
  · rw [hentries]
    exact under_eraseIdx desc _ index
  · rw [hentries] at he
    exact (List.eraseIdx_sublist _ _).subset he

/-- The measured range is replaced: the old entry is taken out before the new one goes in. -/
theorem balances_setRange {amount : Amount} (hlimit : bound + weight (s.added (.setRange amount)) ≤ 2147483647) :
    Balances bound s (s.setRange amount) (s.added (.setRange amount)) []
      (s.bucket.entries.filter fun e => e.desc = Bucket.rangeDesc) := by
  let others : Session :=
    { s with bucket := .ofEntries (s.bucket.entries.filter fun e => e.desc ≠ Bucket.rangeDesc) }
  have hout : Balances bound s others [] [] (s.bucket.entries.filter fun e => e.desc = Bucket.rangeDesc) := by
    refine balances_takenOut h (fun desc => ?_) fun e he => (List.mem_filter.1 he).1
    have hfilter := under_filter desc (fun e => e.desc = Bucket.rangeDesc) s.bucket.entries
    simpa only [others, Bucket.ofEntries, ne_eq, decide_not] using hfilter
  rw [added] at hlimit ⊢
  by_cases hzero : amount = 0
  · have hbucket : (s.setRange amount).bucket = others.bucket := by
      show s.bucket.setRange amount = _
      rw [Bucket.setRange, if_pos hzero]
    rw [if_pos hzero]
    have hsame := balances_same hout.within hbucket
    simpa only [List.nil_append, List.append_nil] using hout.trans hsame
  · have hbucket : (s.setRange amount).bucket = others.bucket.add ⟨amount, Bucket.rangeDesc⟩ := by
      show s.bucket.setRange amount = _
      rw [Bucket.setRange, if_neg hzero]
    rw [if_neg hzero] at hlimit ⊢
    have hin := balances_add hout.within hlimit hbucket
    simpa only [List.nil_append, List.append_nil] using hout.trans hin

theorem balances_effect {a : Action} {actor : Option Sheet} {visibility : Option Visibility} {turn : Turn}
    (he : Effect s a actor visibility turn) (hlimit : bound + weight turn.collected ≤ 2147483647) :
    Balances bound s turn.session turn.collected (turn.spent a.kind) [] := by
  cases he with
  | refused | unreadable | damage | reference | nothing => exact balances_same h rfl
  | modifier => exact balances_add h hlimit rfl
  | rolled hi hr =>
    have hmodifiers := resolve_modifiers hr
    -- what stands in the report behind the typed modifier is the bucket as it was
    rw [askedOf_oneShot, Intent.oneShot_ofKind hi] at hmodifiers
    constructor
    · intro desc
      simp [Turn.spent, Turn.collected, hmodifiers, postOutcome, persist, Bucket.empty]
    · rintro e ⟨⟩

theorem balances_step (x : Step) (hlimit : bound + weight (s.added x) ≤ 2147483647) :
    Balances bound s (s.step x) (s.added x) (s.spent x) (s.takenOut x) := by
  cases x with
  | add m => exact balances_add h hlimit rfl
  | setRange amount => exact balances_setRange h hlimit
  | remove index => exact balances_remove h index
  | clear =>
    refine balances_takenOut h (fun desc => ?_) ?_
    · exact (Int.add_zero _).symm
    · rintro e ⟨⟩
  | activate a actor visibility => exact balances_effect h (s.activate_effect a actor visibility) hlimit
  | activateText text actor visibility =>
    rw [added] at hlimit ⊢
    rw [step, spent, takenOut]
    cases ha : s.parsed? text with
    | none =>
      rw [activateText_of_none ha]
      exact balances_same h rfl
    | some a =>
      rw [activateText_of_some ha] at hlimit ⊢
      exact balances_effect h (s.activate_effect a actor visibility) hlimit

end Steps

/-! ## Every run -/

theorem balances_run {s : Session} {bound : Nat} (h : Bucket.Within bound s.bucket.entries)
    (steps : List Step) (hlimit : bound + weight (along added s steps) ≤ 2147483647) :
    Balances bound s (s.run steps) (along added s steps) (along spent s steps) (along takenOut s steps) := by
  induction steps generalizing s bound with
  | nil => exact balances_same h rfl
  | cons x steps ih =>
    rw [along, weight_append] at hlimit
    have hx := balances_step h x (by omega)
    have hrest := ih hx.within (by omega)
    exact hx.trans hrest

/-- In every run from an empty bucket that adds no more than an amount can hold, what was added
under a description is what the rolls counted, what was taken out and what is still there. -/
theorem under_added_run {s : Session} (hs : s.bucket = .empty) (steps : List Step)
    (hlimit : weight (along added s steps) ≤ 2147483647) (desc : String) :
    under desc (along added s steps) = under desc (along spent s steps)
      + under desc (along takenOut s steps) + under desc (s.run steps).bucket.entries := by
  have hempty : Bucket.Within 0 s.bucket.entries := by
    rw [hs]
    rintro e ⟨⟩
  have hrun := (balances_run hempty steps (by omega)).under desc
  rw [hs] at hrun
  rw [← hrun]
  exact (Int.zero_add _).symm

/-- Two modifiers are merged and counted by one roll, and a third one is taken out. -/
theorem under_added_run_aim :
    let s : Session := { settings := {}, dice := .ofFaces [4] }
    let steps : List Step := [.add ⟨2, "aim"⟩, .activateText "+1 aim" none none,
      .activateText "3d" none none, .add ⟨4, "aim"⟩, .remove 0]
    along spent s steps = [⟨3, "aim"⟩] ∧ weight (along added s steps) = 7 ∧
      under "aim" (along added s steps) = under "aim" (along spent s steps)
        + under "aim" (along takenOut s steps) + under "aim" (s.run steps).bucket.entries := by
  intro s steps
  have hspent : along spent s steps = [⟨3, "aim"⟩] := by decide +kernel
  have hweight : weight (along added s steps) = 7 := by decide +kernel
  exact ⟨hspent, hweight, under_added_run rfl steps (by rw [hweight]; decide) "aim"⟩

end Session

end Rollmark
