/-
Typed dice in a session: with words that are no damage type the dice that were typed are rolled, with
everything that is in the bucket, and with words that are one the formula that was typed is asked for.
-/
import Rollmark.Proofs.Bucket.Balance
import Rollmark.Proofs.Dice
import Rollmark.Proofs.Session.Blind
import Rollmark.Proofs.Span.Dice

namespace Rollmark

/-! ## Rolls without a target -/

/-- Dice within the limits are all rolled, and with all their sides. -/
theorem Formula.roll_of_le {f : Formula} (hcount : f.count ≤ limit) (hsides : f.sides ≤ limit)
    (modifier : Amount) (dice : Dice) :
    f.roll modifier dice = (⟨(dice.rollMany f.sides f.count).1,
      f.total (dice.rollMany f.sides f.count).1 modifier⟩, (dice.rollMany f.sides f.count).2) := by
  unfold roll
  rw [Nat.min_eq_left hcount, Nat.min_eq_left hsides]

/-- The total of a roll without a target is that of its formula, and there is nothing else that came
out. -/
theorem rollOpen_of_le {formula : Formula} (hcount : formula.count ≤ Formula.limit)
    (hsides : formula.sides ≤ Formula.limit) (request : RollRequest) (modifiers : List Modifier)
    (dice : Dice) :
    let rolled := dice.rollMany formula.sides formula.count
    let result := rollOpen request formula modifiers dice
    result.2 = rolled.2 ∧ result.1.faces = rolled.1 ∧
      result.1.outcome =
        ⟨formula.total rolled.1 (Modifier.total modifiers), none, none, false, false, none, none⟩ := by
  unfold rollOpen
  rw [Formula.roll_of_le hcount hsides]
  exact ⟨rfl, rfl, rfl⟩

namespace Session

/-- A roll without a target whose formula can be read does not fail. It adds everything in the bucket to the
total and empties the bucket. -/
theorem roll_open {request : RollRequest} {formula : Formula} (htarget : request.target = none)
    (hread : Formula.read? request.formula = some formula) (s : Session) (actor : Option Sheet) :
    let rolled := rollOpen request formula (request.oneShot ++ s.bucket.entries) s.dice
    (s.roll actor request).result = .ok (.rolled rolled.1) ∧
      (s.roll actor request).session.bucket = .empty ∧ (s.roll actor request).session.dice = rolled.2 := by
  rw [roll_of_read hread, RollRequest.rolled, htarget]
  exact ⟨rfl, rfl, rfl⟩

/-! ## Typed dice -/

section Typed

variable (t : Span.DiceText) (s : Session) (visibility : Option Visibility)

theorem parsed?_diceText : s.parsed? t.text = some ⟨t.text, false, t.kind⟩ :=
  t.parse_text s.settings.defaultDesc s.settings.colorModifiers

/-- Without a damage type behind them the dice are rolled with what is in the bucket. -/
theorem activateText_rolled (htype : isDamageType t.words = false) :
    let rolled := s.dice.rollMany 6 t.count.value
    let turn := s.activateText t.text none visibility
    ∃ report, turn.result = .ok (.rolled report) ∧ report.faces = rolled.1 ∧
      report.outcome = ⟨t.rolledFormula.total rolled.1 (Modifier.total s.bucket.entries), none, none,
        false, false, none, none⟩ ∧
      turn.session.bucket = .empty ∧ turn.session.dice = rolled.2 := by
  intro rolled turn
  have hkind : t.kind = .roll (String.ofList t.rolledLayout.chars) t.words := by
    rw [Span.DiceText.kind, htype]
    rfl
  obtain ⟨label, hintent⟩ : ∃ label, Intent.ofKind s.settings none t.kind =
      .ok (.roll (.ofFormula (Formula.withSixes (String.ofList t.rolledLayout.chars)) label)) := by
    rw [hkind]
    exact ⟨_, rfl⟩
  -- the request as it is resolved: only its visibility was asked for
  let request : RollRequest :=
    { RollRequest.ofFormula (Formula.withSixes (String.ofList t.rolledLayout.chars)) label with
      visibility := visibility.getD .everyone }
  have hturn : turn = s.roll none request := by
    have hactivate := @activate_of_roll s ⟨t.text, false, t.kind⟩ none _ hintent visibility
    rw [askedOf_seen] at hactivate
    exact (activateText_of_some (parsed?_diceText t s) none visibility).trans hactivate
  obtain ⟨hresult, hbucket, hdice⟩ := @roll_open request _ rfl t.read?_rolledLayout s none
  have hsides : t.rolledFormula.sides ≤ Formula.limit := (by decide : 6 ≤ Formula.limit)
  obtain ⟨hrest, hfaces, houtcome⟩ :=
    @rollOpen_of_le t.rolledFormula t.count_le hsides request s.bucket.entries s.dice
  rw [hturn]
  exact ⟨_, hresult, hfaces, houtcome, hbucket, hdice.trans hrest⟩

/-- With a damage type behind them the dice are asked for as they were typed. -/
theorem activateText_damage (htype : isDamageType t.words = true) :
    let request : DamageRequest := ⟨none, String.ofList t.layout.chars, t.words, none⟩
    s.activateText t.text none visibility = ⟨.ok (.damage request), s.postDamage request, none⟩ := by
  intro request
  have hkind : t.kind = .damage (String.ofList t.layout.chars) t.words := by
    rw [Span.DiceText.kind, htype]
    rfl
  have hintent : Intent.ofKind s.settings none t.kind = .ok (.damage request) := by
    rw [hkind]
    rfl
  rw [activateText_of_some (parsed?_diceText t s)]
  exact activate_of_damage hintent visibility

/-- Typed dice mean what they say, in every session and without a character. Without a damage type behind
them as many six-sided dice are rolled as were typed, and the faces and the adds, times the multiplier, and
the modifiers in the bucket are the total, unless a partial result leaves the limits. With a damage type
behind them the formula is asked for as it was typed. -/
theorem activateText_diceText :
    let turn := s.activateText t.text none visibility
    (isDamageType t.words = false →
      ∃ report, turn.result = .ok (.rolled report) ∧
        (report.faces, turn.session.dice) = s.dice.rollMany 6 t.count.value ∧
        report.faces.length = t.count.value ∧ (∀ face ∈ report.faces, 1 ≤ face ∧ face ≤ 6) ∧
        turn.session.bucket = .empty ∧ report.outcome.result = none ∧
        let product := ((report.faces.sum : Nat) + t.added) * (t.factor : Nat)
        let modifiers := s.bucket.entries.map (·.amount.val)
        (Amount.Fits ((report.faces.sum : Nat) + t.added) → Amount.Fits product →
          (∀ before, before <+: modifiers → Amount.Fits before.sum) →
          Amount.Fits (product + modifiers.sum) →
            report.outcome.total.val =
              if t.minOne = true ∧ product + modifiers.sum < 1 then 1 else product + modifiers.sum)) ∧
    (isDamageType t.words = true →
      ∃ request adds, turn = ⟨.ok (.damage request), s.postDamage request, none⟩ ∧
        request.damageType = t.words ∧ adds.val = t.added ∧
        Formula.read? request.formula =
          some ⟨t.count.value, 6, adds, t.multiplier.map (·.number.value),
            t.divisor.map (String.ofList ·.inside), t.minOne⟩) := by
  intro turn
  constructor
  · intro htype
    obtain ⟨report, hresult, hfaces, houtcome, hbucket, hdice⟩ := activateText_rolled t s visibility htype
    have hlength := s.dice.length_rollMany 6 t.count.value
    have hbounds := s.dice.rollMany_bounds 6 t.count.value
    have hgreatest := s.dice.sum_rollMany_le 6 t.count.value
    rw [← hfaces] at hlength hbounds hgreatest houtcome
    refine ⟨report, hresult, by rw [hfaces, hdice], hlength, hbounds, hbucket, by rw [houtcome], ?_⟩
    intro product modifiers hadds hproduct hmodifiers hplain
    have htotal : (Modifier.total s.bucket.entries).val = modifiers.sum := Modifier.val_total hmodifiers
    rw [← htotal] at hplain ⊢
    rw [houtcome]
    exact t.val_total_rolledFormula hgreatest hadds hproduct hplain
  · intro htype
    exact ⟨_, .clamp t.added, activateText_damage t s visibility htype, rfl, t.added_fits.val_clamp,
      t.read?_layout⟩

end Typed

/-- The total of two shaken dice is raised to one, and the same dice with an armor divisor and a damage type
behind them are asked for. -/
theorem activateText_diceText_shaken :
    let rolled : Span.DiceText :=
      { count := ⟨['2'], by decide, List.all_eq_true.1 rfl⟩
        six := false
        adds := some ⟨true, ['9'], by decide, List.all_eq_true.1 rfl⟩
        multiplier := some ⟨'X', rfl, ['3'], by decide, List.all_eq_true.1 rfl⟩
        divisor := none
        minOne := true
        words := "damage"
        tail := " damage"
        count_le := by decide
        adds_fits := by rintro a ⟨⟩; exact ⟨by decide, by decide⟩
        multiplier_le := by rintro k ⟨⟩; decide
        isLine := ⟨by decide, by decide⟩
        begins := by rintro c ⟨⟩; rfl
        behind := .blank "damage" }
    let wounding : Span.DiceText :=
      { rolled with
        six := true
        divisor := some ⟨['.', '5'], by decide, List.all_eq_true.1 rfl⟩
        words := "pi+"
        tail := " pi+"
        isLine := ⟨by decide, by decide⟩
        begins := by rintro c ⟨⟩; rfl
        behind := .blank "pi+" }
    let s : Session :=
      { settings := {}, dice := .ofFaces [4, 5], bucket := .ofEntries [⟨.clamp (-2), "shock"⟩] }
    rolled.text = "2d-9X3! damage" ∧ wounding.text = "2d6-9X3(.5)! pi+" ∧
      (∃ report, (s.activateText rolled.text none none).result = .ok (.rolled report) ∧
        report.faces = [4, 5] ∧ report.outcome.total.val = 1) ∧
      ∃ request, (s.activateText wounding.text none none).result = .ok (.damage request) ∧
        Formula.read? request.formula = some ⟨2, 6, .clamp (-9), some 3, some ".5", true⟩ := by
  intro rolled wounding s
  refine ⟨by decide, by decide, ?_, ?_⟩
  · obtain ⟨report, hresult, hfaces, -, -, -, -, htotal⟩ :=
      (activateText_diceText rolled s none).1 (by decide)
    have hshown : report.faces = [4, 5] := congrArg Prod.fst hfaces
    rw [hshown] at htotal
    have hmodifiers : ∀ before, before <+: s.bucket.entries.map (·.amount.val) → Amount.Fits before.sum := by
      intro before hbefore
      rcases List.prefix_cons_iff.1 hbefore with rfl | ⟨rest, rfl, hrest⟩
      · exact ⟨by decide, by decide⟩
      · obtain rfl := List.prefix_nil.1 hrest
        exact ⟨by decide, by decide⟩
    exact ⟨report, hresult, hshown,
      htotal ⟨by decide, by decide⟩ ⟨by decide, by decide⟩ hmodifiers ⟨by decide, by decide⟩⟩
  · obtain ⟨request, adds, hturn, -, hadds, hread⟩ := (activateText_diceText wounding s none).2 (by decide)
    obtain rfl : adds = .clamp (-9) := Amount.eq_of_val_eq hadds
    exact ⟨request, congrArg Turn.result hturn, hread⟩

end Session

end Rollmark
