/-
Blind rolls in a session: an action and its blind twin fail alike or do the same, with the same bucket,
dice, place and character afterwards. Only who sees the report of a roll differs, and the report of the
blind one is for the game master alone, whatever somebody asked for.
-/
import Rollmark.Proofs.Session.Effect
import Rollmark.Proofs.Span.Blind

namespace Rollmark

/-! ## Visibility -/

/-- A report for the game master alone. -/
def Report.blinded (report : Report) : Report := { report with visibility := .gameMaster }

/-- An activation whose report is for the game master alone. -/
def Activation.blinded : Activation → Activation
  | .rolled report => .rolled report.blinded
  | activation => activation

/-- Who sees the result of a roll does not change how it comes out. -/
theorem resolve_visibility (request : RollRequest) (v : Visibility) (bucket : Bucket) (dice : Dice) :
    resolve { request with visibility := v } bucket dice =
      ((resolve request bucket dice).1.map fun report => { report with visibility := v },
        (resolve request bucket dice).2) := by
  unfold resolve Formula.ofText
  dsimp only
  cases Formula.read? request.formula with
  | none => rfl
  | some formula =>
    cases request.target with
    | none => rfl
    | some target =>
      dsimp only
      split <;> rfl

namespace Session

/-- What is blind stays blind, whatever is asked for. -/
theorem askedOf_blind (orig : String) (kind : Action.Kind) (visibility : Option Visibility)
    (request : RollRequest) :
    askedOf ⟨orig, true, kind⟩ visibility request = { request with visibility := .gameMaster } := by
  cases visibility <;> rfl

/-- What is not blind is seen by everyone, or by whom somebody asked for. -/
theorem askedOf_seen (orig : String) (kind : Action.Kind) (visibility : Option Visibility)
    (request : RollRequest) :
    askedOf ⟨orig, false, kind⟩ visibility request =
      { request with visibility := visibility.getD .everyone } := by
  cases visibility <;> rfl

/-! ## Twins -/

/-- The turns of an action and of its blind twin in one session. -/
structure Twins (s : Session) (seen blind : Turn) : Prop where
  result : blind.result = seen.result.map Activation.blinded
  settings : blind.session.settings = seen.session.settings
  dice : blind.session.dice = seen.session.dice
  bucket : blind.session.bucket = seen.session.bucket
  store : blind.session.store = seen.session.store
  damage : blind.session.table.damage = seen.session.table.damage
  references : blind.session.table.references = seen.session.table.references
  outcomes : ∃ posted, seen.session.table.outcomes = s.table.outcomes ++ posted ∧
    blind.session.table.outcomes = s.table.outcomes ++ posted.map Report.blinded
  actor : blind.actor = seen.actor

section Activations

variable (s : Session) (actor : Option Sheet)

theorem twins_roll (request : RollRequest) (v : Visibility) :
    Twins s (s.roll actor { request with visibility := v })
      (s.roll actor { request with visibility := .gameMaster }) := by
  unfold roll
  rw [resolve_visibility request v, resolve_visibility request .gameMaster]
  rcases resolve request s.bucket s.dice with ⟨_ | report, bucket, dice⟩
  · exact ⟨rfl, rfl, rfl, rfl, rfl, rfl, rfl, ⟨[], (List.append_nil _).symm, (List.append_nil _).symm⟩, rfl⟩
  · exact ⟨rfl, rfl, rfl, rfl, rfl, rfl, rfl, ⟨[_], rfl, rfl⟩, rfl⟩

/-- An action and its blind twin do the same in every session, for every character and whoever
somebody asked for. -/
theorem twins_activate (visibility : Option Visibility) (kind : Action.Kind) (orig orig' : String) :
    Twins s (s.activate ⟨orig, false, kind⟩ actor visibility)
      (s.activate ⟨orig', true, kind⟩ actor visibility) := by
  have hsame : ∀ turn : Turn, turn.result.map Activation.blinded = turn.result →
      turn.session.table.outcomes = s.table.outcomes → Twins s turn turn := fun turn hresult hposted =>
    ⟨hresult.symm, rfl, rfl, rfl, rfl, rfl, rfl, ⟨[], by simp [hposted], by simp [hposted]⟩, rfl⟩
  unfold activate dispatch
  cases Intent.ofKind s.settings actor kind with
  | error e => exact hsame _ rfl rfl
  | ok intent =>
    cases intent with
    | roll request =>
      have htwins := twins_roll s actor request (visibility.getD .everyone)
      rw [← askedOf_seen orig kind, ← askedOf_blind orig' kind visibility] at htwins
      exact htwins
    | _ => exact hsame _ rfl rfl

end Activations

/-! ## Marked texts -/

/-- A text with the mark for blind rolls is parsed exactly when the text behind the mark is, unless to
a modifier, and then to a blind action of the same kind; behind two marks nothing is recognized; and in
every session the two actions are twins. -/
theorem twins_mark {text : String} (hmark : text.toList.head? ≠ some '!') (defaultDesc : String)
    (colored : Bool) :
    (∀ a, (Span.parse ("!" ++ text) defaultDesc colored).action = some a ↔
      ∃ b, (Span.parse text defaultDesc colored).action = some b ∧ (∀ m d, b.kind ≠ .modifier m d) ∧
        a = ⟨"!" ++ text, true, b.kind⟩) ∧
    (∀ rest, Span.matchingRule? ("!!" ++ rest) = none ∧
      (Span.parse ("!!" ++ rest) defaultDesc colored).action = none) ∧
    ∀ a b, (Span.parse ("!" ++ text) defaultDesc colored).action = some a →
      (Span.parse text defaultDesc colored).action = some b →
        ∀ (s : Session) (actor : Option Sheet) (visibility : Option Visibility),
          Twins s (s.activate b actor visibility) (s.activate a actor visibility) := by
  refine ⟨fun a => Span.parse_mark_iff hmark,
    fun rest => Span.parse_two_marks rest defaultDesc colored, ?_⟩
  intro a b ha hb s actor visibility
  obtain ⟨b', hb', -, rfl⟩ := (Span.parse_mark_iff hmark).1 ha
  obtain rfl : b = b' := Option.some.inj (hb.symm.trans hb')
  obtain ⟨body, hbody, rule, -, r, -, rfl⟩ := Span.parse_eq_some_iff.1 hb
  obtain rfl := Span.body?_of_head_ne hmark hbody
  exact twins_activate s actor visibility r.kind text ("!" ++ text)

/-- A check that somebody wants everyone to see is seen by everyone, and its blind twin by the game master
alone. -/
theorem twins_mark_selfControl :
    let s : Session := { settings := {}, dice := .ofFaces [4] }
    let kind : Action.Kind := .selfControl 12 "bad temper"
    let seen := s.activate ⟨"CR: 12 bad temper", false, kind⟩ none (some .everyone)
    let blind := s.activate ⟨"!CR: 12 bad temper", true, kind⟩ none (some .everyone)
    "CR: 12 bad temper".toList.head? ≠ some '!' ∧ Twins s seen blind ∧
      ∃ report, seen.result = .ok (.rolled report) ∧ blind.result = .ok (.rolled report.blinded) ∧
        report.visibility = .everyone ∧ report.blinded.visibility = .gameMaster ∧
        report.faces = [4, 4, 4] ∧ report.outcome.target = some 12 ∧ report.outcome.result = some .success := by
  intro s kind seen blind
  have hmark : "CR: 12 bad temper".toList.head? ≠ some '!' := by decide
  have hblind : (Span.parse ("!" ++ "CR: 12 bad temper") "" true).action =
      some ⟨"!CR: 12 bad temper", true, kind⟩ := by decide
  have hseen : (Span.parse "CR: 12 bad temper" "" true).action =
      some ⟨"CR: 12 bad temper", false, kind⟩ := by decide
  have htwins : Twins s seen blind :=
    (twins_mark hmark "" true).2.2 _ _ hblind hseen s none (some .everyone)
  have hrolled : ∃ report, seen.result = .ok (.rolled report) ∧ report.visibility = .everyone ∧
      report.faces = [4, 4, 4] ∧ report.outcome.target = some 12 ∧
      report.outcome.result = some .success := by
    dsimp only [seen, kind, s]
    exact ⟨_, rfl, rfl, rfl, rfl, rfl⟩
  obtain ⟨report, hresult, hvisibility, hshown⟩ := hrolled
  have hblinded := htwins.result
  rw [hresult] at hblinded
  exact ⟨hmark, htwins, report, hresult, hblinded, hvisibility, rfl, hshown⟩

end Session

end Rollmark
