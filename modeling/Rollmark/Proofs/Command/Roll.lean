/-
Rolls against a sheet in a file: a roll that costs the character fatigue writes the sheet back, and the file
then holds the sheet that was read from it with less fatigue and no other change.
-/
import Rollmark.Command.Run
import Rollmark.Proofs.Command.Files
import Rollmark.Proofs.Session.Effect
import Rollmark.Proofs.Sheet.RoundTrip

namespace Rollmark.Command

/-! ## Sheets in files -/

section Character

variable {files : Files} {path : String} {sheet : Sheet}

/-- A sheet that was loaded can be written back. -/
theorem wellKeyed_of_loadCharacter (h : loadCharacter files path = .ok sheet) : sheet.WellKeyed := by
  unfold loadCharacter at h
  split at h
  · cases h
  · split at h
    · rename_i hread
      cases h
      exact Sheet.wellKeyed_of_read? hread
    · cases h

/-- A file with the bytes of a sheet is loaded as that sheet. -/
theorem loadCharacter_of_state (hsheet : sheet.WellKeyed) {writable : Bool}
    (h : files.state path = .bytes (characterBytes sheet) writable) : loadCharacter files path = .ok sheet := by
  have hcontent : files.content? path = some (characterBytes sheet) := by
    rw [Files.content?, h]
  have htext : Text.ofFile? (characterBytes sheet) = some sheet.toJson.pretty := Json.ofFile?_pretty _
  unfold loadCharacter
  rw [hcontent, Option.bind_some, htext]
  dsimp only
  rw [Sheet.read?_pretty hsheet]

end Character

/-! ## Rolls that cost fatigue -/

/-- A roll for the character in a file that costs fatigue and ends well. -/
structure SpendsFatigue (entropy : UInt64) (command : RollCommand) (files : Files) (path : String)
    (sheet : Sheet) (report : Report) : Prop where
  character : command.character = some path
  /-- The span is parsed to an action, and it is rolled for the sheet. -/
  rolled : ∃ session a, beginRoll entropy command files = .ok (session, some sheet) ∧
    (Span.parse (Span.stripBrackets command.span) session.settings.defaultDesc true).action = some a ∧
    (session.activate a (some sheet) (if command.whisper then some .roller else none)).result =
      .ok (.rolled report)
  costs : report.fatigueCost ≠ 0
  ends : ((Command.roll command).run entropy files).ending = .done

section Roll

variable {entropy : UInt64} {command : RollCommand} {files : Files} {path : String} {sheet : Sheet}

/-- The sheet that a roll begins with is the one in the file. -/
theorem loadCharacter_of_beginRoll {session : Session} (hpath : command.character = some path)
    (h : beginRoll entropy command files = .ok (session, some sheet)) :
    loadCharacter files path = .ok sheet := by
  cases hloaded : loadCharacter files path with
  | error fault =>
    simp only [beginRoll, hpath, hloaded, bind, Except.map, Except.bind] at h
    split at h
    · cases h
    · split at h <;> cases h
  | ok loaded =>
    simp only [beginRoll, hpath, hloaded, bind, Except.map, Except.bind] at h
    split at h
    · cases h
      rfl
    · split at h
      · cases h
        rfl
      · cases h

/-- A roll whose span is parsed ends as its activation does. -/
theorem run_roll {session : Session} {actor : Option Sheet} {a : Action}
    (hbegin : beginRoll entropy command files = .ok (session, actor))
    (hparse : (Span.parse (Span.stripBrackets command.span) session.settings.defaultDesc true).action = some a) :
    ∃ files', (Command.roll command).run entropy files =
      finishRoll command (session.activate a actor (if command.whisper then some .roller else none)) files' := by
  show ∃ files', runRoll entropy command files = _
  unfold runRoll
  rw [hbegin]
  dsimp only
  rw [hparse]
  exact ⟨_, rfl⟩

/-- A roll that ends well has written the sheet back, whatever it did to the bucket before. -/
theorem finishRoll_spends {turn : Turn} {report : Report} (hpath : command.character = some path)
    (hresult : turn.result = .ok (.rolled report)) (hactor : turn.actor = some sheet)
    (hcost : report.fatigueCost ≠ 0) (hdone : (finishRoll command turn files).ending = .done) :
    (finishRoll command turn files).files.state path = .bytes (characterBytes sheet) true := by
  unfold finishRoll at hdone ⊢
  simp only [hresult, hpath, hactor, if_neg hcost] at hdone ⊢
  cases hwrite : files.write? path (characterBytes sheet) with
  | none =>
    rw [hwrite] at hdone
    cases hdone
  | some files' => exact Files.state_of_write? hwrite

end Roll

/-- A sheet in which no name stands for two amounts is read from its own JSON text as it is. When a roll
for the character in a file costs fatigue and ends well, the file holds the sheet that was in it before, and
only the fatigue points are others: as many fewer as the roll cost, down to the least amount. -/
theorem loadCharacter_roll :
    (∀ s : Sheet, s.WellKeyed → Sheet.read? s.toJson.pretty = some s) ∧
      ∀ {entropy : UInt64} {command : RollCommand} {files : Files} {path : String} {sheet : Sheet}
        {report : Report}, SpendsFatigue entropy command files path sheet report →
        loadCharacter files path = .ok sheet ∧
          loadCharacter ((Command.roll command).run entropy files).files path = .ok { sheet with
            fatigue := { sheet.fatigue with
              value := .clamp (sheet.fatigue.value.val - report.fatigueCost.val) } } := by
  refine ⟨fun s hs => Sheet.read?_pretty hs, ?_⟩
  intro entropy command files path sheet report h
  obtain ⟨session, a, hbegin, hparse, hresult⟩ := h.rolled
  obtain ⟨files', hrun⟩ := run_roll hbegin hparse
  have hends := h.ends
  rw [hrun] at hends ⊢
  have hloaded := loadCharacter_of_beginRoll h.character hbegin
  have hkeyed := (wellKeyed_of_loadCharacter hloaded).spendFatigue report.fatigueCost
  have hactor := (Session.actor_of_rolled hresult).trans (if_neg h.costs)
  have hstate := finishRoll_spends h.character hresult hactor h.costs hends
  exact ⟨hloaded, loadCharacter_of_state hkeyed hstate⟩

/-- A file with a name that is there twice and a fatigue one above the least amount. -/
theorem loadCharacter_roll_least :
    let text := "\x7b\"senses\":\x7b\"b\":1,\"a\":2,\"b\":3\x7d,\"FP\":\x7b\"value\":-2147483647," ++
      "\"max\":9\x7d,\"skills\":[[\"Karate\",14]]\x7d"
    let files := Files.ofContents [("zoe.json", Text.utf8Bytes text)]
    let command : RollCommand := ⟨"[S:Kar*+2 slam *Costs 2FP]", some "zoe.json", some 7, none, none, true⟩
    let sheet : Sheet := {
      fatigue := ⟨.clamp (-2147483647), 9⟩, skills := [⟨"Karate", 14⟩], senses := [("b", 3), ("a", 2)] }
    sheet.WellKeyed ∧ Sheet.read? sheet.toJson.pretty = some sheet ∧
      ∃ report, SpendsFatigue 0 command files "zoe.json" sheet report ∧
        loadCharacter ((Command.roll command).run 0 files).files "zoe.json" =
          .ok { sheet with fatigue := ⟨.clamp (-2147483648), 9⟩ } := by
  intro text files command sheet
  let slam : Modifier := ⟨2, "slam *Costs 2FP"⟩
  let session : Session := { settings := { seed := some 7 }, dice := .ofSeed 7 }
  let a : Action := ⟨"S:Kar*+2 slam *Costs 2FP", false, .skill "Kar*" (some slam.amount) slam.desc⟩
  let report : Report :=
    { label := "Karate", faces := [2, 2, 2], modifiers := [slam], visibility := .roller, fatigueCost := 2,
      outcome := ⟨6, some 16, some 10, true, false, none, some .criticalSuccess⟩,
      text := "Karate (14)\n  +2 : slam *Costs 2FP\nNew Target: (16)\nRolled 6 -> " ++
        "Critical Success! made it by 10" }
  have hbegin : beginRoll 0 command files = .ok (session, some sheet) := by decide +kernel
  have hparse : (Span.parse (Span.stripBrackets command.span) session.settings.defaultDesc true).action =
      some a := by decide +kernel
  have hresult : (session.activate a (some sheet) (some .roller)).result = .ok (.rolled report) := by
    decide +kernel
  have hends : ((Command.roll command).run 0 files).ending = .done := by decide +kernel
  have hkeyed : sheet.WellKeyed := ⟨by decide, by decide⟩
  have hspends : SpendsFatigue 0 command files "zoe.json" sheet report :=
    ⟨rfl, ⟨session, a, hbegin, hparse, hresult⟩, by decide, hends⟩
  exact ⟨hkeyed, loadCharacter_roll.1 sheet hkeyed, report, hspends, (loadCharacter_roll.2 hspends).2⟩

end Rollmark.Command
