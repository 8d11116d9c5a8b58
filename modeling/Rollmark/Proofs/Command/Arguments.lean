/-
Arguments: a word that is no option is taken as it stands, and so is every word behind `--` and behind the
name of another command. From this the lines that work on the bucket in a file are read as what they say.
-/
import Rollmark.Command
import Rollmark.Proofs.Amount

namespace Rollmark

namespace Arguments

variable {form : ArgumentForm}

/-! ## Plain words -/

/-- A word that does not begin with two dashes and that is let through is taken as it stands. -/
theorem addNext_word {word : String} {a : Arguments} (hdashes : ∀ rest, word.toList ≠ '-' :: '-' :: rest)
    (h : (!isDashed word.toList ||
      (form.negativeFirst && a.words.isEmpty && isNegativeNumber word.toList)) = true) :
    addNext form a .anything word = some (a.addWord form word) := by
  unfold addNext
  dsimp only
  split
  · exact absurd ‹_› (hdashes [])
  · exact absurd ‹_› (hdashes _)
  · rw [if_pos h]

theorem addNext_of_notDashed {word : String} (h : isDashed word.toList = false) (a : Arguments) :
    addNext form a .anything word = some (a.addWord form word) := by
  refine addNext_word (fun rest hcs => ?_) (by rw [h]; rfl)
  rw [hcs] at h
  cases h

/-- Where there are no options, a word with a dash in front is refused, or it is `--`. -/
theorem addNext_of_isDashed {word : String} (h : isDashed word.toList = true) :
    addNext {} {} .anything word = none ∨ addNext {} {} .anything word = some ({}, .plain) := by
  unfold addNext
  dsimp only
  split
  · exact .inr rfl
  · exact .inl rfl
  · rw [h]
    exact .inl rfl

/-- Once every word is plain, all words are taken. -/
theorem addAll_plain (a : Arguments) (words : List String) :
    addAll form a .plain words = some { a with words := a.words ++ words } := by
  induction words generalizing a with
  | nil => rw [addAll, List.append_nil]; simp
  | cons word words ih =>
    rw [addAll, addNext]
    dsimp only
    rw [ih, List.append_assoc]
    rfl

theorem addAll_append (hform : form.nested = false) {words : List String}
    (h : ∀ word ∈ words, isDashed word.toList = false) (a : Arguments) (rest : List String) :
    addAll form a .anything (words ++ rest) = addAll form { a with words := a.words ++ words } .anything rest := by
  induction words generalizing a with
  | nil => rw [List.append_nil]; rfl
  | cons word words ih =>
    have hword := h word List.mem_cons_self
    have hwords := fun w hw => h w (List.mem_cons_of_mem word hw)
    rw [List.cons_append, addAll, addNext_of_notDashed hword, addWord, hform]
    dsimp only
    rw [if_neg Bool.false_ne_true, ih hwords, List.append_assoc]
    rfl

/-! ## Numbers -/

/-- Where the first word may be a negative number, a minus sign with digits behind it is no option. -/
theorem addNext_of_isNegativeNumber {word : String} (hform : form.negativeFirst = true)
    (h : isNegativeNumber word.toList = true) {a : Arguments} (ha : a.words = []) :
    addNext form a .anything word = some (a.addWord form word) := by
  refine addNext_word (fun rest hcs => ?_) (by simp [hform, h, ha])
  -- the second dash would have to be a digit
  rw [hcs, isNegativeNumber] at h
  obtain ⟨n, hn⟩ := Option.isSome_iff_exists.1 h
  cases (Text.natural?_eq_some.1 hn).2.1 '-' List.mem_cons_self

theorem isNegativeNumber_of_amount? {word : String} {amount : Amount}
    (h : Command.amount? word = some amount) (hdash : isDashed word.toList = true) :
    isNegativeNumber word.toList = true := by
  obtain ⟨n, hn, -⟩ := Option.bind_eq_some_iff.1 h
  unfold isDashed at hdash
  split at hdash
  · rename_i hcs
    rw [hcs] at hn ⊢
    obtain ⟨m, hm, -⟩ := Option.map_eq_some_iff.1 hn
    rw [isNegativeNumber, hm]
    rfl
  · cases hdash

theorem naturalUpTo?_of_isDashed {word : String} (h : isDashed word.toList = true) (limit : Nat) :
    Command.naturalUpTo? limit word = none := by
  unfold isDashed at h
  split at h
  · rename_i c cs hcs
    have hnone : Text.unsigned? ('-' :: c :: cs) = none := by
      cases hread : Text.unsigned? ('-' :: c :: cs) with
      | none => rfl
      | some n => cases (Text.natural?_eq_some.1 hread).2.1 '-' List.mem_cons_self
    rw [Command.naturalUpTo?, hcs, hnone]
    rfl
  · cases h

end Arguments

namespace Command

open Arguments

/-! ## Edits of a bucket -/

def addForm : ArgumentForm := { negativeFirst := true }

theorem addAll_amount {word : String} {amount : Amount} (h : amount? word = some amount) (rest : List String) :
    Arguments.ofWords? addForm (word :: rest) = addAll addForm { words := [word] } .anything rest := by
  have hnext : addNext addForm {} .anything word = some (addWord {} addForm word) := by
    cases hdash : isDashed word.toList with
    | false => exact addNext_of_notDashed hdash {}
    | true => exact addNext_of_isNegativeNumber rfl (isNegativeNumber_of_amount? h hdash) rfl
  rw [Arguments.ofWords?, addAll, hnext]
  rfl

/-- The words behind an amount are its description. Behind `--` they may begin with dashes. -/
theorem bucketEdit?_add {word : String} {amount : Amount} (h : amount? word = some amount)
    {words : List String} (hwords : ∀ w ∈ words, isDashed w.toList = false) :
    bucketEdit? ("add" :: word :: words) = some (.add ⟨amount, " ".intercalate words⟩) ∧
      ∀ more, bucketEdit? ("add" :: word :: (words ++ "--" :: more)) =
        some (.add ⟨amount, " ".intercalate (words ++ more)⟩) := by
  have htaken : ∀ rest, Arguments.ofWords? addForm (word :: (words ++ rest)) =
      addAll addForm { words := word :: words } .anything rest := by
    intro rest
    rw [addAll_amount h, addAll_append rfl hwords]
    rfl
  -- what is taken is the amount and its description
  have hedit : ∀ rest taken, Arguments.ofWords? addForm (word :: rest) = some { words := word :: taken } →
      bucketEdit? ("add" :: word :: rest) = some (.add ⟨amount, " ".intercalate taken⟩) := by
    intro rest taken hrest
    show (Arguments.ofWords? addForm (word :: rest)).bind _ = _
    rw [hrest]
    show (amount? word).bind _ = _
    rw [h]
    rfl
  constructor
  · refine hedit words words ?_
    have hall := htaken []
    rwa [List.append_nil] at hall
  · intro more
    refine hedit _ (words ++ more) ?_
    have hdashes : addNext addForm { words := word :: words } .anything "--" =
        some ({ words := word :: words }, .plain) := rfl
    rw [htaken, addAll, hdashes]
    exact addAll_plain _ more

theorem bucketEdit?_remove (word : String) :
    bucketEdit? ["remove", word] = (naturalUpTo? maxIndex word).map .remove := by
  show (Arguments.ofWords? {} [word]).bind _ = _
  cases hdash : isDashed word.toList with
  | false =>
    rw [Arguments.ofWords?, addAll, addNext_of_notDashed hdash]
    show (naturalUpTo? maxIndex word).bind _ = _
    cases naturalUpTo? maxIndex word <;> rfl
  | true =>
    -- an option is refused, and behind `--` there is no word
    rw [naturalUpTo?_of_isDashed hdash, Arguments.ofWords?, addAll]
    rcases addNext_of_isDashed hdash with hnext | hnext <;> rw [hnext] <;> rfl

/-- The words behind the file are those of the edit. -/
theorem ofWords?_bucket {file word : String} (hname : file ≠ "") (hfile : isDashed file.toList = false)
    (hword : isDashed word.toList = false) (words : List String) :
    ofWords? ("bucket" :: "--file" :: file :: word :: words) =
      (bucketEdit? (word :: words)).map (.bucket file) := by
  let form : ArgumentForm := { options := ["file"], nested := true }
  have hoption : addNext form {} .anything "--file" = some ({}, .value "file") := rfl
  have hvalue : addNext form {} (.value "file") file = some ({ values := [("file", file)] }, .anything) := by
    unfold addNext
    dsimp only
    rw [hfile]
    rfl
  have hall : Arguments.ofWords? form ("--file" :: file :: word :: words) =
      some { values := [("file", file)], words := word :: words } := by
    rw [Arguments.ofWords?, addAll, hoption]
    dsimp only
    rw [addAll, hvalue]
    dsimp only
    rw [addAll, addNext_of_notDashed hword]
    exact addAll_plain _ words
  have hpath : path? file = some file := by
    rw [path?, if_neg (by simpa using hname)]
  show (Arguments.ofWords? form ("--file" :: file :: word :: words)).bind _ = _
  rw [hall]
  show ((path? file).map some).bind _ = _
  rw [hpath]
  show (bucketEdit? (word :: words)).bind _ = _
  cases bucketEdit? (word :: words) <;> rfl

end Command

end Rollmark
