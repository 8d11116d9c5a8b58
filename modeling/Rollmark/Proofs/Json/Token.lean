/-
Tokens: what `Token.text` writes, `Token.scan` takes off the front of a text again, whatever
follows it, as long as an integer is not followed by more of a number. Decimals are left out: one
that is not in the form of a number has no text to be read from.
-/
import Rollmark.Json.Token
import Rollmark.Proofs.Text
import Rollmark.Proofs.Text.Numeral
import Mathlib.Tactic.SplitIfs

namespace Rollmark.Json

/-! ## Strings -/

theorem hexValue?_hexDigit : ∀ n, n < 16 → hexValue? (hexDigit n) = some n := by decide

theorem hexUnit?_control (n : Nat) (h : n < 0x20) :
    hexUnit? '0' '0' (hexDigit (n / 16)) (hexDigit (n % 16)) = some n := by
  have h0 : hexValue? '0' = some 0 := rfl
  have hq := hexValue?_hexDigit (n / 16) (by omega)
  have hr := hexValue?_hexDigit (n % 16) (by omega)
  rw [hexUnit?, h0, hq, hr]
  show some ((0 * 16 + 0) * 256 + n / 16 * 16 + n % 16) = some n
  congr 1; omega

/-- A number below the surrogates stands for its character, whatever follows. -/
theorem pieceChars?_unit (n : Nat) (h : n < 0xD800) (ps : List Piece) :
    pieceChars? (.unit n :: ps) = (pieceChars? ps).map (Char.ofNat n :: ·) := by
  have hfirst : decide (0xD800 ≤ n) = false := by simp; omega
  have hsecond : decide (0xDC00 ≤ n) = false := by simp; omega
  rcases ps with _ | ⟨_ | m, ps⟩ <;>
    simp only [pieceChars?, hfirst, hsecond, Bool.false_and, Bool.false_eq_true, if_false]

/-- A row of characters at the front of a string that is one piece and stands for one character. -/
def WritesChar (text : List Char) (c : Char) : Prop :=
  ∃ p : Piece, (∀ rest, stringBody (text ++ rest) = (stringBody rest).map (Prod.map (p :: ·) id)) ∧
    ∀ ps, pieceChars? (p :: ps) = (pieceChars? ps).map (c :: ·)

theorem writesChar_letter {e c : Char} (he : escaped? e = some c) (hu : e ≠ 'u') :
    WritesChar ['\\', e] c := by
  refine ⟨.char c, fun rest => ?_, fun ps => by rw [pieceChars?]⟩
  show stringBody ('\\' :: e :: rest) = _
  rw [stringBody]
  · rw [he]; cases stringBody rest <;> rfl
  · rintro a b c d r rfl; contradiction

theorem writesChar_control {n : Nat} (h : n < 0x20) :
    WritesChar ['\\', 'u', '0', '0', hexDigit (n / 16), hexDigit (n % 16)] (Char.ofNat n) := by
  refine ⟨.unit n, fun rest => ?_, pieceChars?_unit n (by omega)⟩
  show stringBody ('\\' :: 'u' :: '0' :: '0' :: hexDigit (n / 16) :: hexDigit (n % 16) :: rest) = _
  rw [stringBody, hexUnit?_control n h]
  cases stringBody rest <;> rfl

theorem writesChar_self {c : Char} (hq : c ≠ '"') (hb : c ≠ '\\') (hc : ¬ c.toNat < 0x20) :
    WritesChar [c] c := by
  refine ⟨.char c, fun rest => ?_, fun ps => by rw [pieceChars?]⟩
  show stringBody (c :: rest) = _
  rw [stringBody]
  · rw [if_neg (by simp [hc, hb])]; cases stringBody rest <;> rfl
  · exact hq
  · rintro a b d e r rfl; contradiction
  · rintro e r rfl; contradiction

/-- Every character, escaped or not, is one piece that stands for it. -/
theorem writesChar_escape (c : Char) : WritesChar (escape c) c := by
  have hof : ∀ n, c.toNat = n → c = Char.ofNat n := fun n h => by rw [← h, Char.ofNat_toNat]
  unfold escape
  split_ifs with h1 h2 h3 h4 h5 h6 h7 h8
  · rw [eq_of_beq h1]; exact writesChar_letter rfl (by decide)
  · rw [eq_of_beq h2]; exact writesChar_letter rfl (by decide)
  · rw [hof _ (eq_of_beq h3)]; exact writesChar_letter rfl (by decide)
  · rw [hof _ (eq_of_beq h4)]; exact writesChar_letter rfl (by decide)
  · rw [hof _ (eq_of_beq h5)]; exact writesChar_letter rfl (by decide)
  · rw [hof _ (eq_of_beq h6)]; exact writesChar_letter rfl (by decide)
  · rw [hof _ (eq_of_beq h7)]; exact writesChar_letter rfl (by decide)
  · have h := writesChar_control h8
    rwa [Char.ofNat_toNat] at h
  · exact writesChar_self (fun h => h1 (by rw [h]; rfl)) (fun h => h2 (by rw [h]; rfl)) h8

/-- The body of a string is read up to its closing quote, whatever it holds. -/
theorem stringBody_escape (cs rest : List Char) : ∃ pieces,
    stringBody (cs.flatMap escape ++ '"' :: rest) = some (pieces, rest) ∧
      pieceChars? pieces = some cs := by
  induction cs with
  | nil => exact ⟨[], rfl, rfl⟩
  | cons c cs ih =>
    obtain ⟨pieces, hbody, hchars⟩ := ih
    obtain ⟨p, hp, hc⟩ := writesChar_escape c
    refine ⟨p :: pieces, ?_, by rw [hc, hchars]; rfl⟩
    rw [List.flatMap_cons, List.append_assoc, hp, hbody]; rfl

/-! ## Numbers -/

/-- A text that cannot go on with a number in front of it. -/
def EndsNumber (rest : List Char) : Prop :=
  ∀ c ∈ rest.head?, c.isDigit = false ∧ c ≠ '.' ∧ c ≠ 'e' ∧ c ≠ 'E'

theorem wholePart?_digits (n : Nat) {rest : List Char} (h : EndsNumber rest) :
    wholePart? (Text.digits n ++ rest) = some (Text.digits n, rest) := by
  have hds : ∀ c ∈ Text.digits n, c.isDigit = true := fun _ => Text.isDigit_of_mem_digits
  have hend : ∀ c ∈ rest.head?, c.isDigit = false := fun c hc => (h c hc).1
  cases hd : Text.digits n with
  | nil => exact absurd hd (Text.digits_ne_nil n)
  | cons d ds =>
    rw [hd] at hds
    by_cases hz : d = '0'
    · -- a zero in front is all there is
      have hn : n = 0 := Text.head_digits (by rw [hd, hz]; rfl)
      rw [hn, Text.digits_of_lt (by decide)] at hd
      obtain ⟨rfl, rfl⟩ : d = '0' ∧ ds = [] := ⟨hz, (List.cons.inj hd).2.symm⟩
      rfl
    · rw [List.cons_append, wholePart?, digitRun?, ← List.cons_append,
        Text.takeWhile_run hds hend, Text.dropWhile_run hds hend]
      exact fun r hr => hz (List.cons.inj hr).1

theorem fractionPart?_none {rest : List Char} (h : EndsNumber rest) :
    fractionPart? rest = some ([], rest) := by
  cases rest with
  | nil => rfl
  | cons c cs =>
    rw [fractionPart?]
    exact fun r hr => (h c rfl).2.1 (List.cons.inj hr).1

theorem exponentPart?_none {rest : List Char} (h : EndsNumber rest) :
    exponentPart? rest = some ([], rest) := by
  cases rest with
  | nil => rfl
  | cons c cs =>
    rw [exponentPart?]
    · exact fun r hr => (h c rfl).2.2.1 (List.cons.inj hr).1
    · exact fun r hr => (h c rfl).2.2.2 (List.cons.inj hr).1

theorem unsignedNumber?_digits (negative : Bool) (n : Nat) {rest : List Char} (h : EndsNumber rest)
    (hn : negative = true → n ≠ 0) : unsignedNumber? negative (Text.digits n ++ rest) =
      some (.integer (if negative then -(n : Int) else n), rest) := by
  have hzero : (negative && n == 0) = false := by cases negative <;> simp_all
  simp only [unsignedNumber?, wholePart?_digits n h, fractionPart?_none h, exponentPart?_none h,
    Text.valueOf_digits, hzero, List.isEmpty_nil, Bool.not_true, Bool.or_self, Bool.false_eq_true,
    if_false]

theorem number?_integerDigits (n : Int) {rest : List Char} (h : EndsNumber rest) :
    number? (Text.integerDigits n ++ rest) = some (.integer n, rest) := by
  cases n with
  | negSucc n => exact unsignedNumber?_digits true (n + 1) h fun _ => Nat.succ_ne_zero n
  | ofNat n =>
    show number? (Text.digits n ++ rest) = _
    have hminus : ∀ cs, Text.digits n ++ rest ≠ '-' :: cs := by
      intro cs hcs
      cases hd : Text.digits n with
      | nil => exact Text.digits_ne_nil n hd
      | cons d ds =>
        have hdig : d.isDigit = true := Text.isDigit_of_mem_digits (hd ▸ List.mem_cons_self)
        rw [hd] at hcs
        obtain ⟨rfl, -⟩ := List.cons.inj hcs
        exact absurd hdig (by decide)
    rw [number?]
    · exact unsignedNumber?_digits false n h fun h => nomatch h
    · exact hminus

/-! ## Tokens -/

/-- The character that an integer begins with. -/
theorem head_integerDigits (n : Int) : ∃ c cs, Text.integerDigits n = c :: cs ∧
    (c = '-' ∨ c.isDigit = true) := by
  cases n with
  | negSucc n => exact ⟨'-', Text.digits (n + 1), rfl, .inl rfl⟩
  | ofNat n =>
    cases hd : Text.digits n with
    | nil => exact absurd hd (Text.digits_ne_nil n)
    | cons d ds => exact ⟨d, ds, hd, .inr (Text.isDigit_of_mem_digits (hd ▸ List.mem_cons_self))⟩

theorem scan_number {c : Char} (cs : List Char) (h : c = '-' ∨ c.isDigit = true) :
    Token.scan (c :: cs) = number? (c :: cs) := by
  rw [Token.scan]
  -- each of the other patterns begins with a character that no number begins with
  all_goals intro r hr; obtain ⟨rfl, -⟩ := List.cons.inj hr; exact absurd h (by decide)

/-- A token that is no decimal is taken off the front of a text. -/
theorem scan_text (t : Token) {rest : List Char} (hd : ∀ d, t ≠ .decimal d)
    (hn : ∀ n, t = .integer n → EndsNumber rest) : Token.scan (t.text ++ rest) = some (t, rest) := by
  cases t with
  | integer n =>
    obtain ⟨c, cs, htext, hc⟩ := head_integerDigits n
    have hnum := number?_integerDigits n (hn n rfl)
    show Token.scan (Text.integerDigits n ++ rest) = _
    rw [htext] at hnum ⊢
    rw [List.cons_append, scan_number _ hc]; exact hnum
  | decimal d => exact absurd rfl (hd d)
  | string s =>
    cases s with
    | none =>
      have hhalf : hexUnit? 'd' '8' '0' '0' = some 0xD800 := by decide
      have hbody : stringBody ('\\' :: 'u' :: 'd' :: '8' :: '0' :: '0' :: '"' :: rest) =
          some ([.unit 0xD800], rest) := by
        rw [stringBody, hhalf, stringBody]
      have hchars : pieceChars? [.unit 0xD800] = none := by decide
      show Token.scan ('"' :: '\\' :: 'u' :: 'd' :: '8' :: '0' :: '0' :: '"' :: rest) = _
      simp only [Token.scan, hbody, hchars, Option.map_some, Option.map_none]
    | some s =>
      obtain ⟨pieces, hbody, hchars⟩ := stringBody_escape s.toList rest
      show Token.scan ('"' :: (s.toList.flatMap escape ++ ['"'] ++ rest)) = _
      rw [List.append_assoc, List.singleton_append, Token.scan, hbody]
      simp only [hchars, Option.map_some, String.ofList_toList]
  | bool b => cases b <;> rfl
  | _ => rfl

/-! ## Rows of tokens -/

theorem lex_space {c : Char} (h : isSpace c = true) (rest : List Char) :
    Token.lex (c :: rest) = Token.lex rest := by
  rw [Token.lex, if_pos h]

theorem lex_of_scan {c : Char} {cs rest : List Char} {t : Token} (hc : isSpace c = false)
    (h : Token.scan (c :: cs) = some (t, rest)) :
    Token.lex (c :: cs) = (Token.lex rest).map (t :: ·) := by
  rw [Token.lex, if_neg (by rw [hc]; exact Bool.false_ne_true)]
  split
  · rename_i hnone; rw [h] at hnone; cases hnone
  · rename_i hsome; rw [h] at hsome; cases hsome; rfl

theorem head_text (t : Token) (hd : ∀ d, t ≠ .decimal d) :
    ∃ c cs, t.text = c :: cs ∧ isSpace c = false := by
  cases t with
  | integer n =>
    obtain ⟨c, cs, htext, hc⟩ := head_integerDigits n
    refine ⟨c, cs, htext, ?_⟩
    cases hs : isSpace c with
    | false => rfl
    | true =>
      simp only [isSpace, Bool.or_eq_true, beq_iff_eq] at hs
      rcases hs with ((rfl | rfl) | rfl) | rfl <;> exact absurd hc (by decide)
  | decimal d => exact absurd rfl (hd d)
  | string s => cases s <;> exact ⟨_, _, rfl, rfl⟩
  | bool b => cases b <;> exact ⟨_, _, rfl, rfl⟩
  | _ => exact ⟨_, _, rfl, rfl⟩

/-- Lexing takes off one token that is no decimal and goes on behind it. -/
theorem lex_text (t : Token) {rest : List Char} (hd : ∀ d, t ≠ .decimal d)
    (hn : ∀ n, t = .integer n → EndsNumber rest) :
    Token.lex (t.text ++ rest) = (Token.lex rest).map (t :: ·) := by
  obtain ⟨c, cs, htext, hc⟩ := head_text t hd
  have hscan := scan_text t hd hn
  rw [htext, List.cons_append] at hscan ⊢
  exact lex_of_scan hc hscan

end Rollmark.Json
