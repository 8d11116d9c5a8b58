/-
JSON reads back what it writes. Both written forms of a value, the compact one and the indented
one, are read as that value again, unless a decimal stands somewhere in it.
-/
import Rollmark.Json.Printer
import Rollmark.Json.Reader
import Rollmark.Proofs.Json.Token

namespace Rollmark.Json

/-! ## Values from tokens -/

section Reading

variable {frames : List Frame}

theorem run_cons {r r' : Reading} {t : Token} (h : r.step t = some r') (ts : List Token) :
    Reading.run r (t :: ts) = Reading.run r' ts := by
  rw [Reading.run, h]

theorem object?_some (members : List (String × Json)) :
    object? ((members.map fun m => (some m.1, m.2)).reverse) = .object members := by
  have h : (members.map fun m => ((some m.1, m.2) : Option String × Json)).mapM
      (fun m => m.1.map (·, m.2)) = some members := by
    induction members with
    | nil => rfl
    | cons m ms ih => rw [List.map_cons, List.mapM_cons, ih]; rfl
  rw [object?, List.reverse_reverse, h]

/-- A value never begins with the end of an array, so it may stand where an item or the end is
expected. -/
theorem run_itemOrEnd (v : Json) (ts : List Token) :
    Reading.run ⟨.array [] :: frames, .itemOrEnd⟩ (v.tokens ++ ts) =
      Reading.run ⟨.array [] :: frames, .value⟩ (v.tokens ++ ts) := by
  cases v with
  | array items => cases items <;> rw [tokens] <;> rfl
  | object members => rcases members with _ | ⟨⟨name, v⟩, rest⟩ <;> rw [tokens] <;> rfl
  | _ => rw [tokens]; rfl

mutual
/-- The tokens of a value are read as that value, whatever stands around it. -/
theorem run_tokens (frames : List Frame) : ∀ (v : Json) (ts : List Token),
    Reading.run ⟨frames, .value⟩ (v.tokens ++ ts) = Reading.run ⟨frames, .commaOrEnd v⟩ ts
  | .null, ts => by rw [tokens]; rfl
  | .bool b, ts => by rw [tokens]; rfl
  | .integer n, ts => by rw [tokens]; rfl
  | .decimal d, ts => by rw [tokens]; rfl
  | .string s, ts => by rw [tokens]; rfl
  | .unreadable, ts => by rw [tokens]; rfl
  | .array [], ts => by rw [tokens]; rfl
  | .array (v :: rest), ts => by
    rw [tokens, List.cons_append, List.append_assoc,
      run_cons (show Reading.step _ _ = some ⟨.array [] :: frames, .itemOrEnd⟩ from rfl),
      run_itemOrEnd, run_tokens _ v]
    exact run_itemsTokens frames rest [] v ts
  | .object [], ts => by rw [tokens]; rfl
  | .object ((name, v) :: rest), ts => by
    rw [tokens, List.cons_append, List.cons_append, List.cons_append, List.append_assoc,
      run_cons (show Reading.step _ _ = some ⟨frames, .nameOrEnd⟩ from rfl),
      run_cons (show Reading.step _ _ = some ⟨frames, .colon [] (some name)⟩ from rfl),
      run_cons (show Reading.step _ _ = some ⟨.object [] (some name) :: frames, .value⟩ from rfl),
      run_tokens _ v]
    exact run_membersTokens frames rest [] name v ts
/-- The items behind the one that was just read, and the end of their array. -/
theorem run_itemsTokens (frames : List Frame) : ∀ (rest items : List Json) (v : Json)
    (ts : List Token),
    Reading.run ⟨.array items.reverse :: frames, .commaOrEnd v⟩ (itemsTokens rest ++ ts) =
      Reading.run ⟨frames, .commaOrEnd (.array (items ++ v :: rest))⟩ ts
  | [], items, v, ts => by
    rw [itemsTokens]
    show Reading.run ⟨frames, .commaOrEnd (.array (v :: items.reverse).reverse)⟩ ts = _
    rw [List.reverse_cons, List.reverse_reverse]
  | w :: rest, items, v, ts => by
    rw [itemsTokens, List.cons_append, List.append_assoc,
      run_cons (show Reading.step _ _ = some ⟨.array (v :: items.reverse) :: frames, .value⟩ from rfl),
      run_tokens _ w, ← List.reverse_concat, run_itemsTokens frames rest (items ++ [v]) w ts,
      List.append_assoc]
    rfl
/-- The members behind the one that was just read, and the end of their object. -/
theorem run_membersTokens (frames : List Frame) : ∀ (rest members : List (String × Json))
    (name : String) (v : Json) (ts : List Token),
    Reading.run ⟨.object ((members.map fun m => (some m.1, m.2)).reverse) (some name) :: frames,
      .commaOrEnd v⟩ (membersTokens rest ++ ts) =
      Reading.run ⟨frames, .commaOrEnd (.object (members ++ (name, v) :: rest))⟩ ts
  | [], members, name, v, ts => by
    rw [membersTokens, ← object?_some, List.map_append, List.reverse_append]
    rfl
  | (name', w) :: rest, members, name, v, ts => by
    have ih := run_membersTokens frames rest (members ++ [(name, v)]) name' w ts
    rw [List.map_append, List.reverse_append, List.append_assoc] at ih
    rw [membersTokens, List.cons_append, List.cons_append, List.cons_append, List.append_assoc,
      run_cons (show Reading.step _ _ = some ⟨frames, .name ((some name, v) :: _)⟩ from rfl),
      run_cons (show Reading.step _ _ = some ⟨frames, .colon _ (some name')⟩ from rfl),
      run_cons (show Reading.step _ _ = some ⟨.object _ (some name') :: frames, .value⟩ from rfl),
      run_tokens _ w]
    exact ih
end

/-- The tokens of a value are read as that value. -/
theorem ofTokens?_tokens (v : Json) : ofTokens? v.tokens = some v := by
  have h := run_tokens [] v []
  rw [List.append_nil] at h
  rw [ofTokens?, h]; rfl

end Reading

/-! ## Tokens from texts -/

/-- A part that is no decimal. -/
def isWhole : Json → Bool
  | .decimal _ => false
  | _ => true

/-- What follows a value inside another one does not go on with a number. -/
theorem endsNumber_cons {c : Char} (rest : List Char) (h : c = ',' ∨ c = ']' ∨ c = '\x7d' ∨ c = '\n') :
    EndsNumber (c :: rest) := by
  rintro d ⟨⟩
  rcases h with rfl | rfl | rfl | rfl <;> decide

/-- A token that ends wherever it stands. -/
def Token.isMark : Token → Bool
  | .integer _ | .decimal _ => false
  | _ => true

theorem lex_mark (t : Token) (h : t.isMark = true) (rest : List Char) :
    Token.lex (t.text ++ rest) = (Token.lex rest).map (t :: ·) :=
  lex_text t (by rintro d rfl; cases h) (by rintro n rfl; cases h)

theorem endsNumber_itemsTokens (vs : List Json) (rest : List Char) :
    EndsNumber ((itemsTokens vs).flatMap Token.text ++ rest) := by
  cases vs <;> rw [itemsTokens] <;> exact endsNumber_cons _ (by simp)

theorem endsNumber_membersTokens (ms : List (String × Json)) (rest : List Char) :
    EndsNumber ((membersTokens ms).flatMap Token.text ++ rest) := by
  rcases ms with _ | ⟨⟨name, v⟩, ms⟩ <;> rw [membersTokens] <;> exact endsNumber_cons _ (by simp)

mutual
/-- The compact text of a value without decimals lexes to its tokens. -/
theorem lex_tokens : ∀ (v : Json) {rest : List Char}, v.all isWhole = true → EndsNumber rest →
    Token.lex (v.tokens.flatMap Token.text ++ rest) = (Token.lex rest).map (v.tokens ++ ·)
  | .null, rest, _, _ => by
    rw [tokens, List.flatMap_singleton]; exact lex_mark _ rfl rest
  | .bool b, rest, _, _ => by
    rw [tokens, List.flatMap_singleton]; exact lex_mark _ rfl rest
  | .integer n, rest, _, hr => by
    rw [tokens, List.flatMap_singleton]; exact lex_text _ nofun fun _ _ => hr
  | .decimal d, _, hw, _ => nomatch hw
  | .string s, rest, _, _ => by
    rw [tokens, List.flatMap_singleton]; exact lex_mark _ rfl rest
  | .unreadable, rest, _, _ => by
    rw [tokens, List.flatMap_singleton]; exact lex_mark _ rfl rest
  | .array [], rest, _, _ => by
    rw [tokens]
    show Token.lex (Token.openArray.text ++ (Token.closeArray.text ++ rest)) = _
    rw [lex_mark .openArray rfl, lex_mark .closeArray rfl, Option.map_map]; rfl
  | .array (v :: vs), rest, hw, hr => by
    rw [all, allItems, Bool.and_eq_true] at hw
    rw [tokens, List.flatMap_cons, List.flatMap_append, List.append_assoc, List.append_assoc,
      lex_mark .openArray rfl, lex_tokens v hw.1 (endsNumber_itemsTokens vs rest),
      lex_itemsTokens vs hw.2 hr]
    simp only [Option.map_map, Function.comp_def, List.append_assoc, List.cons_append]
  | .object [], rest, _, _ => by
    rw [tokens]
    show Token.lex (Token.openObject.text ++ (Token.closeObject.text ++ rest)) = _
    rw [lex_mark .openObject rfl, lex_mark .closeObject rfl, Option.map_map]; rfl
  | .object ((name, v) :: ms), rest, hw, hr => by
    rw [all, allMembers, Bool.and_eq_true] at hw
    rw [tokens, List.flatMap_cons, List.flatMap_cons, List.flatMap_cons, List.flatMap_append,
      List.append_assoc, List.append_assoc, List.append_assoc, List.append_assoc,
      lex_mark .openObject rfl, lex_mark (.string (some name)) rfl, lex_mark .colon rfl,
      lex_tokens v hw.1 (endsNumber_membersTokens ms rest), lex_membersTokens ms hw.2 hr]
    simp only [Option.map_map, Function.comp_def, List.append_assoc, List.cons_append]
theorem lex_itemsTokens : ∀ (vs : List Json) {rest : List Char}, allItems isWhole vs = true →
    EndsNumber rest → Token.lex ((itemsTokens vs).flatMap Token.text ++ rest) =
      (Token.lex rest).map (itemsTokens vs ++ ·)
  | [], rest, _, _ => by
    rw [itemsTokens, List.flatMap_singleton]; exact lex_mark _ rfl rest
  | v :: vs, rest, hw, hr => by
    rw [allItems, Bool.and_eq_true] at hw
    rw [itemsTokens, List.flatMap_cons, List.flatMap_append, List.append_assoc, List.append_assoc,
      lex_mark .comma rfl, lex_tokens v hw.1 (endsNumber_itemsTokens vs rest),
      lex_itemsTokens vs hw.2 hr]
    simp only [Option.map_map, Function.comp_def, List.append_assoc, List.cons_append]
theorem lex_membersTokens : ∀ (ms : List (String × Json)) {rest : List Char},
    allMembers isWhole ms = true → EndsNumber rest →
    Token.lex ((membersTokens ms).flatMap Token.text ++ rest) =
      (Token.lex rest).map (membersTokens ms ++ ·)
  | [], rest, _, _ => by
    rw [membersTokens, List.flatMap_singleton]; exact lex_mark _ rfl rest
  | (name, v) :: ms, rest, hw, hr => by
    rw [allMembers, Bool.and_eq_true] at hw
    rw [membersTokens, List.flatMap_cons, List.flatMap_cons, List.flatMap_cons,
      List.flatMap_append, List.append_assoc, List.append_assoc, List.append_assoc,
      List.append_assoc, lex_mark .comma rfl, lex_mark (.string (some name)) rfl,
      lex_mark .colon rfl, lex_tokens v hw.1 (endsNumber_membersTokens ms rest), lex_membersTokens ms hw.2 hr]
    simp only [Option.map_map, Function.comp_def, List.append_assoc, List.cons_append]
end

/-- The compact text of a value without decimals is read as that value. -/
theorem parse?_compact (v : Json) (h : v.all isWhole = true) : parse? v.compact = some v := by
  have hl := @lex_tokens v [] h nofun
  rw [List.append_nil, Token.lex, Option.map_some, List.append_nil] at hl
  rw [parse?, compact, String.toList_ofList, hl]
  exact ofTokens?_tokens v

/-! ## Tokens from indented texts -/

theorem lex_blanks (n : Nat) (rest : List Char) :
    Token.lex (List.replicate n ' ' ++ rest) = Token.lex rest := by
  induction n with
  | zero => rfl
  | succ n ih => rw [List.replicate_succ, List.cons_append, lex_space rfl, ih]

theorem lex_line (n : Nat) (rest : List Char) :
    Token.lex ((Mark.line n).text ++ rest) = Token.lex rest := by
  rw [Mark.text, List.cons_append, lex_space rfl, lex_blanks]

theorem lex_markToken (t : Token) (h : t.isMark = true) (rest : List Char) :
    Token.lex ((Mark.token t).text ++ rest) = (Token.lex rest).map (t :: ·) :=
  lex_mark t h rest

theorem flatMap_markTokens (ts : List Token) :
    (ts.map Mark.token).flatMap Mark.text = ts.flatMap Token.text := by
  rw [List.flatMap_map]; rfl

theorem endsNumber_itemsLayout (n : Nat) (vs : List Json) (rest : List Char) :
    EndsNumber ((itemsLayout n vs).flatMap Mark.text ++ rest) := by
  cases vs <;> rw [itemsLayout] <;> exact endsNumber_cons _ (by simp)

theorem endsNumber_membersLayout (n : Nat) (ms : List (String × Json)) (rest : List Char) :
    EndsNumber ((membersLayout n ms).flatMap Mark.text ++ rest) := by
  rcases ms with _ | ⟨⟨name, v⟩, ms⟩ <;> rw [membersLayout] <;> exact endsNumber_cons _ (by simp)

/-- A value that is laid out on one line. -/
theorem lex_flat {n : Nat} {v : Json} (hflat : layout n v = v.tokens.map .token) {rest : List Char}
    (hw : v.all isWhole = true) (hr : EndsNumber rest) :
    Token.lex ((layout n v).flatMap Mark.text ++ rest) = (Token.lex rest).map (v.tokens ++ ·) := by
  rw [hflat, flatMap_markTokens]; exact lex_tokens v hw hr

mutual
/-- The indented text of a value without decimals lexes to its tokens. -/
theorem lex_layout (n : Nat) : ∀ (v : Json) {rest : List Char}, v.all isWhole = true →
    EndsNumber rest →
    Token.lex ((layout n v).flatMap Mark.text ++ rest) = (Token.lex rest).map (v.tokens ++ ·)
  | .null, _, hw, hr => lex_flat rfl hw hr
  | .bool _, _, hw, hr => lex_flat rfl hw hr
  | .integer _, _, hw, hr => lex_flat rfl hw hr
  | .decimal _, _, hw, hr => lex_flat rfl hw hr
  | .string _, _, hw, hr => lex_flat rfl hw hr
  | .unreadable, _, hw, hr => lex_flat rfl hw hr
  | .array [], _, hw, hr => lex_flat rfl hw hr
  | .object [], _, hw, hr => lex_flat rfl hw hr
  | .array (v :: vs), rest, hw, hr => by
    rw [all, allItems, Bool.and_eq_true] at hw
    rw [layout]
    simp only [List.flatMap_cons, List.flatMap_append, List.append_assoc]
    rw [lex_markToken .openArray rfl, lex_line,
      lex_layout (n + 1) v hw.1 (endsNumber_itemsLayout n vs rest), lex_itemsLayout n vs hw.2 hr]
    simp only [tokens, Option.map_map, Function.comp_def, List.append_assoc, List.cons_append]
  | .object ((name, v) :: ms), rest, hw, hr => by
    rw [all, allMembers, Bool.and_eq_true] at hw
    rw [layout]
    simp only [List.flatMap_cons, List.flatMap_append, List.append_assoc]
    rw [lex_markToken .openObject rfl, lex_line, lex_markToken (.string (some name)) rfl,
      lex_markToken .colon rfl, Mark.text, List.singleton_append, lex_space rfl,
      lex_layout (n + 1) v hw.1 (endsNumber_membersLayout n ms rest),
      lex_membersLayout n ms hw.2 hr]
    simp only [tokens, Option.map_map, Function.comp_def, List.append_assoc, List.cons_append]
theorem lex_itemsLayout (n : Nat) : ∀ (vs : List Json) {rest : List Char},
    allItems isWhole vs = true → EndsNumber rest →
    Token.lex ((itemsLayout n vs).flatMap Mark.text ++ rest) =
      (Token.lex rest).map (itemsTokens vs ++ ·)
  | [], rest, _, _ => by
    rw [itemsLayout, List.flatMap_cons, List.append_assoc, lex_line, List.flatMap_singleton,
      lex_markToken .closeArray rfl]
    rfl
  | v :: vs, rest, hw, hr => by
    rw [allItems, Bool.and_eq_true] at hw
    rw [itemsLayout]
    simp only [List.flatMap_cons, List.flatMap_append, List.append_assoc]
    rw [lex_markToken .comma rfl, lex_line,
      lex_layout (n + 1) v hw.1 (endsNumber_itemsLayout n vs rest), lex_itemsLayout n vs hw.2 hr]
    simp only [itemsTokens, Option.map_map, Function.comp_def, List.append_assoc, List.cons_append]
theorem lex_membersLayout (n : Nat) : ∀ (ms : List (String × Json)) {rest : List Char},
    allMembers isWhole ms = true → EndsNumber rest →
    Token.lex ((membersLayout n ms).flatMap Mark.text ++ rest) =
      (Token.lex rest).map (membersTokens ms ++ ·)
  | [], rest, _, _ => by
    rw [membersLayout, List.flatMap_cons, List.append_assoc, lex_line, List.flatMap_singleton,
      lex_markToken .closeObject rfl]
    rfl
  | (name, v) :: ms, rest, hw, hr => by
    rw [allMembers, Bool.and_eq_true] at hw
    rw [membersLayout]
    simp only [List.flatMap_cons, List.flatMap_append, List.append_assoc]
    rw [lex_markToken .comma rfl, lex_line, lex_markToken (.string (some name)) rfl,
      lex_markToken .colon rfl, Mark.text, List.singleton_append, lex_space rfl,
      lex_layout (n + 1) v hw.1 (endsNumber_membersLayout n ms rest),
      lex_membersLayout n ms hw.2 hr]
    simp only [membersTokens, Option.map_map, Function.comp_def, List.append_assoc,
      List.cons_append]
end

/-- The indented text of a value without decimals is read as that value. -/
theorem parse?_pretty (v : Json) (h : v.all isWhole = true) : parse? v.pretty = some v := by
  have hl := @lex_layout 0 v [] h nofun
  rw [List.append_nil, Token.lex, Option.map_some, List.append_nil] at hl
  rw [parse?, pretty, String.toList_ofList, hl]
  exact ofTokens?_tokens v

/-! ## Files -/

/-- The indented text of an object begins with a brace. -/
theorem pretty_object (ms : List (String × Json)) :
    ∃ cs, (Json.object ms).pretty = String.ofList ('\x7b' :: cs) := by
  rcases ms with _ | ⟨⟨name, v⟩, ms⟩ <;> exact ⟨_, rfl⟩

/-- A file with the indented text of an object is read as that text. -/
theorem ofFile?_pretty (ms : List (String × Json)) :
    Text.ofFile? (Text.utf8Bytes (Json.object ms).pretty) = some (Json.object ms).pretty := by
  obtain ⟨cs, hcs⟩ := pretty_object ms
  rw [hcs]
  exact Text.ofFile?_utf8Bytes (by decide) (by decide) cs

end Rollmark.Json
