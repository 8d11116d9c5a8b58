/-
Page references: a book and a page that are written side by side and with a colon between them name the same
page, whatever white space stands around them. The pages of the basic set behind its characters are moved, and
no two pages are moved to one place.
-/
import Mathlib.Data.List.Basic
import Rollmark.Proofs.Amount
import Rollmark.Proofs.Sheet.LeadingNumber
import Rollmark.Reference

namespace Rollmark.Reference

open Text (Numeral)

/-! ## Two ways to write a page -/

/-- A page as it is written: the letters of a book, the digits of a page, and white space in front of the
book, behind the page, and on either side of what stands between them. -/
structure Citation where
  book : List Char
  page : Numeral
  before : List Char
  between : List Char
  behind : List Char
  ne_nil : book ≠ []
  isAlpha : ∀ c ∈ book, c.isAlpha = true
  isBlank_before : ∀ c ∈ before, Text.isBlank c = true
  isBlank_between : ∀ c ∈ between, Text.isBlank c = true
  isBlank_behind : ∀ c ∈ behind, Text.isBlank c = true

namespace Citation

variable (c : Citation)

/-- The book and the page with something between them, white space around them included. -/
def around (middle : List Char) : List Char :=
  c.before ++ (c.book ++ (middle ++ c.page.chars)) ++ c.behind

/-- The book and the page side by side. -/
def joined : String := String.ofList (c.around c.between)

/-- The book and the page with a colon between them. -/
def divided : String := String.ofList (c.around (c.between ++ ':' :: c.between))

/-! ## Cutting it apart -/

theorem trim_around (middle : List Char) :
    Text.trim (c.around middle) = c.book ++ (middle ++ c.page.chars) := by
  rw [around, Text.trim_append_blanks c.isBlank_behind, Text.trim_blanks_append c.isBlank_before]
  have hstart : ∀ d ∈ (c.book ++ (middle ++ c.page.chars)).head?, Text.isBlank d = false := by
    intro d hd
    rw [List.head?_append_of_ne_nil _ c.ne_nil] at hd
    exact Text.isBlank_of_isAlpha (c.isAlpha d (List.mem_of_mem_head? hd))
  have hend : ∀ d ∈ (c.book ++ (middle ++ c.page.chars)).getLast?, Text.isBlank d = false := by
    intro d hd
    rw [← List.append_assoc, List.getLast?_append_of_ne_nil _ c.page.ne_nil] at hd
    exact Text.isBlank_of_isDigit (c.page.isDigit d (List.mem_of_mem_getLast? hd))
  rw [Text.trim, Text.trimStart_eq_self hstart, Text.trimEnd_eq_self hend]

theorem trim_book : Text.trim (c.book ++ c.between) = c.book := by
  rw [Text.trim_append_blanks c.isBlank_between]
  exact Text.trim_eq_self fun d hd => Text.isBlank_of_isAlpha (c.isAlpha d hd)

theorem leadingNumber?_page :
    leadingNumber? (String.ofList (c.between ++ c.page.chars)) = Amount.ofInt? c.page.value := by
  have hnumber := @leadingNumber?_numeral _ c.isBlank_between c.page [] (by rintro d ⟨⟩)
  rwa [List.append_nil] at hnumber

theorem colon_notMem_front : ':' ∉ c.book ++ c.between := by
  intro h
  rcases List.mem_append.1 h with h | h
  · exact absurd (c.isAlpha ':' h) (by decide)
  · exact absurd (c.isBlank_between ':' h) (by decide)

theorem colon_notMem_page : ':' ∉ c.page.chars := fun h =>
  absurd (c.page.isDigit ':' h) (by decide)

/-- Behind the colon stands the page. -/
theorem bookAndPage_divided :
    bookAndPage (c.around (c.between ++ ':' :: c.between)) = (c.book, Amount.ofInt? c.page.value) := by
  have hfront : ∀ d ∈ c.book ++ c.between, (d != ':') = true := by
    intro d hd
    rw [bne_iff_ne]
    rintro rfl
    exact c.colon_notMem_front hd
  have htrim : Text.trim (c.around (c.between ++ ':' :: c.between)) =
      (c.book ++ c.between) ++ ':' :: (c.between ++ c.page.chars) := by
    rw [c.trim_around]
    simp
  have hcolon : ∀ d ∈ (':' :: (c.between ++ c.page.chars)).head?, (d != ':') = false := by
    rintro d ⟨⟩
    rfl
  obtain ⟨b, bs, hbook⟩ := List.exists_cons_of_ne_nil c.ne_nil
  rw [bookAndPage, htrim]
  simp only [Text.takeWhile_run hfront hcolon, Text.dropWhile_run hfront hcolon]
  rw [hbook, List.cons_append]
  show (Text.trim (b :: (bs ++ c.between)), leadingNumber? (String.ofList (c.between ++ c.page.chars))) = _
  rw [← List.cons_append, ← hbook, c.trim_book, c.leadingNumber?_page]

theorem filter_letters : (c.book ++ (c.between ++ c.page.chars)).filter (fun d => !d.isDigit) =
    c.book ++ c.between := by
  have hkept : ∀ d ∈ c.book ++ c.between, (!d.isDigit) = true := by
    intro d hd
    rw [Bool.not_eq_true']
    rcases List.mem_append.1 hd with hd | hd
    · exact Text.isDigit_of_isAlpha (c.isAlpha d hd)
    · exact Text.isDigit_of_isBlank (c.isBlank_between d hd)
  have hleft : ∀ d ∈ c.page.chars, ¬ (!d.isDigit) = true := by
    intro d hd
    simp [c.page.isDigit d hd]
  rw [← List.append_assoc, List.filter_append, List.filter_eq_self.2 hkept, List.filter_eq_nil_iff.2 hleft,
    List.append_nil]

theorem filter_digits : (c.book ++ (c.between ++ c.page.chars)).filter (fun d => !d.isAlpha) =
    c.between ++ c.page.chars := by
  have hkept : ∀ d ∈ c.between ++ c.page.chars, (!d.isAlpha) = true := by
    intro d hd
    rw [Bool.not_eq_true']
    rcases List.mem_append.1 hd with hd | hd
    · exact Text.isAlpha_of_isBlank (c.isBlank_between d hd)
    · exact Text.isAlpha_of_isDecimalDigit (Text.isDecimalDigit_of_isDigit (c.page.isDigit d hd))
  have hleft : ∀ d ∈ c.book, ¬ (!d.isAlpha) = true := by
    intro d hd
    simp [c.isAlpha d hd]
  rw [List.filter_append, List.filter_eq_nil_iff.2 hleft, List.nil_append, List.filter_eq_self.2 hkept]

/-- Without a colon the letters are the book and the digits are the page. -/
theorem bookAndPage_joined :
    bookAndPage (c.around c.between) = (c.book, Amount.ofInt? c.page.value) := by
  have hplain : ∀ d ∈ c.book ++ (c.between ++ c.page.chars), (d != ':') = true := by
    intro d hd
    rw [bne_iff_ne]
    rintro rfl
    rw [← List.append_assoc, List.mem_append] at hd
    exact hd.elim c.colon_notMem_front c.colon_notMem_page
  rw [bookAndPage, c.trim_around]
  simp only [List.dropWhile_eq_nil_iff.2 hplain, c.filter_letters, c.filter_digits, c.trim_book,
    c.leadingNumber?_page]
  split
  · rename_i heq
    cases heq
  · rfl

end Citation

/-! ## Where a page is found -/

/-- A page of a book with its shop page. -/
def ofPlace (book : String) (page : Option Amount) : Reference :=
  ⟨book, page, (shopPage? book).getD generalPage⟩

section Links

variable {basicSet : BasicSet} {cs book : List Char}

/-- A page of the basic set is moved. -/
theorem ofLink_of_basicSet {p : Amount} (h : bookAndPage cs = (['B'], some p)) :
    ofLink basicSet (String.ofList cs) =
      .ok (ofPlace (basicSetPage basicSet p).1 (some (basicSetPage basicSet p).2)) := by
  rw [ofLink, String.toList_ofList, h]
  rfl

/-- Every other book stays as it is, and so does the basic set without a page. -/
theorem ofLink_of_other {page : Option Amount} (h : bookAndPage cs = (book, page)) (hne : book ≠ [])
    (hother : book = ['B'] → page = none) :
    ofLink basicSet (String.ofList cs) = .ok (ofPlace (String.ofList book) page) := by
  have hsome : book.isEmpty = false := List.isEmpty_eq_false_iff.2 hne
  rw [ofLink, String.toList_ofList, h]
  simp only [hsome, Bool.false_eq_true, if_false]
  split
  · rename_i p hbook
    have hB : book = ['B'] := by
      rw [← String.toList_ofList (l := book), hbook]
      rfl
    cases hother hB
  · rfl

end Links

/-- Where a page of a book is found, in whole numbers. The pages of the basic set behind its characters are
moved, in the one file by two pages, or to a file of their own that begins with page two. All other pages are
where they are written, and a page beyond the amounts is left out. Nothing is said of the last two amounts as
pages of the basic set, as the one file has no amounts left for them. -/
structure Located (basicSet : BasicSet) (book : String) (page : Nat) (r : Reference) : Prop where
  url : r.url = (shopPage? r.book).getD generalPage
  plain : book ≠ "B" ∨ page ≤ 336 → page ≤ 2147483647 → r.book = book ∧ r.page.map (·.val) = some (page : Int)
  beyond : 2147483647 < page → r.book = book ∧ r.page = none
  combined : book = "B" → 336 < page → page ≤ 2147483645 → basicSet = .combined →
    r.book = "B" ∧ r.page.map (·.val) = some (page + 2 : Int)
  separate : book = "B" → 336 < page → page ≤ 2147483645 → basicSet = .separate →
    r.book = "BX" ∧ r.page.map (·.val) = some (page - 335 : Int)

section Places

variable {basicSet : BasicSet} {book : String} {page : Nat}

theorem located_alone (h : 2147483647 < page) : Located basicSet book page (ofPlace book none) := by
  refine ⟨rfl, fun _ hpage => ?_, fun _ => ⟨rfl, rfl⟩, fun _ _ hpage _ => ?_, fun _ _ hpage _ => ?_⟩
  all_goals omega

theorem located_unmoved {p : Amount} (hp : p.val = page) (h : book ≠ "B" ∨ page ≤ 336) :
    Located basicSet book page (ofPlace book (some p)) := by
  have hupper := p.upper
  refine ⟨rfl, fun _ _ => ⟨rfl, congrArg some hp⟩, fun hpage => by omega, fun hbook hpage => ?_,
    fun hbook hpage => ?_⟩
  all_goals
    rcases h with h | h
    · exact absurd hbook h
    · omega

theorem located_moved {p : Amount} (hp : p.val = page) (h : 336 < page) :
    Located basicSet "B" page (ofPlace (basicSetPage basicSet p).1 (some (basicSetPage basicSet p).2)) := by
  have hupper := p.upper
  have hbehind : ¬ p ≤ lastCharacterPage := by
    show ¬ p.val ≤ 336
    omega
  unfold basicSetPage
  rw [if_neg hbehind]
  refine ⟨rfl, fun hplain => ?_, fun hpage => by omega, ?_, ?_⟩
  · rcases hplain with hplain | hplain
    · exact absurd rfl hplain
    · omega
  · rintro - - hpage rfl
    have hnext : (p + 2).val = page + 2 := by
      rw [← hp]
      exact Amount.val_add (by show _ ≤ p.val + 2; omega) (by show p.val + 2 ≤ _; omega)
    exact ⟨rfl, congrArg some hnext⟩
  · rintro - - hpage rfl
    have hback : (p - (lastCharacterPage - 1)).val = page - 335 := by
      rw [← hp, Amount.val_sub]
      show max (-2147483648) (min (p.val - 335) 2147483647) = p.val - 335
      omega
    exact ⟨rfl, congrArg some hback⟩

/-- All links that name a page of a book refer to the place where this page is found. -/
theorem exists_located (basicSet : BasicSet) {chars : List Char} (hne : chars ≠ []) (page : Nat) :
    ∃ r, Located basicSet (String.ofList chars) page r ∧
      ∀ cs, bookAndPage cs = (chars, Amount.ofInt? page) → ofLink basicSet (String.ofList cs) = .ok r := by
  by_cases hpage : 2147483647 < page
  · have hnone : Amount.ofInt? page = none := dif_neg (by omega)
    rw [hnone]
    exact ⟨_, located_alone hpage, fun cs h => ofLink_of_other h hne fun _ => rfl⟩
  · have hfits : Amount.Fits page := ⟨by omega, by omega⟩
    rw [hfits.ofInt?_eq]
    by_cases hbook : chars = ['B']
    · subst hbook
      refine ⟨_, ?_, fun cs h => ofLink_of_basicSet h⟩
      by_cases hbehind : 336 < page
      · exact located_moved hfits.val_clamp hbehind
      · have hfront : basicSetPage basicSet (.clamp page) = ("B", .clamp page) := by
          refine if_pos ?_
          show (Amount.clamp page).val ≤ 336
          rw [hfits.val_clamp]
          omega
        rw [hfront]
        exact located_unmoved hfits.val_clamp (.inr (by omega))
    · have hother : String.ofList chars ≠ "B" := by
        intro heq
        have hchars := congrArg String.toList heq
        rw [String.toList_ofList] at hchars
        exact hbook hchars
      exact ⟨_, located_unmoved hfits.val_clamp (.inl hother), fun cs h =>
        ofLink_of_other h hne fun heq => absurd heq hbook⟩

/-- Where the pages of the basic set are found: at their own places, in the one file, or in the second one. -/
theorem Located.cases {r : Reference} (h : Located basicSet "B" page r) (hpage : page ≤ 2147483645) :
    (page ≤ 336 ∧ r.book = "B" ∧ r.page.map (·.val) = some (page : Int)) ∨
    (336 < page ∧ basicSet = .combined ∧ r.book = "B" ∧ r.page.map (·.val) = some (page + 2 : Int)) ∨
    (336 < page ∧ basicSet = .separate ∧ r.book = "BX" ∧ r.page.map (·.val) = some (page - 335 : Int)) := by
  rcases Nat.lt_or_ge 336 page with hbehind | hfront
  · right
    cases basicSet with
    | combined => exact .inl ⟨hbehind, rfl, h.combined rfl hbehind hpage rfl⟩
    | separate => exact .inr ⟨hbehind, rfl, h.separate rfl hbehind hpage rfl⟩
  · exact .inl ⟨hfront, h.plain (.inr hfront) (by omega)⟩

/-- No two pages of the basic set are found in one place. -/
theorem Located.page_eq {page' : Nat} {r : Reference} (h : Located basicSet "B" page r)
    (h' : Located basicSet "B" page' r) (hpage : page ≤ 2147483645) (hpage' : page' ≤ 2147483645) :
    page = page' := by
  rcases h.cases hpage with ⟨hle, hbook, hr⟩ | ⟨hlt, hset, hbook, hr⟩ | ⟨hlt, hset, hbook, hr⟩ <;>
  rcases h'.cases hpage' with ⟨hle', hbook', hr'⟩ | ⟨hlt', hset', hbook', hr'⟩ | ⟨hlt', hset', hbook', hr'⟩ <;>
  rw [hbook] at hbook' <;> rw [hr, Option.some.injEq] at hr'
  all_goals first | omega | exact absurd hbook' (by decide)

end Places

end Rollmark.Reference
