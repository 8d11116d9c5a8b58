/-
Linking, said without a search: every text splits in exactly one way at its innermost pairs of
brackets, the pairs without a bracket between them, and linking puts the shown span in the place of
each of them and leaves everything else as it is.
-/
import Mathlib.Data.List.Basic
import Rollmark.Proofs.Text.Scan
import Rollmark.Span.Link

namespace Rollmark.Span

/-! ## Pairs of brackets -/

/-- A content between brackets. -/
def bracketed (content : List Char) : List Char := '[' :: (content ++ [']'])

theorem bracketed_append (content rest : List Char) :
    bracketed content ++ rest = '[' :: (content ++ ']' :: rest) := by
  simp [bracketed]

theorem length_bracketed_append (content rest : List Char) :
    (bracketed content ++ rest).length = content.length + rest.length + 2 := by
  simp [bracketed]; omega

/-- Without brackets of either kind. -/
def BracketFree (cs : List Char) : Prop := '[' ∉ cs ∧ ']' ∉ cs

/-- Without an innermost pair. -/
def PairFree (cs : List Char) : Prop :=
  ∀ before content after, BracketFree content → cs ≠ before ++ (bracketed content ++ after)

/-- Behind its last opening bracket a text without pairs has no closing one. -/
theorem pairFree_append {cs ds : List Char} (hcs : '[' ∉ cs) (hds : ']' ∉ ds) : PairFree (cs ++ ds) := by
  intro before content after _ h
  rw [bracketed_append] at h
  obtain ⟨between, -, rfl⟩ := Text.append_eq_append_cons hcs h
  simp at hds

theorem pairFree_of_notMem {cs : List Char} (h : '[' ∉ cs) : PairFree cs := by
  simpa using pairFree_append h List.not_mem_nil

/-- A pair with a bracket-free content at the beginning: the next pair is the same one, or it begins
behind the end of this one. -/
theorem bracketed_append_eq {content rest before content' rest' : List Char}
    (hfree : BracketFree content) (hfree' : BracketFree content')
    (h : bracketed content ++ rest = before ++ (bracketed content' ++ rest')) :
    (before = [] ∧ content = content' ∧ rest = rest') ∨
      ∃ between, before = bracketed content ++ between ∧
        rest = between ++ (bracketed content' ++ rest') := by
  rw [bracketed_append, bracketed_append] at h
  cases before with
  | nil =>
    left
    rw [List.nil_append, List.cons.injEq] at h
    obtain ⟨between, rfl, hrest⟩ := Text.append_eq_append_cons hfree.2 h.2
    cases between with
    | nil => simpa using hrest
    | cons d between =>
      obtain ⟨rfl, -⟩ := List.cons.inj hrest
      exact absurd hfree'.2 (by simp)
  | cons d before =>
    right
    obtain ⟨rfl, hbehind⟩ := List.cons.inj h
    obtain ⟨between, rfl, hrest⟩ := Text.append_eq_append_cons hfree.1 hbehind
    cases between with
    | nil => cases hrest
    | cons e between =>
      obtain ⟨rfl, hrest'⟩ := List.cons.inj hrest
      exact ⟨between, (bracketed_append content between).symm, by rw [bracketed_append]; exact hrest'⟩

/-- Two innermost pairs of one text are the same, or one ends before the other begins. -/
theorem pairs_apart {before content after before' content' after' : List Char}
    (hfree : BracketFree content) (hfree' : BracketFree content')
    (h : before ++ (bracketed content ++ after) = before' ++ (bracketed content' ++ after')) :
    (before = before' ∧ content = content' ∧ after = after') ∨
      (∃ between, before' = before ++ (bracketed content ++ between) ∧
        after = between ++ (bracketed content' ++ after')) ∨
      ∃ between, before = before' ++ (bracketed content' ++ between) ∧
        after' = between ++ (bracketed content ++ after) := by
  rcases List.append_eq_append_iff.1 h with ⟨gap, rfl, hrest⟩ | ⟨gap, rfl, hrest⟩
  · rcases bracketed_append_eq hfree hfree' hrest with ⟨rfl, rfl, rfl⟩ | ⟨between, rfl, rfl⟩
    · exact .inl ⟨(List.append_nil before).symm, rfl, rfl⟩
    · exact .inr (.inl ⟨between, rfl, rfl⟩)
  · rcases bracketed_append_eq hfree' hfree hrest with ⟨rfl, rfl, rfl⟩ | ⟨between, rfl, rfl⟩
    · exact .inl ⟨List.append_nil before', rfl, rfl⟩
    · exact .inr (.inr ⟨between, rfl, rfl⟩)

/-! ## Splitting a text -/

/-- A text taken apart: the contents of pairs, each with the text before its pair, and the text
behind the last pair. -/
structure Split where
  pairs : List (List Char × List Char)
  last : List Char

namespace Split

/-- The text with something in the place of each pair. -/
def fill (shown : List Char → List Char) (s : Split) : List Char :=
  s.pairs.flatMap (fun p => p.1 ++ shown p.2) ++ s.last

theorem fill_cons (shown : List Char → List Char) (text content : List Char)
    (pairs : List (List Char × List Char)) (last : List Char) :
    fill shown ⟨(text, content) :: pairs, last⟩ =
      text ++ (shown content ++ fill shown ⟨pairs, last⟩) := by
  simp [fill]

/-- The split of a text at its innermost pairs: the text is there in full, nothing between the
brackets of a pair is a bracket, and every such pair of the text, at its place, is one of the
pairs. -/
structure Innermost (s : Split) (cs : List Char) : Prop where
  whole : s.fill bracketed = cs
  bracketFree : ∀ p ∈ s.pairs, BracketFree p.2
  complete : ∀ before content after, BracketFree content → cs = before ++ (bracketed content ++ after) →
    ∃ earlier text later, s.pairs = earlier ++ (text, content) :: later ∧
      before = fill bracketed ⟨earlier, text⟩

/-! ### Building a split -/

theorem innermost_nil {cs : List Char} (h : PairFree cs) : Innermost ⟨[], cs⟩ cs where
  whole := rfl
  bracketFree := nofun
  complete before content after hfree hcs := absurd hcs (h before content after hfree)

/-- One more pair in front, behind a text without pairs. -/
theorem Innermost.cons {s : Split} {text content rest : List Char} (htext : PairFree text)
    (hcontent : BracketFree content) (h : s.Innermost rest) :
    Innermost ⟨(text, content) :: s.pairs, s.last⟩ (text ++ (bracketed content ++ rest)) where
  whole := by rw [fill_cons]; exact congrArg (fun rest => text ++ (bracketed content ++ rest)) h.whole
  bracketFree := by
    intro p hp
    rcases List.mem_cons.1 hp with rfl | hp
    · exact hcontent
    · exact h.bracketFree p hp
  complete := by
    intro before content' after hfree hcs
    rcases pairs_apart hcontent hfree hcs with ⟨rfl, rfl, rfl⟩ | ⟨between, rfl, hrest⟩ | ⟨between, rfl, -⟩
    · exact ⟨[], text, s.pairs, rfl, rfl⟩
    · obtain ⟨earlier, text', later, hpairs, rfl⟩ := h.complete between content' after hfree hrest
      exact ⟨(text, content) :: earlier, text', later, by rw [hpairs]; rfl, by rw [fill_cons]⟩
    · exact absurd rfl (htext before content' between hfree)

/-! ### Taking a split apart -/

/-- An innermost pair is the first pair of the split, or it stands behind that one. -/
theorem Innermost.place {text content : List Char} {pairs : List (List Char × List Char)}
    {last cs before content' after : List Char} (h : Innermost ⟨(text, content) :: pairs, last⟩ cs)
    (hfree : BracketFree content') (hcs : cs = before ++ (bracketed content' ++ after)) :
    before = text ∨ ∃ earlier text' later, pairs = earlier ++ (text', content') :: later ∧
      before = text ++ (bracketed content ++ fill bracketed ⟨earlier, text'⟩) := by
  obtain ⟨earlier, text', later, hpairs, rfl⟩ := h.complete before content' after hfree hcs
  cases earlier with
  | nil =>
    obtain ⟨hfirst, -⟩ := List.cons.inj hpairs
    cases hfirst
    exact .inl rfl
  | cons p earlier =>
    obtain ⟨rfl, hrest⟩ := List.cons.inj hpairs
    exact .inr ⟨earlier, text', later, hrest, fill_cons ..⟩

theorem Innermost.pairFree_last {last cs : List Char} (h : Innermost ⟨[], last⟩ cs) : PairFree cs := by
  intro before content after hfree hcs
  obtain ⟨earlier, text, later, hpairs, -⟩ := h.complete before content after hfree hcs
  simp at hpairs

theorem Innermost.pairFree_first {text content : List Char} {pairs : List (List Char × List Char)}
    {last cs : List Char} (h : Innermost ⟨(text, content) :: pairs, last⟩ cs) : PairFree text := by
  rintro before content' after hfree rfl
  have hwhole := h.whole
  rw [fill_cons, List.append_assoc, List.append_assoc] at hwhole
  -- a pair in the first text would stand at another place than the first pair or a later one
  rcases h.place hfree hwhole.symm with hbefore | ⟨earlier, text', later, -, hbefore⟩
  · have := congrArg List.length hbefore
    rw [List.length_append, length_bracketed_append] at this
    omega
  · have := congrArg List.length hbefore
    rw [List.length_append, List.length_append, length_bracketed_append] at this
    omega

theorem Innermost.tail {text content : List Char} {pairs : List (List Char × List Char)}
    {last cs : List Char} (h : Innermost ⟨(text, content) :: pairs, last⟩ cs) :
    Innermost ⟨pairs, last⟩ (fill bracketed ⟨pairs, last⟩) where
  whole := rfl
  bracketFree p hp := h.bracketFree p (List.mem_cons_of_mem _ hp)
  complete := by
    intro before content' after hfree hrest
    have hwhole := h.whole
    rw [fill_cons, hrest, ← List.append_assoc, ← List.append_assoc] at hwhole
    rcases h.place hfree hwhole.symm with hbefore | ⟨earlier, text', later, hpairs, hbefore⟩
    · have := congrArg List.length hbefore
      rw [List.append_assoc, List.length_append, length_bracketed_append] at this
      omega
    · rw [List.append_assoc] at hbefore
      exact ⟨earlier, text', later, hpairs,
        List.append_cancel_left (List.append_cancel_left hbefore)⟩

/-- A text has no two splits at its innermost pairs. -/
theorem Innermost.unique {s s' : Split} {cs : List Char} (h : s.Innermost cs) (h' : s'.Innermost cs) :
    s' = s := by
  obtain ⟨pairs, last⟩ := s
  obtain ⟨pairs', last'⟩ := s'
  induction pairs generalizing pairs' cs with
  | nil =>
    cases pairs' with
    | nil =>
      have hlast : last' = last := h'.whole.trans h.whole.symm
      rw [hlast]
    | cons p pairs' =>
      have hwhole := h'.whole
      rw [fill_cons] at hwhole
      exact absurd hwhole.symm (h.pairFree_last _ _ _ (h'.bracketFree p List.mem_cons_self))
  | cons p pairs ih =>
    obtain ⟨text, content⟩ := p
    have hwhole := h.whole
    rw [fill_cons] at hwhole
    cases pairs' with
    | nil => exact absurd hwhole.symm (h'.pairFree_last _ _ _ (h.bracketFree _ List.mem_cons_self))
    | cons p' pairs' =>
      obtain ⟨text', content'⟩ := p'
      have hfree := h.bracketFree _ List.mem_cons_self
      have hfree' := h'.bracketFree _ List.mem_cons_self
      have hwhole' := h'.whole
      rw [fill_cons] at hwhole'
      rcases pairs_apart hfree hfree' (hwhole.trans hwhole'.symm) with
        ⟨rfl, rfl, hrest⟩ | ⟨between, htext, -⟩ | ⟨between, htext, -⟩
      · have htail := h'.tail
        rw [← hrest] at htail
        obtain ⟨rfl, rfl⟩ := Split.mk.inj (ih h.tail pairs' htail)
        rfl
      · exact absurd htext (h'.pairFree_first _ _ _ hfree)
      · exact absurd htext (h.pairFree_first _ _ _ hfree')

end Split

/-! ## The search for the first pair -/

theorem firstPair?_eq_none {cs : List Char} (h : firstPair? cs = none) : PairFree cs := by
  simp only [firstPair?] at h
  split at h
  · rename_i hclosed
    rw [← List.takeWhile_append_dropWhile (p := (· != '[')) (l := cs)]
    refine pairFree_append (Text.notMem_takeWhile '[' cs) fun hmem => ?_
    have hne := List.dropWhile_eq_nil_iff.1 hclosed _ hmem
    rw [bne_self_eq_false] at hne
    cases hne
  · cases h

/-- What the search finds is an innermost pair, and there is none before it. -/
theorem firstPair?_eq_some {cs : List Char} {p : Pair} (h : firstPair? cs = some p) :
    cs = p.before ++ (bracketed p.content ++ p.after) ∧ BracketFree p.content ∧ PairFree p.before := by
  simp only [firstPair?] at h
  split at h
  · cases h
  · rename_i c after hclosed
    cases h
    have hcs := List.takeWhile_append_dropWhile (p := (· != '[')) (l := cs)
    have hfront := Text.notMem_takeWhile '[' cs
    have hinner := Text.eq_append_of_dropWhile hclosed
    have hclosing := Text.notMem_takeWhile ']' (cs.dropWhile (· != '['))
    have hopening : '[' ∈ (cs.dropWhile (· != '[')).takeWhile (· != ']') := by
      cases hopened : cs.dropWhile (· != '[') with
      | nil => rw [hopened] at hclosed; cases hclosed
      | cons d opened =>
        have hd : (d != '[') = false := Text.head?_dropWhile cs d (by rw [hopened]; rfl)
        rw [bne_eq_false_iff_eq.1 hd]
        exact List.mem_cons_self
    generalize cs.takeWhile (· != '[') = front at *
    generalize cs.dropWhile (· != '[') = opened at *
    generalize opened.takeWhile (· != ']') = inner at *
    -- backwards from the closing bracket the search stops at an opening one
    cases hback : inner.reverse.dropWhile (· != '[') with
    | nil => exact absurd hback (Text.dropWhile_ne_nil (List.mem_reverse.2 hopening))
    | cons d earlier =>
      have hcontent := Text.notMem_takeWhile '[' inner.reverse
      have hsplit := Text.eq_append_of_dropWhile hback
      generalize inner.reverse.takeWhile (· != '[') = content at *
      have hreverse : inner = earlier.reverse ++ '[' :: content.reverse := by
        rw [← List.reverse_reverse inner, hsplit]
        simp
      subst hreverse hinner hcs
      simp only [List.mem_append, List.mem_cons, List.mem_reverse, not_or] at hclosing
      refine ⟨by simp [bracketed], ⟨by simpa using hcontent, by simpa using hclosing.2.2⟩, ?_⟩
      exact pairFree_append hfront (by simpa using hclosing.1)

/-- The first opening bracket has no partner. -/
example : firstPair? "]a [b [c] d]".toList =
    some ⟨"]a [b ".toList, "c".toList, " d]".toList⟩ := rfl

/-! ## Linking -/

theorem linked_of_none {colored : Bool} {cs : List Char} (h : firstPair? cs = none) :
    linked colored cs = cs := by
  rw [linked]
  split
  · rfl
  · rename_i heq
    rw [h] at heq
    cases heq

theorem linked_of_some {colored : Bool} {cs : List Char} {p : Pair} (h : firstPair? cs = some p) :
    linked colored cs = p.before ++ (shownPair colored p.content ++ linked colored p.after) := by
  rw [linked]
  split
  · rename_i heq
    rw [h] at heq
    cases heq
  · rename_i q heq
    cases heq.symm.trans h
    rw [List.append_assoc]

/-- Linking fills the split of a text at its innermost pairs with what is shown for them. -/
theorem exists_split (colored : Bool) (cs : List Char) :
    ∃ s : Split, s.Innermost cs ∧ linked colored cs = s.fill (shownPair colored) := by
  induction hn : cs.length using Nat.strongRecOn generalizing cs with
  | ind n ih =>
    cases hfirst : firstPair? cs with
    | none => exact ⟨⟨[], cs⟩, Split.innermost_nil (firstPair?_eq_none hfirst), linked_of_none hfirst⟩
    | some p =>
      obtain ⟨hcs, hfree, hbefore⟩ := firstPair?_eq_some hfirst
      obtain ⟨s, hs, hlinked⟩ := ih p.after.length (hn ▸ length_firstPair? hfirst) p.after rfl
      refine ⟨⟨(p.before, p.content) :: s.pairs, s.last⟩, ?_, ?_⟩
      · rw [hcs]
        exact hs.cons hbefore hfree
      · rw [linked_of_some hfirst, hlinked, Split.fill_cons]

/-- In the place of a pair stands the markup of the span in it, or the pair itself. -/
theorem shownPair_eq (colored : Bool) (content : List Char) :
    shownPair colored content =
      match parse (String.ofList content) "" colored with
      | ⟨shown, some _⟩ => shown.toList
      | ⟨_, none⟩ => bracketed content := by
  unfold shownPair
  rcases parse (String.ofList content) "" colored with ⟨shown, _ | a⟩ <;> rfl

/-- Every text has exactly one split at its innermost pairs of brackets, and linking fills it with
the markup of the span in each pair, or with the pair itself when there is no span in it. A text
without spans in its innermost pairs stays as it is. -/
theorem link_eq_fill (text : String) (colored : Bool) :
    ∃ s : Split, s.Innermost text.toList ∧ (∀ s' : Split, s'.Innermost text.toList → s' = s) ∧
      link text colored = String.ofList (s.fill fun content =>
        match parse (String.ofList content) "" colored with
        | ⟨shown, some _⟩ => shown.toList
        | ⟨_, none⟩ => bracketed content) ∧
      ((∀ p ∈ s.pairs, (parse (String.ofList p.2) "" colored).action = none) →
        link text colored = text) := by
  obtain ⟨s, hs, hlinked⟩ := exists_split colored text.toList
  have hlink : link text colored = String.ofList (s.fill (shownPair colored)) :=
    congrArg String.ofList hlinked
  refine ⟨s, hs, fun s' hs' => hs.unique hs', ?_, fun hnone => ?_⟩
  · rw [hlink, funext (shownPair_eq colored)]
  · have hfill : s.fill (shownPair colored) = s.fill bracketed := by
      refine congrArg (· ++ s.last) (List.flatMap_congr fun p hp => ?_)
      rw [shownPair_eq]
      have hp := hnone p hp
      split
      · rename_i heq; rw [heq] at hp; cases hp
      · rfl
    rw [hlink, hfill, hs.whole, String.ofList_toList]

end Rollmark.Span
