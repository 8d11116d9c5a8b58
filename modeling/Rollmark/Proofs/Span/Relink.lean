/-
Linking twice: in a text whose pairs of brackets are not nested, linking leaves nothing to be linked.

What is shown for a span is drawn from its content, and neither the markup nor the attachment holds an
opening bracket. So the only opening brackets after linking are those of pairs without a span in them and
of those without a partner, and between an opening bracket and a later closing one stands nothing new.
-/
import Mathlib.Data.List.Infix
import Rollmark.Proofs.Span.Linked
import Rollmark.Proofs.Span.WellFormed

namespace Rollmark.Span

/-! ## What a look shows -/

/-- A look that shows nothing but characters of a content, spaces and the fixed labels. -/
def Look.DrawnFrom (chars : List Char) : Look → Prop
  | .modifier _ => True
  | .link text label comment =>
    text ⊆ ' ' :: chars ∧ label ∈ ["", "<b>S:</b>", "<b>A:</b>"] ∧ comment ⊆ chars
  | .page text => text ⊆ chars

/-- A name and what stands behind it are parts of a text. -/
theorem subset_of_name? {cs name rest : List Char} (h : name? cs = some (name, rest)) :
    name ⊆ cs ∧ rest ⊆ cs := by
  unfold name? at h
  split at h
  · rename_i hname
    cases h
    exact ⟨hname ▸ List.takeWhile_subset _, (List.dropWhile_suffix _).subset⟩
  · split at h
    · rename_i quoted _
      split at h
      · rename_i hname hrest
        cases h
        have hbehind := (List.dropWhile_suffix (l := quoted) (· != '"')).subset
        rw [hrest] at hbehind
        refine ⟨fun c hc => List.mem_cons_of_mem _ ?_, fun c hc => List.mem_cons_of_mem _ ?_⟩
        · exact List.takeWhile_subset _ (hname ▸ hc)
        · exact hbehind (List.mem_cons_of_mem _ hc)
      · cases h
    · cases h

/-- What a reference by name shows are parts of it and a space. -/
theorem subset_of_namedReference? {cs : List Char} {r : NamedReference} (h : namedReference? cs = some r) :
    r.spanText ⊆ ' ' :: cs ∧ r.comment ⊆ cs := by
  simp only [namedReference?, Option.bind_eq_bind, Option.bind_none, Option.bind_eq_some_iff,
    Option.ite_none_left_eq_some, Prod.exists] at h
  obtain ⟨name, rest, hname, -, href⟩ := h
  obtain ⟨hnamed, hbehind⟩ := subset_of_name? hname
  have htrim : Text.trim name ⊆ cs := fun c hc => hnamed ((Text.trim_infix name).subset hc)
  split at href
  · rename_i run rest' hrun
    obtain ⟨amount, -, href⟩ := Option.bind_eq_some_iff.1 href
    cases href
    obtain ⟨sign, digits, -, rfl, hrest, -⟩ := Text.signedRun?_eq_some.1 hrun
    have hrun : sign :: (digits ++ rest') ⊆ cs := hrest ▸ hbehind
    have hdesc : Text.skip ' ' rest' ⊆ cs := fun c hc =>
      hrun (by simp [(Text.skip_suffix ' ' rest').subset hc])
    refine ⟨?_, List.nil_subset _⟩
    intro c hc
    simp only [List.mem_append, List.mem_singleton] at hc
    rcases hc with ((hc | hc) | rfl) | hc
    · exact List.mem_cons_of_mem _ (htrim hc)
    · exact List.mem_cons_of_mem _ (hrun (List.mem_append_left rest' hc))
    · exact List.mem_cons_self
    · exact List.mem_cons_of_mem _ (hdesc hc)
  · cases href
    exact ⟨fun c hc => List.mem_cons_of_mem _ (htrim hc),
      fun c hc => hbehind ((Text.skip_suffix ' ' rest).subset hc)⟩

/-- Whatever the rule, what is shown is drawn from the content. -/
theorem Shape.drawnFrom {body : Body} {name : String} {r : Recognized} (h : Shape body name r) :
    r.look.DrawnFrom body.chars := by
  cases h with
  | modifier => trivial
  | shown => exact ⟨List.subset_cons_self _ _, List.mem_cons_self, List.nil_subset _⟩
  | page hpage => exact hpage.subset
  | named letter hrest href =>
    have hsubset := hrest.subset
    obtain ⟨htext, hcomment⟩ := subset_of_namedReference? href
    have hlabel : letter.label ∈ ["", "<b>S:</b>", "<b>A:</b>"] := by cases letter <;> decide
    exact ⟨List.Subset.trans htext (List.cons_subset_cons _ hsubset), hlabel,
      List.Subset.trans hcomment hsubset⟩

/-! ## Spans without opening brackets -/

theorem notMem_encode (a : Action) : '[' ∉ a.encode.toList := by
  rw [Action.encode, String.toList_ofList]
  intro h
  exact Base64.forall_mem_encode (P := (· ≠ '[')) (by decide) (by decide) _ '[' h rfl

/-- Around its content the markup of a span holds no opening bracket. -/
theorem notMem_markup {className : String} (hclass : className ∈ classNames) (a : Action) {content : List Char}
    (h : '[' ∉ content) : '[' ∉ opening className ++ attached a.encode.toList (closing content) := by
  have hopening : ∀ className ∈ classNames, '[' ∉ opening className := by decide
  have hlead : '[' ∉ "data-action='".toList := by decide
  have hclose : '[' ∉ "</span>".toList := by decide
  unfold attached closing
  generalize "data-action='".toList = lead at *
  generalize "</span>".toList = close at *
  simp [hopening _ hclass, hlead, hclose, notMem_encode, h]

/-- What is shown for a content without opening brackets holds none. -/
theorem notMem_render {a : Action} {look : Look} {chars : List Char} (hlook : look.DrawnFrom chars)
    (hchars : '[' ∉ chars) (horig : '[' ∉ a.orig.toList) (colored : Bool) :
    '[' ∉ (render a look colored).toList := by
  cases look with
  | modifier positive =>
    rw [render, toList_markup]
    exact notMem_markup (modifierClass_mem colored positive) a horig
  | link text label comment =>
    obtain ⟨htext, hlabel, hcomment⟩ := hlook
    have hmark : '[' ∉ (if a.blind then blindMark else "").toList := by split <;> decide
    have hlabels : ∀ label ∈ ["", "<b>S:</b>", "<b>A:</b>"], '[' ∉ label.toList := by decide
    have htrim : '[' ∉ Text.trim text := fun h =>
      absurd (htext ((Text.trim_infix text).subset h)) (by simp [hchars])
    have hcontent : '[' ∉ linkContent a.blind label text := by
      simp [linkContent, hmark, hlabels label hlabel, htrim]
    have hbehind : '[' ∉ commentChars comment := by
      unfold commentChars
      split
      · exact List.not_mem_nil
      · simpa using fun h => hchars (hcomment h)
    rw [toList_render_link, ← attached_append, ← List.append_assoc, List.mem_append]
    exact not_or.2 ⟨notMem_markup (by simp [classNames]) a hcontent, hbehind⟩
  | page text =>
    rw [render, toList_markup, String.toList_ofList]
    exact notMem_markup (by simp [classNames]) a fun h => hchars (hlook h)

/-- In the place of a pair with a span in it there is no opening bracket any more. -/
theorem notMem_shownPair {colored : Bool} {content : List Char} {a : Action} (hcontent : '[' ∉ content)
    (h : (parse (String.ofList content) "" colored).action = some a) : '[' ∉ shownPair colored content := by
  obtain ⟨body, rule, recognized, hbody, hfound, rfl, htext⟩ := parseWith_eq_some h
  obtain ⟨hrule, hrec⟩ := of_recognize?_eq_some hfound
  have horig : '[' ∉ (String.ofList content).toList := by rwa [String.toList_ofList]
  have hchars : '[' ∉ body.chars := by
    rw [chars_of_body? hbody]
    exact fun hmem => horig ((Text.skip_suffix '!' _).subset hmem)
  rw [shownPair_of_action h, parse, htext]
  exact notMem_render (shape_of_recognize hrule hrec).drawnFrom hchars horig colored

/-! ## Texts without nested brackets -/

/-- Between an opening bracket and the next closing one behind it stands no opening one. -/
def Unnested (cs : List Char) : Prop :=
  ∀ rest, '[' :: rest <:+ cs → ']' ∈ rest → '[' ∉ rest.takeWhile (· != ']')

instance (cs : List Char) : Decidable (Unnested cs) :=
  decidable_of_iff (∀ behind ∈ cs.tails, behind.head? = some '[' → ']' ∈ behind.tail →
      '[' ∉ behind.tail.takeWhile (· != ']')) <| by
    simp only [List.mem_tails, Unnested]
    constructor
    · exact fun h rest hrest => h _ hrest rfl
    · intro h behind hbehind hhead
      obtain ⟨rest, rfl⟩ := List.head?_eq_some_iff.1 hhead
      exact h rest hbehind

theorem Unnested.of_suffix {cs rest : List Char} (h : Unnested cs) (hrest : rest <:+ cs) : Unnested rest :=
  fun inner hinner => h inner (hinner.trans hrest)

/-- Before a pair there is no opening bracket: it would have the closing bracket of the pair for its next
one, or a pair of its own. -/
theorem notMem_of_unnested {text content rest : List Char} (htext : PairFree text)
    (hcontent : BracketFree content) (h : Unnested (text ++ (bracketed content ++ rest))) : '[' ∉ text := by
  intro hopening
  obtain ⟨before, inner, rfl⟩ := List.append_of_mem hopening
  have hinner := h (inner ++ (bracketed content ++ rest)) ⟨before, by simp⟩
    (List.mem_append_right inner (by simp [bracketed]))
  by_cases hclosing : ']' ∈ inner
  · obtain ⟨content', after, rfl, hfree⟩ := List.eq_append_cons_of_mem hclosing
    rw [List.append_assoc, List.cons_append, Text.takeWhile_until hfree] at hinner
    exact htext before content' after ⟨hinner, hfree⟩ (by rw [bracketed_append])
  · have hfree : ']' ∉ inner ++ '[' :: content := by
      simp [hclosing, hcontent.2]
    rw [bracketed_append, ← List.cons_append, ← List.append_assoc, Text.takeWhile_until hfree] at hinner
    exact hinner (by simp)

/-- In the split of such a text no opening bracket stands before a pair, and behind the last pair there is
no other. -/
theorem Split.Innermost.openings {s : Split} {cs : List Char} (h : s.Innermost cs) (hcs : Unnested cs) :
    (∀ p ∈ s.pairs, '[' ∉ p.1 ∧ BracketFree p.2) ∧ PairFree s.last := by
  obtain ⟨pairs, last⟩ := s
  induction pairs generalizing cs with
  | nil =>
    obtain rfl : last = cs := h.whole
    exact ⟨nofun, h.pairFree_last⟩
  | cons p pairs ih =>
    obtain ⟨text, content⟩ := p
    have hfree := h.bracketFree _ List.mem_cons_self
    have hwhole := h.whole
    rw [fill_cons] at hwhole
    obtain ⟨hpairs, hlast⟩ := ih (hcs.of_suffix ⟨text ++ bracketed content, by simp [← hwhole]⟩) h.tail
    refine ⟨fun p hp => ?_, hlast⟩
    rcases List.mem_cons.1 hp with rfl | hp
    · exact ⟨notMem_of_unnested h.pairFree_first hfree (hwhole ▸ hcs), hfree⟩
    · exact hpairs p hp

/-! ## Linking a linked text -/

/-- The first innermost pair of a text is the pair before which there is no opening bracket. -/
theorem firstPair?_bracketed {before content : List Char} (hbefore : '[' ∉ before)
    (hcontent : BracketFree content) (rest : List Char) :
    firstPair? (before ++ (bracketed content ++ rest)) = some ⟨before, content, rest⟩ := by
  cases hfirst : firstPair? (before ++ (bracketed content ++ rest)) with
  | none => exact absurd rfl (firstPair?_eq_none hfirst before content rest hcontent)
  | some p =>
    obtain ⟨hcs, hfree, hpairFree⟩ := firstPair?_eq_some hfirst
    rcases pairs_apart hcontent hfree hcs with ⟨rfl, rfl, rfl⟩ | ⟨between, hbetween, -⟩ | ⟨between, rfl, -⟩
    · rfl
    · exact absurd hbetween (hpairFree before content between hcontent)
    · exact absurd (by simp [bracketed]) hbefore

theorem linked_of_pairFree {colored : Bool} {cs : List Char} (h : PairFree cs) : linked colored cs = cs := by
  refine linked_of_none (Option.eq_none_iff_forall_ne_some.2 fun p hp => ?_)
  obtain ⟨hcs, hfree, -⟩ := firstPair?_eq_some hp
  exact h _ _ _ hfree hcs

/-- A text without opening brackets in front makes no new pair. -/
theorem PairFree.append_left {front cs : List Char} (hfront : '[' ∉ front) (h : PairFree cs) :
    PairFree (front ++ cs) := by
  intro before content after hfree hcs
  rw [bracketed_append] at hcs
  obtain ⟨between, -, hbehind⟩ := Text.append_eq_append_cons hfront hcs
  exact h between content after hfree (by rw [hbehind, bracketed_append])

/-- The colours do not decide what is parsed. -/
theorem action_colored (text defaultDesc : String) (colored colored' : Bool) :
    (parse text defaultDesc colored).action = (parse text defaultDesc colored').action := by
  unfold parse parseWith
  split
  · rfl
  · split <;> rfl

/-- A split whose pairs have been filled stays as it is when it is linked. What has been filled in for a
span belongs to the text before the next pair that has been kept. -/
theorem linked_fill {pairs : List (List Char × List Char)} {last : List Char}
    (hpairs : ∀ p ∈ pairs, '[' ∉ p.1 ∧ BracketFree p.2) (hlast : PairFree last) (colored colored' : Bool)
    {front : List Char} (hfront : '[' ∉ front) :
    linked colored' (front ++ Split.fill (shownPair colored) ⟨pairs, last⟩) =
      front ++ Split.fill (shownPair colored) ⟨pairs, last⟩ := by
  induction pairs generalizing front with
  | nil => exact linked_of_pairFree (hlast.append_left hfront)
  | cons p pairs ih =>
    obtain ⟨text, content⟩ := p
    obtain ⟨⟨htext, hcontent⟩, hpairs⟩ := List.forall_mem_cons.1 hpairs
    have hbefore : '[' ∉ front ++ text := by simp [hfront, htext]
    rw [Split.fill_cons, ← List.append_assoc]
    cases haction : (parse (String.ofList content) "" colored).action with
    | none =>
      -- the pair has been kept, and it is kept again
      have haction' := (action_colored (String.ofList content) "" colored' colored).trans haction
      rw [shownPair_of_none (by rw [haction]; rfl),
        linked_of_some (firstPair?_bracketed hbefore hcontent _), shownPair_of_none (by rw [haction']; rfl)]
      exact congrArg (fun rest => front ++ text ++ (bracketed content ++ rest)) (ih hpairs List.not_mem_nil)
    | some a =>
      have hshown := notMem_shownPair hcontent.1 haction
      rw [← List.append_assoc]
      exact ih hpairs (by simp [hfront, htext, hshown])

/-- In a text without nested brackets, linking once more changes nothing, whatever the colours: what has been
shown holds no opening bracket, and pairs without a span in them still have none. -/
theorem link_link {text : String} (h : Unnested text.toList) (colored colored' : Bool) :
    link (link text colored) colored' = link text colored := by
  obtain ⟨s, hs, hlinked⟩ := exists_split colored text.toList
  obtain ⟨hpairs, hlast⟩ := hs.openings h
  have hrelinked := linked_fill hpairs hlast colored colored' List.not_mem_nil
  rw [List.nil_append] at hrelinked
  unfold link
  rw [String.toList_ofList, hlinked, hrelinked]

/-- A closing bracket without a partner, a pair with nothing known in it, two spans and an opening bracket
without a partner. -/
theorem link_link_partnerless :
    let text := "]S:A [x] [S:\"Two Words\"] [+1 aim] [Dodge"
    Unnested text.toList ∧ link (link text true) false = link text true := by
  intro text
  have htext : Unnested text.toList := by decide
  exact ⟨htext, link_link htext true false⟩

end Rollmark.Span
