/-
Recovering from a linked text: in a text that holds no beginning of an attachment itself, the first
attachment after linking is that of the first pair of brackets with a span in it, and there is none when
no pair has a span in it.

Up to that pair linking changes nothing, so what stands before the first span is a part of the text. An
attachment that begins there would have to reach into the span, but the span begins with a character
that the beginning of an attachment does not hold. What is spliced in behind the first span does not
matter any more.
-/
import Rollmark.Proofs.Span.Link
import Rollmark.Proofs.Span.Recovery

namespace Rollmark.Span

/-! ## Texts without attachments -/

/-- An attachment begins with the name of its attribute. -/
theorem isPrefix_of_attachment? {cs : List Char} (h : attachment? cs ≠ none) :
    "data-action='".toList <+: cs := by
  cases hlead : Text.dropLead? "data-action='".toList cs with
  | none =>
    rw [attachment?, hlead] at h
    exact absurd rfl h
  | some behind =>
    rw [Text.dropLead?_eq_some.1 hlead]
    exact List.prefix_append _ behind

/-- Where the beginning of an attachment does not occur, nothing is attached. -/
theorem recover_of_missing {rendered : String} (h : ¬ "data-action='".toList <:+: rendered.toList) :
    recover rendered = .error .missing := by
  have hnone : Text.firstFound attachment? rendered.toList = none := by
    refine Text.firstFound_eq_none fun rest hrest => by_contra fun hne => h ?_
    exact (isPrefix_of_attachment? hne).isInfix.trans hrest.isInfix
  unfold recover
  rw [hnone]

/-- No attachment begins in front of a span when the text in front of it holds no beginning of one. -/
theorem attachment?_front {front : List Char} (h : ¬ "data-action='".toList <:+: front) {n : Nat}
    (hn : n < front.length) (rest : List Char) : attachment? ((front ++ '<' :: rest).drop n) = none := by
  rw [List.drop_append_of_le_length (Nat.le_of_lt hn)]
  by_contra hne
  obtain ⟨behind, hbehind⟩ := isPrefix_of_attachment? hne
  -- the beginning ends before the span, because the span begins with a character that it does not hold
  have hlead : '<' ∉ "data-action='".toList := by decide
  obtain ⟨between, hbetween, -⟩ := Text.append_eq_append_cons hlead hbehind
  refine h (List.IsInfix.trans ?_ (List.drop_suffix n front).isInfix)
  rw [hbetween]
  exact (List.prefix_append _ between).isInfix

/-! ## Filled splits -/

namespace Split

theorem fill_append (shown : List Char → List Char) (earlier : List (List Char × List Char))
    (text content : List Char) (later : List (List Char × List Char)) (last : List Char) :
    fill shown ⟨earlier ++ (text, content) :: later, last⟩ =
      fill shown ⟨earlier, text⟩ ++ (shown content ++ fill shown ⟨later, last⟩) := by
  simp [fill]

theorem fill_congr {shown shown' : List Char → List Char} {pairs : List (List Char × List Char)}
    (h : ∀ p ∈ pairs, shown p.2 = shown' p.2) (last : List Char) :
    fill shown ⟨pairs, last⟩ = fill shown' ⟨pairs, last⟩ :=
  congrArg (· ++ last) (List.flatMap_congr fun p hp => congrArg (p.1 ++ ·) (h p hp))

end Split

/-- A pair without a span in it stays as it is. -/
theorem shownPair_of_none {colored : Bool} {content : List Char}
    (h : (parse (String.ofList content) "" colored).action.isSome = false) :
    shownPair colored content = bracketed content := by
  dsimp only [shownPair]
  rw [h]
  rfl

theorem shownPair_of_action {colored : Bool} {content : List Char} {a : Action}
    (h : (parse (String.ofList content) "" colored).action = some a) :
    shownPair colored content = (parse (String.ofList content) "" colored).text.toList := by
  dsimp only [shownPair]
  rw [h]
  rfl

/-- In the place of a pair with a span in it stands a span with its action. -/
theorem shownPair_of_some {colored : Bool} {content : List Char} {a : Action}
    (h : (parse (String.ofList content) "" colored).action = some a) : a.orig = String.ofList content ∧
      ∃ className ∈ classNames, ∃ after,
        shownPair colored content = opening className ++ attached a.encode.toList after := by
  obtain ⟨body, rule, recognized, -, -, ha, htext⟩ := parseWith_eq_some h
  obtain ⟨className, hclass, after, hrender⟩ := toList_render a recognized.look colored
  refine ⟨congrArg Action.orig ha, className, hclass, after, ?_⟩
  exact (shownPair_of_action h).trans ((congrArg String.toList htext).trans hrender)

/-! ## Linked texts -/

/-- In a text that holds no beginning of an attachment itself, linking attaches the action of the first
innermost pair of brackets with a span in it before all others, and nothing when there is no such
pair. -/
theorem recover_link {text : String} (hplain : ¬ "data-action='".toList <:+: text.toList)
    (colored : Bool) :
    ∃ s : Split, s.Innermost text.toList ∧ (∀ s' : Split, s'.Innermost text.toList → s' = s) ∧
      match s.pairs.find? fun p => (parse (String.ofList p.2) "" colored).action.isSome with
      | some p => ∃ a, (parse (String.ofList p.2) "" colored).action = some a ∧
          a.orig = String.ofList p.2 ∧ recover (link text colored) = .ok a
      | none => recover (link text colored) = .error .missing := by
  obtain ⟨⟨pairs, last⟩, hs, hlinked⟩ := exists_split colored text.toList
  have hlink : (link text colored).toList = Split.fill (shownPair colored) ⟨pairs, last⟩ :=
    String.toList_ofList.trans hlinked
  have hwhole := hs.whole
  refine ⟨⟨pairs, last⟩, hs, fun s' hs' => hs.unique hs', ?_⟩
  dsimp only
  split
  · rename_i p hfirst
    obtain ⟨hsome, earlier, later, rfl, hnone⟩ := List.find?_eq_some_iff_append.1 hfirst
    obtain ⟨front, content⟩ := p
    obtain ⟨a, ha⟩ := Option.isSome_iff_exists.1 hsome
    obtain ⟨horig, className, hclass, after, hshown⟩ := shownPair_of_some ha
    refine ⟨a, ha, horig, ?_⟩
    -- up to the first span the text is as it was
    have hearlier : Split.fill (shownPair colored) ⟨earlier, front⟩ = Split.fill bracketed ⟨earlier, front⟩ :=
      Split.fill_congr (fun q hq => shownPair_of_none (by simpa using hnone q hq)) front
    rw [Split.fill_append, hearlier, hshown, List.append_assoc, attached_append] at hlink
    rw [Split.fill_append] at hwhole
    have hfront : ¬ "data-action='".toList <:+: Split.fill bracketed ⟨earlier, front⟩ := fun h =>
      hplain (h.trans (hwhole ▸ (List.prefix_append _ _).isInfix))
    exact recover_behind hclass (fun n hn => attachment?_front hfront hn _) hlink
  · rename_i hfirst
    have hsame : link text colored = text := by
      refine String.toList_inj.1 (hlink.trans (Eq.trans ?_ hwhole))
      exact Split.fill_congr (fun q hq =>
        shownPair_of_none (Bool.eq_false_iff.2 (List.find?_eq_none.1 hfirst q hq))) last
    rw [hsame]
    exact recover_of_missing hplain

/-- The beginning of an attachment with a pair of brackets in the middle of it. -/
theorem recover_link_dodge :
    let text := "data-action=[x]'[Dodge]"
    ¬ "data-action='".toList <:+: text.toList ∧
      recover (link text true) = .ok ⟨"Dodge", false, .dodge⟩ := by
  have hplain : ¬ "data-action='".toList <:+: "data-action=[x]'[Dodge]".toList := by decide +kernel
  obtain ⟨s, -, hunique, hfirst⟩ := recover_link hplain true
  have hsplit : Split.Innermost ⟨[("data-action=".toList, ['x']), (['\''], "Dodge".toList)], []⟩
      "data-action=[x]'[Dodge]".toList :=
    .cons (pairFree_of_notMem (by decide)) (by unfold BracketFree; decide)
      (.cons (pairFree_of_notMem (by decide)) (by unfold BracketFree; decide)
        (Split.innermost_nil (pairFree_of_notMem List.not_mem_nil)))
  obtain rfl := hunique _ hsplit
  obtain ⟨a, ha, -, hrecover⟩ := hfirst
  refine ⟨hplain, ?_⟩
  rw [hrecover]
  cases ha
  rfl

end Rollmark.Span
