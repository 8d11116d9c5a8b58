/-
Recovering: the action that a parsed span carries is recovered from what is shown, whatever the
span holds. What the user wrote stands behind the attachment, so nothing in it can be taken for
the attachment, and the attachment itself holds no quote and no blank.
-/
import Rollmark.Proofs.Action.Decode
import Rollmark.Span

namespace Rollmark

namespace Span

/-! ## What is shown -/

/-- The classes of spans. -/
def classNames : List String := ["glinkmod", "glinkmodplus", "glinkmodminus", "gurpslink", "pdflink"]

theorem modifierClass_mem (colored positive : Bool) : modifierClass colored positive ∈ classNames := by
  cases colored <;> cases positive <;> simp [modifierClass, classNames]

/-- What stands before the attachment of a span. -/
def opening (className : String) : List Char :=
  "<span class='".toList ++ className.toList ++ "' ".toList

/-- An attachment that holds some characters, and what stands behind it. -/
def attached (encoded after : List Char) : List Char :=
  "data-action='".toList ++ (encoded ++ '\'' :: after)

theorem attached_append (encoded after rest : List Char) :
    attached encoded after ++ rest = attached encoded (after ++ rest) := by
  unfold attached
  generalize "data-action='".toList = lead
  rw [List.append_assoc, List.append_assoc, List.cons_append]

/-- What stands behind the attachment of a span with a content. -/
def closing (content : List Char) : List Char := '>' :: (content ++ "</span>".toList)

theorem toList_markup (className : String) (a : Action) (content : String) :
    (markup className a content).toList =
      opening className ++ attached a.encode.toList (closing content.toList) := by
  have hmiddle : "' data-action='".toList = "' ".toList ++ "data-action='".toList := rfl
  have hclose : "'>".toList = ['\'', '>'] := rfl
  unfold markup opening attached closing
  simp only [String.toList_append, hmiddle, hclose]
  -- what the literals hold does not matter any more
  generalize "<span class='".toList = front, "' ".toList = between, "data-action='".toList = lead
  generalize "</span>".toList = close
  simp only [List.append_assoc, List.cons_append, List.nil_append]

/-- What is shown in a span for a link. -/
def linkContent (blind : Bool) (label : String) (text : List Char) : List Char :=
  (if blind then blindMark else "").toList ++ (label.toList ++ Text.trim text)

/-- What is shown behind a span for a link. -/
def commentChars (comment : List Char) : List Char :=
  if comment.isEmpty then [] else ' ' :: comment

/-- The action of a link shows in its attachment and in its mark for blind rolls only. -/
theorem toList_render_link (a : Action) (text : List Char) (label : String) (comment : List Char)
    (colored : Bool) : (render a (.link text label comment) colored).toList =
      opening "gurpslink" ++ attached a.encode.toList
        (closing (linkContent a.blind label text) ++ commentChars comment) := by
  have hcontent : ((if a.blind then blindMark else "") ++ label ++ String.ofList (Text.trim text)).toList =
      linkContent a.blind label text := by
    rw [String.toList_append, String.toList_append, String.toList_ofList, List.append_assoc]
    rfl
  have hcomment : (if comment.isEmpty then "" else " " ++ String.ofList comment).toList =
      commentChars comment := by
    unfold commentChars
    split
    · rfl
    · simp only [String.toList_append, String.toList_ofList]
      rfl
  rw [render, String.toList_append, toList_markup, hcontent, hcomment, List.append_assoc, attached_append]

/-- Every span opens with its class, and then comes its attachment. -/
theorem toList_render (a : Action) (look : Look) (colored : Bool) : ∃ className ∈ classNames,
    ∃ after, (render a look colored).toList = opening className ++ attached a.encode.toList after := by
  cases look with
  | modifier positive =>
    exact ⟨_, modifierClass_mem colored positive, _, toList_markup _ a _⟩
  | link text label comment =>
    exact ⟨"gurpslink", by simp [classNames], _, toList_render_link a text label comment colored⟩
  | page link => exact ⟨"pdflink", by simp [classNames], _, toList_markup _ a _⟩

/-! ## What is found -/

/-- The opening of a span differs everywhere from the beginning of an attachment. -/
theorem differs_opening : ∀ className ∈ classNames, ∀ n < (opening className).length,
    Text.differs "data-action='".toList ((opening className).drop n) = true := by decide +kernel

theorem attachment?_opening {className : String} (h : className ∈ classNames) {n : Nat}
    (hn : n < (opening className).length) (rest : List Char) :
    attachment? ((opening className ++ rest).drop n) = none := by
  rw [List.drop_append_of_le_length (Nat.le_of_lt hn), attachment?,
    Text.dropLead?_of_differs (differs_opening className h n hn)]
  rfl

theorem attachment?_attached {encoded : List Char} (h : '\'' ∉ encoded) (after : List Char) :
    attachment? (attached encoded after) = some encoded := by
  unfold attachment? attached
  generalize "data-action='".toList = lead
  rw [Text.dropLead?_append, Option.bind_eq_bind, Option.bind_some, Text.dropWhile_until h,
    Text.takeWhile_until h]

/-- What stands before a span does not count as long as no attachment begins in it. -/
theorem recover_behind {front : List Char} {a : Action} {rendered className : String} {after : List Char}
    (h : className ∈ classNames)
    (hfront : ∀ n < front.length,
      attachment? ((front ++ (opening className ++ attached a.encode.toList after)).drop n) = none)
    (hr : rendered.toList = front ++ (opening className ++ attached a.encode.toList after)) :
    recover rendered = .ok a := by
  have hfound : Text.firstFound attachment? rendered.toList = some a.encode.toList := by
    rw [hr, Text.firstFound_append hfront,
      Text.firstFound_append fun n hn => attachment?_opening h hn _]
    exact Text.firstFound_of_some (attachment?_attached (fun h => (a.plain_of_mem_encode _ h).2 rfl) after)
  have hread : Action.decode? (String.ofList a.encode.toList) = some a := by
    rw [String.ofList_toList, Action.decode?_encode]
  unfold recover
  simp only [hfound, hread]

/-- The first attachment of a text that begins with a span is the attachment of that span. -/
theorem recover_span {a : Action} {rendered className : String} {after : List Char}
    (h : className ∈ classNames)
    (hr : rendered.toList = opening className ++ attached a.encode.toList after) :
    recover rendered = .ok a :=
  @recover_behind [] a rendered className after h (fun _ hn => absurd hn (Nat.not_lt_zero _)) hr

/-! ## Parsed spans -/

/-- What is found is recognized by one of the rules. -/
theorem of_recognize?_eq_some {rules : List Rule} {body : Body} {rule : Rule} {r : Recognized}
    (h : recognize? body rules = some (rule, r)) : rule ∈ rules ∧ rule.recognize body = some r := by
  obtain ⟨rule', hrule, hr⟩ := List.exists_of_findSome?_eq_some h
  obtain ⟨r', hr', heq⟩ := Option.map_eq_some_iff.1 hr
  cases heq
  exact ⟨hrule, hr'⟩

/-- A text that parses to an action is recognized by a rule and shows that action. -/
theorem parseWith_eq_some {rules : List Rule} {text defaultDesc : String} {colored : Bool} {a : Action}
    (h : (parseWith rules text defaultDesc colored).action = some a) :
    ∃ body rule recognized, body? text defaultDesc = some body ∧
      recognize? body rules = some (rule, recognized) ∧ a = ⟨text, body.blind, recognized.kind⟩ ∧
      (parseWith rules text defaultDesc colored).text = render a recognized.look colored := by
  unfold parseWith at h ⊢
  split at h
  · cases h
  · rename_i body hbody
    split at h
    · cases h
    · rename_i rule recognized hrec
      cases h
      exact ⟨body, rule, recognized, hbody, hrec, rfl, rfl⟩

/-- Whatever a text holds, the action that it parses to is recovered from what is shown for it.
The shown text begins with the class of the span; there is no attachment in that, and right behind
it stands the one that carries the action. -/
theorem recover_parse {text defaultDesc : String} {colored : Bool} {a : Action}
    (h : (parse text defaultDesc colored).action = some a) :
    recover (parse text defaultDesc colored).text = .ok a ∧
      ∃ className ∈ classNames, ∃ after,
        (parse text defaultDesc colored).text.toList =
          opening className ++ attached a.encode.toList after ∧
        ∀ n < (opening className).length,
          attachment? ((parse text defaultDesc colored).text.toList.drop n) = none := by
  obtain ⟨body, rule, recognized, -, -, -, htext⟩ := parseWith_eq_some h
  obtain ⟨className, hclass, after, hrender⟩ := toList_render a recognized.look colored
  have hshown : (parse text defaultDesc colored).text.toList =
      opening className ++ attached a.encode.toList after :=
    (congrArg String.toList htext).trans hrender
  refine ⟨recover_span hclass hshown, className, hclass, after, hshown, fun n hn => ?_⟩
  rw [hshown]
  exact attachment?_opening hclass hn _

/-- A name and a comment that look like attachments. -/
theorem recover_parse_lookalike :
    let text := "!S:\"data-action='e30='\" data-action='e30='"
    let a : Action := ⟨text, true, .skill "data-action='e30='" none ""⟩
    (parse text "" true).action = some a ∧ recover (parse text "" true).text = .ok a :=
  ⟨rfl, (recover_parse rfl).1⟩

end Span

end Rollmark
