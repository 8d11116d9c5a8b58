/-
The base64 form of actions: it holds neither blanks nor quotes, every action is read back from it
whatever blanks stand around it, and it tells any two actions apart.
-/
import Rollmark.Proofs.Action.RoundTrip

namespace Rollmark.Action

/-- The characters of the base64 form are neither blanks nor quotes. -/
theorem plain_of_mem_encode (a : Action) :
    ∀ c ∈ a.encode.toList, Text.isBlank c = false ∧ c ≠ '\'' := by
  rw [encode, String.toList_ofList]
  exact Base64.forall_mem_encode (by decide) (by decide) _

/-- The text in the base64 form is the JSON text of the action. -/
theorem text?_encode (a : Action) :
    (Base64.decode? a.encode.toList).bind Text.strictUtf8? = some a.toJson.compact := by
  rw [encode, String.toList_ofList, Base64.decode?_encode, Option.bind_some,
    Text.strictUtf8?_utf8Bytes]

/-- The base64 form of an action is read as that action. -/
theorem decode?_encode (a : Action) : decode? a.encode = some a := by
  rw [decode?, Text.trim_eq_self fun c hc => (a.plain_of_mem_encode c hc).1, text?_encode,
    Option.bind_some, read?_compact]

/-- Blanks around a base64 form do not count. -/
theorem decode?_blanks {before after : String} (hbefore : ∀ c ∈ before.toList, Text.isBlank c = true)
    (hafter : ∀ c ∈ after.toList, Text.isBlank c = true) (encoded : String) :
    decode? (before ++ encoded ++ after) = decode? encoded := by
  unfold decode?
  rw [String.toList_append, String.toList_append, Text.trim_append_blanks hafter,
    Text.trim_blanks_append hbefore]

/-- The word for the kind is the one member of that name. -/
theorem filter_type_members (a : Action) :
    ((a.commonMembers ++ a.kind.members).filter fun m => m.1 == "type") =
      [("type", .string a.kind.tag)] := by
  have hkind : (a.kind.members.filter fun m => m.1 == "type") = [] := by
    refine List.filter_eq_nil_iff.2 fun m hm htype => (name_of_mem_kindMembers hm).2 ?_
    rw [beq_iff_eq.1 htype]
    decide
  have hcommon : (a.commonMembers.filter fun m => m.1 == "type") = [("type", .string a.kind.tag)] := by
    obtain ⟨orig, blind, kind⟩ := a
    cases blind <;> rfl
  rw [List.filter_append, hcommon, hkind, List.append_nil]

/-- Every action is read back from its base64 form with blanks around it. The JSON text in that form
is an object with one member for the kind, and no other action has the same form. -/
theorem decode?_padded_encode (a : Action) {before after : String}
    (hbefore : ∀ c ∈ before.toList, Text.isBlank c = true)
    (hafter : ∀ c ∈ after.toList, Text.isBlank c = true) :
    decode? (before ++ a.encode ++ after) = some a ∧
      (∃ members, ((Base64.decode? a.encode.toList).bind Text.strictUtf8?).bind Json.parse? =
          some (.object members) ∧
        members.filter (fun m => m.1 == "type") = [("type", .string a.kind.tag)]) ∧
      ∀ b : Action, b ≠ a → b.encode ≠ a.encode := by
  refine ⟨?_, ⟨a.commonMembers ++ a.kind.members, ?_, a.filter_type_members⟩, fun b hne hsame => hne ?_⟩
  · rw [decode?_blanks hbefore hafter, decode?_encode]
  · rw [text?_encode, Option.bind_some, Json.parse?_compact _ a.isWhole_toJson, toJson_eq]
  · have hb := decode?_encode b
    rw [hsame, decode?_encode, Option.some.injEq] at hb
    exact hb.symm

/-- The least amount, a quote, a control character and a character beyond ASCII, with blanks of
several kinds around the form. -/
theorem decode?_padded_skill :
    let a : Action := ⟨"!S:\"\x07é\\\"-2147483648", true,
      .skill "\x07é\\" (some ⟨-2147483648, by decide, by decide⟩) "\"\n"⟩
    (∀ c ∈ "\t ".toList, Text.isBlank c = true) ∧
      (∀ c ∈ "\u2003\r\n".toList, Text.isBlank c = true) ∧
      decode? ("\t " ++ a.encode ++ "\u2003\r\n") = some a :=
  have hbefore : ∀ c ∈ "\t ".toList, Text.isBlank c = true := List.all_eq_true.1 rfl
  have hafter : ∀ c ∈ "\u2003\r\n".toList, Text.isBlank c = true := List.all_eq_true.1 rfl
  ⟨hbefore, hafter, (decode?_padded_encode _ hbefore hafter).1⟩

end Rollmark.Action
