/-
Linking: in free text every innermost pair of brackets that holds a span is replaced by its
markup. All other characters, and brackets that hold nothing known, stay as they are.
-/
import Rollmark.Span

namespace Rollmark.Span

/-- A pair of brackets in a text: what stands before it, what it holds and what stands behind it. -/
structure Pair where
  before : List Char
  content : List Char
  after : List Char

/-- The first innermost pair of brackets. From the first opening bracket the first closing one is
looked for, and from there back the last opening one. -/
def firstPair? (cs : List Char) : Option Pair :=
  let opened := cs.dropWhile (· != '[')
  match opened.dropWhile (· != ']') with
  | [] => none
  | _ :: after =>
    let back := (opened.takeWhile (· != ']')).reverse
    some ⟨cs.takeWhile (· != '[') ++ (back.dropWhile (· != '[')).tail.reverse,
      (back.takeWhile (· != '[')).reverse, after⟩

/-- What stands behind a pair is shorter than the whole. -/
theorem length_firstPair? {cs : List Char} {p : Pair} (h : firstPair? cs = some p) :
    p.after.length < cs.length := by
  simp only [firstPair?] at h
  split at h
  · cases h
  · rename_i c after hclosed
    cases h
    have hlength := congrArg List.length hclosed
    have hclosing := (List.dropWhile_suffix (l := cs.dropWhile (· != '[')) (· != ']')).length_le
    have hopening := (List.dropWhile_suffix (l := cs) (· != '[')).length_le
    rw [List.length_cons] at hlength
    show after.length < cs.length
    omega

/-- A pair of brackets with the span in it shown. -/
def shownPair (colored : Bool) (content : List Char) : List Char :=
  let parsed := parse (String.ofList content) "" colored
  if parsed.action.isSome then parsed.text.toList else '[' :: (content ++ [']'])

/-- The characters of a text with all its spans shown. -/
def linked (colored : Bool) (cs : List Char) : List Char :=
  match _h : firstPair? cs with
  | none => cs
  | some p => p.before ++ shownPair colored p.content ++ linked colored p.after
termination_by cs.length
decreasing_by exact length_firstPair? _h

/-- A text with all its spans shown. -/
def link (text : String) (colored : Bool) : String := String.ofList (linked colored text.toList)

end Rollmark.Span
