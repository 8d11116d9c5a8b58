/-
Menus of common modifiers. A menu is written in lines: a line behind one number sign and a blank is
its title, behind two it begins a section, and every other line is a span with its brackets.
-/
import Rollmark.Span

namespace Rollmark

/-- A span in a menu, under the section that it stands in. -/
structure MenuItem where
  heading? : Option String
  span : String
deriving DecidableEq

/-- A menu. -/
structure Menu where
  id : String
  title : String
  items : List MenuItem
deriving DecidableEq

/-- The span of an item parsed and shown. -/
def MenuItem.parse (item : MenuItem) (colored : Bool) : Span.Parsed :=
  let cs := item.span.toList
  match (Text.dropLead? ['['] cs).bind (Text.dropEnding? [']']) with
  | some inner => Span.parse (String.ofList inner) "" colored
  | none => Span.parse item.span "" colored

namespace Menu

/-- A menu under way: the section that is open, the title and the items so far. -/
structure Reading where
  heading? : Option String
  title : String
  items : List MenuItem

/-- One more line of a menu. -/
def Reading.line (r : Reading) (text : String) : Reading :=
  let cs := Text.trim text.toList
  if cs.isEmpty then r
  else
    match Text.dropLead? ['#', '#', ' '] cs, Text.dropLead? ['#', ' '] cs with
    | some heading, _ => { r with heading? := some (String.ofList heading) }
    | none, some title => { r with title := String.ofList title }
    | none, none => { r with items := r.items ++ [⟨r.heading?, String.ofList cs⟩] }

/-- The menu that some lines write; without a title it is called by its name. -/
def ofLines (id : String) (lines : List String) : Menu :=
  let r := lines.foldl Reading.line ⟨none, id, []⟩
  ⟨id, r.title, r.items⟩

/-- The lines that list items under their sections, after the section that is open. -/
def itemLines (open? : Option String) : List MenuItem → List String
  | [] => []
  | item :: rest =>
    let heading :=
      if item.heading? = open? then []
      else match item.heading? with
        | some s => ["  -- " ++ s ++ " --"]
        | none => []
    heading ++ ["  " ++ item.span] ++ itemLines item.heading? rest

/-- The lines that list a menu. -/
def lines (m : Menu) : List String := m.title :: itemLines none m.items

end Menu

end Rollmark
