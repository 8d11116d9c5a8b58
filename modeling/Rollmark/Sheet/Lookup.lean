/-
Looking things up on a sheet: leading numbers of sheet texts, names with `*` for any text within a
line, and the skills, attacks, attributes, senses and defenses that they find.
-/
import Rollmark.Sheet
import Rollmark.Text.Blank
import Rollmark.Text.Scan

namespace Rollmark

/-! ## Leading numbers -/

/-- The number in front of a sheet text, behind blanks and an optional sign: `9F` has 9 and `No`
has none. The digits alone have to be an amount. -/
def leadingNumber? (text : String) : Option Amount :=
  let read (negative : Bool) (cs : List Char) : Option Amount :=
    match (Text.natural? (cs.takeWhile Char.isDigit)).bind fun n => Amount.ofInt? n with
    | some a => if negative then Amount.ofInt? (-a.val) else some a
    | none => none
  match Text.trimStart text.toList with
  | '-' :: rest => read true rest
  | '+' :: rest => read false rest
  | cs => read false cs

/-! ## Name patterns -/

/-- A name in which every `*` stands for any text within a line, as the pieces between them. -/
abbrev NamePattern := List (List Char)

namespace NamePattern

def ofText (pattern : String) : NamePattern := Text.split '*' pattern.toList

/-- For every place of a text: whether a place marked later can be reached within the line. -/
def reachMark : List Char → List Bool → List Bool
  | c :: cs, mark :: marks =>
    let later := reachMark cs marks
    (mark || (c != '\n' && later.headD false)) :: later
  | _, marks => marks

/-- For every place of a text: whether the piece stands there and ends at a marked place. -/
def standAt (piece : List Char) : List Char → List Bool → List Bool
  | [], marks => [piece.isEmpty && marks.headD false]
  | c :: cs, marks =>
    ((Text.dropLead? piece (c :: cs)).isSome && (marks.drop piece.length).headD false)
      :: standAt piece cs marks.tail

/-- For every place of a text: whether the pattern fits a part of the text that begins there. -/
def fits (text : List Char) : NamePattern → List Bool
  | [] => List.replicate (text.length + 1) true
  | [piece] => standAt piece text (List.replicate (text.length + 1) true)
  | piece :: more => standAt piece text (reachMark text (fits text more))

/-- Whether the pattern fits some part of a name. -/
def isMatch (pattern : NamePattern) (name : String) : Bool :=
  (fits name.toList pattern).any id

end NamePattern

/-! ## What a sheet answers -/

namespace Sheet

/-- A skill or a spell that was found. -/
structure SkillMatch where
  name : String
  level : Option Amount
deriving DecidableEq

/-- An attack that was found. -/
structure AttackMatch where
  name : String
  level : Option Amount
  mode : Option String
  rof : Option Amount
  rcl : Option Amount
deriving DecidableEq

/-- The defenses of a weapon. -/
structure MeleeDefense where
  name : String
  parry : Option Amount
  block : Option Amount
deriving DecidableEq

/-- The value of one defense of a weapon. -/
def MeleeDefense.value? (d : MeleeDefense) : String → Option Amount
  | "parry" => d.parry
  | "block" => d.block
  | _ => none

/-- The value at a path: `attributes.ST.value` and the like, or `FP.value`. -/
def valueAt? (s : Sheet) (path : String) : Option Amount :=
  match (Text.split '.' path.toList).map String.ofList with
  | ["attributes", name, "value"] => s.attributes.lookup name
  | ["FP", "value"] => some s.fatigue.value
  | _ => none

/-- The first skill, or else the first spell, that a pattern fits. -/
def findSkill? (s : Sheet) (pattern : String) : Option SkillMatch :=
  let fits (skill : Skill) : Bool := (NamePattern.ofText pattern).isMatch skill.name
  ((s.skills.find? fits).or (s.spells.find? fits)).map fun skill =>
    ⟨skill.name, some skill.level⟩

/-- The name that an attack is looked up by: with its mode in parentheses if it has one. -/
def displayName (name mode : String) : String :=
  if mode.isEmpty then name else name ++ " (" ++ mode ++ ")"

/-- A text unless it is empty. -/
def nonEmpty? (s : String) : Option String := if s.isEmpty then none else some s

/-- The first melee attack, or else the first ranged one, that a pattern fits. -/
def findAttack? (s : Sheet) (pattern : String) : Option AttackMatch :=
  let fits (name mode : String) : Bool :=
    (NamePattern.ofText pattern).isMatch (displayName name mode)
  match s.melee.find? fun a => fits a.name a.mode with
  | some a => some ⟨a.name, leadingNumber? a.level, nonEmpty? a.mode, none, none⟩
  | none =>
    (s.ranged.find? fun a => fits a.name a.mode).map fun a =>
      ⟨a.name, leadingNumber? a.level, nonEmpty? a.mode, leadingNumber? a.rof,
        leadingNumber? a.rcl⟩

/-- The value of a sense or of the fright check. -/
def sense? (s : Sheet) (path : String) : Option Amount := s.senses.lookup path

/-- The parry or the block that belongs to no weapon. -/
def basicDefense? (s : Sheet) : String → Option Amount
  | "parry" => s.parry
  | "block" => s.block
  | _ => none

/-- The defenses of all weapons in their order. -/
def meleeDefenses (s : Sheet) : List MeleeDefense :=
  s.melee.map fun a => ⟨a.name, leadingNumber? a.parry, leadingNumber? a.block⟩

end Sheet

end Rollmark
