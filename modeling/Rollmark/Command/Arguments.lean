/-
Arguments of a command line, taken apart by a form: options that stand alone, options with a value
in the next word or behind an equals sign, and plain words. Behind `--` every word is plain.
-/
import Rollmark.Text.Numeral
import Rollmark.Text.Scan

namespace Rollmark

/-- The options that a command knows, each of which may be given once. -/
structure ArgumentForm where
  /-- The options that stand alone. -/
  flags : List String := []
  /-- The options with a value. -/
  options : List String := []
  /-- Of these the ones whose value may be a negative number in a word of its own. -/
  negative : List String := []
  /-- The first plain word may be a negative number. -/
  negativeFirst : Bool := false
  /-- The first plain word and all that follow are the words of another command. -/
  nested : Bool := false

/-- What was given. -/
structure Arguments where
  flags : List String := []
  values : List (String × String) := []
  words : List String := []

namespace Arguments

/-- How the next word is taken. -/
inductive Mode where
  | anything
  | value (option : String)
  | plain

/-- An option behind its two dashes: its name, and the value behind its equals sign. -/
def namedOption (cs : List Char) : String × Option String :=
  (String.ofList (cs.takeWhile (· != '=')),
    match cs.dropWhile (· != '=') with
    | _ :: value => some (String.ofList value)
    | [] => none)

/-- A word that begins with a dash and is more than that. -/
def isDashed : List Char → Bool
  | '-' :: _ :: _ => true
  | _ => false

/-- A minus sign and digits. -/
def isNegativeNumber : List Char → Bool
  | '-' :: cs => (Text.natural? cs).isSome
  | _ => false

/-- An option was given before. -/
def has (a : Arguments) (option : String) : Bool :=
  a.flags.contains option || a.values.any (·.1 == option)

/-- One more plain word. -/
def addWord (a : Arguments) (form : ArgumentForm) (word : String) : Arguments × Mode :=
  ({ a with words := a.words ++ [word] }, if form.nested then .plain else .anything)

/-- One more option. -/
def addOption (a : Arguments) (form : ArgumentForm) (option : String) (value : Option String) :
    Option (Arguments × Mode) :=
  if a.has option then none
  else if form.flags.contains option then
    if value.isNone then some ({ a with flags := a.flags ++ [option] }, .anything) else none
  else if form.options.contains option then
    match value with
    | some v => some ({ a with values := a.values ++ [(option, v)] }, .anything)
    | none => some (a, .value option)
  else none

/-- One more word of the command line. -/
def addNext (form : ArgumentForm) (a : Arguments) (mode : Mode) (word : String) :
    Option (Arguments × Mode) :=
  let cs := word.toList
  match mode with
  | .plain => some ({ a with words := a.words ++ [word] }, .plain)
  | .value option =>
    if isDashed cs && !(form.negative.contains option && isNegativeNumber cs) then none
    else some ({ a with values := a.values ++ [(option, word)] }, .anything)
  | .anything =>
    match cs with
    | ['-', '-'] => if form.nested then none else some (a, .plain)
    | '-' :: '-' :: rest =>
      let (option, value) := namedOption rest
      a.addOption form option value
    | _ =>
      if !isDashed cs || (form.negativeFirst && a.words.isEmpty && isNegativeNumber cs) then
        some (a.addWord form word)
      else none

/-- Takes the words of a command line apart, if the form admits them. -/
def addAll (form : ArgumentForm) (a : Arguments) : Mode → List String → Option Arguments
  | .value _, [] => none
  | _, [] => some a
  | mode, word :: rest =>
    match addNext form a mode word with
    | some (a', mode') => addAll form a' mode' rest
    | none => none

def ofWords? (form : ArgumentForm) (words : List String) : Option Arguments :=
  addAll form {} .anything words

/-! ## Values -/

/-- Whether a lone option was given. -/
def flag (a : Arguments) (option : String) : Bool := a.flags.contains option

/-- The value of an option, read; `none` inside when the option was not given. -/
def value? {α : Type} (a : Arguments) (option : String) (read : String → Option α) :
    Option (Option α) :=
  match a.values.lookup option with
  | none => some none
  | some v => (read v).map some

/-- The only plain word. -/
def word? (a : Arguments) : Option String :=
  match a.words with
  | [word] => some word
  | _ => none

end Arguments

end Rollmark
