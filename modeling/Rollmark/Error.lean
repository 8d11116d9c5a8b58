/-
Why an action could not be carried out, and the notice that says so.
-/
namespace Rollmark

/-- Why an action could not be carried out. -/
inductive Error where
  /-- The action needs a character and there is none. -/
  | noActor
  | skillNotFound (name actor : String)
  | attackNotFound (name actor : String)
  | noDefense (defense : String)
  | invalidFormula (text : String)
  | invalidReference (link : String)
deriving DecidableEq

/-- The notice for the player. -/
def Error.message : Error → String
  | .noActor => "you must have a character selected"
  | .skillNotFound name actor => "no skill or spell named '" ++ name ++ "' found on " ++ actor
  | .attackNotFound name actor =>
    "no melee or ranged attack named '" ++ name ++ "' found on " ++ actor
  | .noDefense defense => "unable to find a " ++ defense ++ " to roll"
  | .invalidFormula text => "invalid dice formula: " ++ text
  | .invalidReference link => "invalid page reference: " ++ link

end Rollmark
