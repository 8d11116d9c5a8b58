/-
Lists of values under names, in the order in which the names were first used.
-/
namespace Rollmark.Keyed

variable {α : Type}

/-- Sets the value under a name: in its place when the name is there, at the end when it is new. -/
def put (name : String) (v : α) : List (String × α) → List (String × α)
  | [] => [(name, v)]
  | (n, old) :: rest => if n = name then (n, v) :: rest else (n, old) :: put name v rest

/-- The list that results from setting the values one after another. -/
def ofList (entries : List (String × α)) : List (String × α) :=
  entries.foldl (fun kept e => put e.1 e.2 kept) []

end Rollmark.Keyed
