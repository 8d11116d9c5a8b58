/-
The shop pages of the books that page references name by their codes.
-/
namespace Rollmark.Reference

/-- The codes of books and their shop pages. -/
def catalogue : List (String × String) :=
  [("ACT1", "http://www.warehouse23.com/products/gurps-action-1-heroes"),
   ("ACT3", "http://www.warehouse23.com/products/gurps-action-3-furious-fists"),
   ("B", "http://www.warehouse23.com/products/gurps-basic-set-characters-and-campaigns"),
   ("BS", "http://www.warehouse23.com/products/gurps-banestorm"),
   ("DF1", "http://www.warehouse23.com/products/gurps-dungeon-fantasy-1-adventurers-1"),
   ("DF3", "http://www.warehouse23.com/products/gurps-dungeon-fantasy-3-the-next-level-1"),
   ("DF4", "http://www.warehouse23.com/products/gurps-dungeon-fantasy-4-sages-1"),
   ("DF8", "http://www.warehouse23.com/products/gurps-dungeon-fantasy-8-treasure-tables"),
   ("DF11", "http://www.warehouse23.com/products/gurps-dungeon-fantasy-11-power-ups"),
   ("DFA", "http://www.warehouse23.com/products/dungeon-fantasy-roleplaying-game"),
   ("DFM", "http://www.warehouse23.com/products/dungeon-fantasy-roleplaying-game"),
   ("DR", "http://www.warehouse23.com/products/gurps-dragons-1"),
   ("F", "http://www.warehouse23.com/products/gurps-fantasy"),
   ("H", "http://www.warehouse23.com/products/gurps-horror-1"),
   ("HT", "http://www.warehouse23.com/products/gurps-high-tech-2"),
   ("LT", "http://www.warehouse23.com/products/gurps-fourth-edition-low-tech"),
   ("M", "http://www.warehouse23.com/products/gurps-magic-5"),
   ("MA", "http://www.warehouse23.com/products/gurps-martial-arts"),
   ("MATG", "http://www.warehouse23.com/products/gurps-martial-arts-technical-grappling"),
   ("P", "http://www.warehouse23.com/products/gurps-powers"),
   ("PSI", "http://www.warehouse23.com/products/gurps-psionic-powers"),
   ("PU1", "http://www.warehouse23.com/products/gurps-power-ups-1-imbuements-1"),
   ("PU2", "http://www.warehouse23.com/products/gurps-power-ups-2-perks"),
   ("PU3", "http://www.warehouse23.com/products/gurps-power-ups-3-talents"),
   ("SU", "http://www.warehouse23.com/products/gurps-supers-3"),
   ("TMS", "http://www.warehouse23.com/products/gurps-thaumatology-magical-styles"),
   ("TRPM", "http://www.warehouse23.com/products/gurps-thaumatology-ritual-path-magic")]

/-- The shop page of a book, if its code is known. -/
def shopPage? (book : String) : Option String := catalogue.lookup book

/-- The shop page for all other books. -/
def generalPage : String := "http://www.warehouse23.com/products?taxons%5B%5D=558398545-sb"

end Rollmark.Reference
