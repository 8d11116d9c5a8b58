/-
The menus that come with the program.
-/
import Rollmark.Menu

namespace Rollmark.Menu

/-- Modifiers for attacks in hand. -/
def meleeLines : List String :=
  ["# Melee",
   "[+4 to hit (Determined Attack)]",
   "[+4 to hit (Telegraphic Attack)]",
   "[-2 to hit (Deceptive Attack)]",
   "[-4 to hit (Charge Attack) *Max:9]",
   "[+2 dmg (Strong Attack)]",
   "## Extra Effort",
   "[+2 dmg (Mighty Blow) *Cost 1FP]",
   "[+0 Heroic Charge *Cost 1FP]"]

/-- Modifiers for attacks from afar. -/
def rangedLines : List String :=
  ["# Ranged",
   "[+1 Aim]",
   "[+1 to hit (Determined Attack)]",
   "## Actions",
   "[WILL check to maintain Aim]"]

/-- Modifiers for defenses. -/
def defenseLines : List String :=
  ["# Defense",
   "[+2 All-Out Defense]",
   "[+1 to dodge (Shield)]",
   "[+2 to dodge (Acrobatics)]",
   "[+3 to dodge (Dive)]",
   "[+3 to dodge (Retreat)]",
   "[+1 block/parry (Retreat)]",
   "[-2 to dodge (Failed Acrobatics)]",
   "[-2 to dodge (Attacked from side)]",
   "[-4 to dodge (Attacked from rear)]",
   "## Extra Effort",
   "[+2 Feverish Defense *Cost 1FP]",
   "## Actions",
   "[WILL-3 Concentration check]"]

/-- Modifiers of all sorts. -/
def otherLines : List String :=
  ["# Other",
   "[+1]",
   "[+2]",
   "[+3]",
   "[+4]",
   "[+5]",
   "[-1]",
   "[-2]",
   "[-3]",
   "[-4]",
   "[-5]",
   "[+1 GM said so]",
   "[-1 GM said so]",
   "[+4 GM Blessed]",
   "[-4 GM don't try it]"]

/-- Modifiers for the difficulty of a task. -/
def difficultyLines : List String :=
  ["# Task Difficulty",
   "[+10 Automatic]",
   "[+8 Trivial]",
   "[+6 Very Easy]",
   "[+4 Easy]",
   "[+2 Very Favorable]",
   "[+1 Favorable]",
   "[-1 Unfavorable]",
   "[-2 Very Unfavorable]",
   "[-4 Hard]",
   "[-6 Very hard]",
   "[-8 Dangerous]",
   "[-10 Impossible]"]

/-- Modifiers for bad light. -/
def lightingLines : List String :=
  ["# Lighting",
   "[-1 Sunrise / sunset / torch / flashlight]",
   "[-2 Twilight / gaslight / cell-phone]",
   "[-3 Deep twilight / candlelight]",
   "[-4 Full moon]",
   "[-5 Half moon]",
   "[-6 Quarter moon]",
   "[-7 Starlight]",
   "[-8 Starlight through clouds]",
   "[-9 Overcast moonless night]",
   "[-10 Total darkness]"]

/-- All menus in the order in which they are listed. -/
def builtin : List Menu :=
  [ofLines "melee" meleeLines, ofLines "ranged" rangedLines, ofLines "defense" defenseLines,
    ofLines "other" otherLines, ofLines "difficulty" difficultyLines,
    ofLines "lighting" lightingLines]

end Rollmark.Menu
