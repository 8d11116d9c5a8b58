/-
The sample character that comes with the program, as the text of its file.
-/
import Rollmark.Sheet.Wire

namespace Rollmark.Sheet

/-- The lines of the sample character's file. -/
def sampleLines : List String :=
  ["\x7b",
   "  \"name\": \"Sir Roderick\",",
   "  \"attributes\": \x7b \"ST\": 13, \"DX\": 12, \"IQ\": 10, \"HT\": 12, \"WILL\": 11"
     ++ ", \"PER\": 10 \x7d,",
   "  \"FP\": \x7b \"value\": 12, \"max\": 12 \x7d,",
   "  \"swing\": \"2d-1\",",
   "  \"thrust\": \"1d\",",
   "  \"skills\": [",
   "    \x7b \"name\": \"Broadsword\", \"level\": 14 \x7d,",
   "    \x7b \"name\": \"Fast-Draw (Knife)\", \"level\": 12 \x7d,",
   "    \x7b \"name\": \"Shield\", \"level\": 13 \x7d,",
   "    \x7b \"name\": \"Stealth\", \"level\": 11 \x7d",
   "  ],",
   "  \"spells\": [",
   "    \x7b \"name\": \"Light\", \"level\": 11 \x7d",
   "  ],",
   "  \"melee\": [",
   "    \x7b \"name\": \"Broadsword\", \"mode\": \"Swing\", \"level\": \"14\""
     ++ ", \"damage\": \"2d+1 cut\", \"parry\": \"10\", \"block\": \"No\" \x7d,",
   "    \x7b \"name\": \"Broadsword\", \"mode\": \"Thrust\", \"level\": \"14\""
     ++ ", \"damage\": \"1d+2 cr\", \"parry\": \"10\", \"block\": \"No\" \x7d,",
   "    \x7b \"name\": \"Shield Bash\", \"mode\": \"\", \"level\": \"13\""
     ++ ", \"damage\": \"1d cr\", \"parry\": \"No\", \"block\": \"11\" \x7d",
   "  ],",
   "  \"ranged\": [",
   "    \x7b \"name\": \"Crossbow\", \"mode\": \"Repeating\", \"level\": \"13\""
     ++ ", \"damage\": \"1d+4 imp\", \"rof\": \"3\", \"rcl\": \"2\" \x7d",
   "  ],",
   "  \"encumbrance\": [",
   "    \x7b \"level\": 0, \"dodge\": 9, \"move\": 6, \"current\": false \x7d,",
   "    \x7b \"level\": 1, \"dodge\": 8, \"move\": 4, \"current\": true \x7d,",
   "    \x7b \"level\": 2, \"dodge\": 7, \"move\": 3, \"current\": false \x7d,",
   "    \x7b \"level\": 3, \"dodge\": 6, \"move\": 2, \"current\": false \x7d,",
   "    \x7b \"level\": 4, \"dodge\": 5, \"move\": 1, \"current\": false \x7d",
   "  ],",
   "  \"senses\": \x7b \"vision\": 10, \"hearing\": 10, \"touch\": 10, \"tastesmell\": 10"
     ++ ", \"frightcheck\": 11 \x7d,",
   "  \"parry\": null,",
   "  \"block\": null",
   "\x7d"]

/-- The text of the sample character's file. -/
def sampleText : String := "\n".intercalate sampleLines ++ "\n"

/-- The sample character. -/
def sample : Sheet := (read? sampleText).getD {}

end Rollmark.Sheet
