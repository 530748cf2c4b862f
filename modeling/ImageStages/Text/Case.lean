import ImageStages.Text.CaseRanges
import ImageStages.Text.CaseShifts

namespace ImageStages.Text

def startsCased (s : Text) : Bool :=
  (s.dropWhile isMark).head?.any isCased

/-- The lower case of a letter between those before it, the nearest first, and those
after it.  A sigma at the end of a word has a form of its own. -/
def lowerAt (before : Text) (c : CodePoint) (after : Text) : Text :=
  if c = 'Σ' then [if startsCased before && !startsCased after then 'ς' else 'σ']
  else if c = 'İ' then ['i', '\u0307']
  else [shifted lowerShifts c]

/-- The lower case of characters; `before` are those before them, the nearest first. -/
def lowerFrom (before : Text) : Text → Text
  | [] => []
  | c :: rest => lowerAt before c rest ++ lowerFrom (c :: before) rest

def titleOf (c : CodePoint) : Text :=
  match titleExpansions.find? (·.1 == c.toNat) with
  | some expansion => expansion.2.map CodePoint.ofNat
  | none => [shifted titleShifts c]

def capitalize : Text → Text
  | [] => []
  | c :: rest => titleOf c ++ lowerFrom [c] rest

end ImageStages.Text
