import Questline.Text.Classes
import Questline.Text.CaseData

/-! Lower case and comparison without regard to case. -/
namespace Questline.Text

def isCased (c : Char) : Bool := casedTable.contains c

def isCaseIgnorable (c : Char) : Bool := caseIgnorableTable.contains c

/-- Whether the first character that is not looked through has case. -/
def meetsCased (cs : List Char) : Bool :=
  match cs.dropWhile isCaseIgnorable with
  | [] => false
  | c :: _ => isCased c

/-- The lower-case form of a character where its neighbours do not matter. The capital dotted I is
the only character whose form has two characters. -/
def lowerChar (c : Char) : List Char :=
  if c = '\u0130' then ['i', '\u0307'] else [Char.ofNat (shifted lowerRuns c.toNat)]

/-- The lower-case form of the capital sigma between the characters before it, nearest first, and
the characters after it: the final form at the end of a word, else the plain one. -/
def lowerSigma (before after : List Char) : Char :=
  if meetsCased before && !meetsCased after then 'ς' else 'σ'

/-- Lower case of the characters that follow `before`, which is given nearest first. -/
def lowerFrom (before : List Char) : List Char → List Char
  | [] => []
  | c :: rest =>
    (if c = 'Σ' then [lowerSigma before rest] else lowerChar c) ++ lowerFrom (c :: before) rest

def lower (s : String) : String := String.ofList (lowerFrom [] s.toList)

/-- The representative of all characters that are equal to `c` when case is ignored. -/
def foldChar (c : Char) : Char := Char.ofNat (shifted foldRuns c.toNat)

/-- All characters equal to `c` when case is ignored, `c` itself among them. -/
def caseOrbit (c : Char) : List Char :=
  let representative := shifted foldRuns c.toNat
  c :: Char.ofNat representative :: (shiftedTo foldRuns representative).map Char.ofNat

end Questline.Text
