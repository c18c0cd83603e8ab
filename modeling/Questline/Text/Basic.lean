import Questline.Text.Classes

/-! Trimming and splitting of texts. The work is done on lists of characters; each operation has a
form on `String` beside it. -/
namespace Questline.Text

def trimEndChars (cs : List Char) : List Char := (cs.reverse.dropWhile isBlank).reverse

def trimChars (cs : List Char) : List Char := trimEndChars (cs.dropWhile isBlank)

def trim (s : String) : String := String.ofList (trimChars s.toList)

/-- The words of a text: its maximal runs of characters that are not blank. -/
def wordsChars : List Char → List (List Char)
  | [] => []
  | c :: rest =>
    if isBlank c then wordsChars rest
    else
      match rest, wordsChars rest with
      | next :: _, word :: more =>
        if isBlank next then [c] :: word :: more else (c :: word) :: more
      | _, more => [c] :: more

def words (s : String) : List String := (wordsChars s.toList).map String.ofList

/-- The first word, or the empty text where there is none. -/
def firstWord (s : String) : String := (words s).headD ""

/-- The lines of a text. A line feed ends a line, so none follows a line feed at the very end. -/
def linesChars : List Char → List (List Char)
  | [] => []
  | c :: rest =>
    if c = '\n' then [] :: linesChars rest
    else
      match linesChars rest with
      | [] => [[c]]
      | line :: more => (c :: line) :: more

def lines (s : String) : List String := (linesChars s.toList).map String.ofList

/-- The stretches of a text between the places where `mark` stands, empty ones included. There is
one more of them than there are marks. -/
def cutChars (mark : Char) : List Char → List (List Char)
  | [] => [[]]
  | c :: rest =>
    if c = mark then [] :: cutChars mark rest
    else
      match cutChars mark rest with
      | [] => [[c]]
      | piece :: more => (c :: piece) :: more

def cut (mark : Char) (s : String) : List String := (cutChars mark s.toList).map String.ofList

/-- What follows `start` in a text that begins with it. -/
def afterStart? : (start cs : List Char) → Option (List Char)
  | [], cs => some cs
  | _ :: _, [] => none
  | s :: start, c :: cs => if s = c then afterStart? start cs else none

def startsWith (s start : String) : Bool := (afterStart? start.toList s.toList).isSome

/-- What follows `start` in `s`, if `s` begins with it. -/
def strip? (s start : String) : Option String :=
  (afterStart? start.toList s.toList).map String.ofList

/-- Whether `part` occurs in the text as a contiguous run. -/
def occursChars (part : List Char) : List Char → Bool
  | [] => part.isEmpty
  | c :: rest => (afterStart? part (c :: rest)).isSome || occursChars part rest

def occurs (part s : String) : Bool := occursChars part.toList s.toList

def spaced (ws : List String) : String := " ".intercalate ws

/-- Lower case of the letters `A` to `Z` only. -/
def lowerPlain (s : String) : String := String.ofList (s.toList.map Char.toLower)

/-- Upper case of the letters `a` to `z` only. -/
def upperPlain (s : String) : String := String.ofList (s.toList.map Char.toUpper)

end Questline.Text
