import Questline.Matcher
import Questline.Number.Numeral
import Questline.Text.Case

/-! How commands read their arguments. -/
namespace Questline.Arguments

open Text

def isInk (c : Char) : Bool := !isBlank c

def headAndRest (cs : List Char) : List Char × List Char :=
  (cs.takeWhile isInk, (cs.dropWhile isInk).dropWhile isBlank)

/-- The keyword of a command line and its arguments. The keyword consists of word characters and
ends at a blank or at the end of the line; the arguments stay on one line. -/
def splitLine? (cs : List Char) : Option (List Char × List Char) :=
  let keyword := cs.takeWhile isWord
  if keyword.isEmpty then none
  else
    match cs.dropWhile isWord with
    | [] => some (keyword, [])
    | c :: rest =>
      let arguments := rest.dropWhile isBlank
      if isBlank c && !arguments.contains '\n' then some (keyword, arguments) else none

theorem length_lt_of_splitLine? {cs keyword arguments : List Char}
    (h : splitLine? cs = some (keyword, arguments)) : arguments.length < cs.length := by
  have whole : (cs.takeWhile isWord).length + (cs.dropWhile isWord).length = cs.length := by
    rw [← List.length_append, List.takeWhile_append_dropWhile]
  unfold splitLine? at h
  simp only at h
  split at h
  · simp at h
  · next notEmpty =>
    have positive : 0 < (cs.takeWhile isWord).length := by
      cases hk : cs.takeWhile isWord with
      | nil => simp [hk] at notEmpty
      | cons => simp
    split at h
    · simp only [Option.some.injEq, Prod.mk.injEq] at h
      rw [← h.2]
      simp only [List.length_nil]
      omega
    · next c rest hrest =>
      have shorter := (List.dropWhile_sublist (l := rest) isBlank).length_le
      rw [hrest] at whole
      simp only [List.length_cons] at whole
      split at h
      · simp only [Option.some.injEq, Prod.mk.injEq] at h
        rw [← h.2]
        omega
      · simp at h

def named? (arguments : String) : Option (String × String) :=
  let (name, rest) := headAndRest (trimChars arguments.toList)
  if name.isEmpty || rest.contains '\n' then none
  else some (String.ofList name, String.ofList rest)

def labelAndText? (arguments : String) : Option (String × String) :=
  match named? arguments with
  | some (label, text) => if text.isEmpty then none else some (label, text)
  | none => none

/-- A pattern between slashes with flags behind it. The last slash ends the pattern, so the pattern
may hold slashes itself. -/
def delimited? : List Char → Option (String × String)
  | '/' :: body =>
    let flags := (body.reverse.takeWhile isWord).reverse
    match body.reverse.dropWhile isWord with
    | '/' :: pattern =>
      if pattern.contains '\n' then none
      else some (String.ofList pattern.reverse, String.ofList flags)
    | _ => none
  | _ => none

def labelAndPattern? (arguments : String) : Option (String × String × String) :=
  let (label, rest) := headAndRest (trimChars arguments.toList)
  if label.isEmpty then none
  else (delimited? rest).map fun (pattern, flags) => (String.ofList label, pattern, flags)

def pattern? (arguments : String) : Option (String × String) :=
  delimited? (trimChars arguments.toList)

def ignoresCase (flags : String) : Bool := flags.toList.contains 'i'

/-- Two numerals with blanks between them; what follows them is not looked at. -/
def twoNumerals? (arguments : String) : Option (String × String) :=
  let cs := trimChars arguments.toList
  let low := cs.takeWhile isDecimal
  match cs.dropWhile isDecimal with
  | c :: rest =>
    let high := (rest.dropWhile isBlank).takeWhile isDecimal
    if isBlank c && !low.isEmpty && !high.isEmpty then some (String.ofList low, String.ofList high)
    else none
  | [] => none

def actionAndName? (arguments : String) : Option (String × Option String) :=
  let cs := trimChars arguments.toList
  let action := cs.takeWhile isWord
  if action.isEmpty then none
  else
    let name := match cs.dropWhile isWord with
      | c :: rest => if isBlank c then (rest.dropWhile isBlank).takeWhile isInk else []
      | [] => []
    some (lower (String.ofList action), if name.isEmpty then none else some (String.ofList name))

/-- A number of seconds: finite and not negative. -/
def seconds? (text : String) : Option Float :=
  (Number.read? text).filter fun seconds => Number.isFinite seconds && 0 ≤ seconds

/-- A number of 32 bits in plain digits. -/
def word32? (text : String) : Option Nat := (Number.readNat? text).filter (· < Nat.pow 2 32)

end Questline.Arguments
