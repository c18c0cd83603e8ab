import Questline.Number.Numeral
import Questline.Pattern.Property
import Questline.Pattern.Regex

/-! Reading regular expressions. A text is read from left to right; the state holds the group that
is open, the groups around it and the flags in force. There are no back references and no
assertions about text further on or before. -/
namespace Questline.Pattern.Reader

open Questline.Text
open Questline.Number (digitsValue hexValue?)

structure Flags where
  ignoreCase : Bool := false
  multiLine : Bool := false
  dotAll : Bool := false
  swapGreed : Bool := false
  /-- Classes and word boundaries know all characters and not only the first 128. -/
  unicode : Bool := true
  carriage : Bool := false
  /-- Blanks and comments in the pattern are skipped. -/
  verbose : Bool := false
deriving Repr

/-! ### Blanks, numbers and escapes -/

/-- Skips blanks, and comments from a number sign to the end of its line. -/
def skipBlanks (inComment : Bool) : List Char → List Char
  | [] => []
  | c :: rest =>
    if inComment then skipBlanks (c ≠ '\n') rest
    else if isBlank c then skipBlanks false rest
    else if c = '#' then skipBlanks true rest
    else c :: rest

def Flags.skip (f : Flags) (cs : List Char) : List Char :=
  if f.verbose then skipBlanks false cs else cs

def isHexDigit (c : Char) : Bool := (hexValue? c).isSome

/-- The character with a hexadecimal number; surrogates and numbers beyond the last character are
refused. -/
def ofHex? (digits : List Char) : Option Char :=
  let n := digits.foldl (fun n c => 16 * n + (hexValue? c).getD 0) 0
  if h : n.isValidChar then some (Char.ofNatAux n h) else none

def hexDigits? (f : Flags) : (count : Nat) → List Char → Option (List Char × List Char)
  | 0, cs => some ([], cs)
  | count + 1, cs =>
    match cs with
    | c :: rest =>
      if isHexDigit c then
        (hexDigits? f count (f.skip rest)).map fun (digits, rest) => (c :: digits, rest)
      else none
    | [] => none

def bracedHex? (f : Flags) : (fuel : Nat) → List Char → Option (List Char × List Char)
  | 0, _ => none
  | fuel + 1, cs =>
    match f.skip cs with
    | '}' :: rest => some ([], f.skip rest)
    | c :: rest =>
      if isHexDigit c then
        (bracedHex? f fuel rest).map fun (digits, rest) => (c :: digits, rest)
      else none
    | [] => none

def hexEscape? (f : Flags) (count : Nat) (cs : List Char) : Option (Char × List Char) := do
  let (digits, rest) ← match f.skip cs with
    | '{' :: more => bracedHex? f (more.length + 1) more
    | more => hexDigits? f count more
  if digits.isEmpty then none
  else return (← ofHex? digits, rest)

inductive Item where
  | literal (c : Char)
  | set (s : CharSet)
  | assertion (a : Assertion)

/-- The characters that have a meaning of their own and are escaped to lose it. -/
def isMeta (c : Char) : Bool :=
  ['\\', '.', '+', '*', '?', '(', ')', '|', '[', ']', '\x7b', '\x7d', '^', '$', '#', '&', '-',
    '~'].contains c

/-- Apart from letters, digits and angle brackets any character below 128 may be escaped. -/
def isEscapable (c : Char) : Bool :=
  isMeta c || (c.toNat < 128 && !c.isAlphanum && c != '<' && c != '>')

def Flags.wordSet (f : Flags) : CharSet := if f.unicode then .word else .plainWord

/-- A class that is written with one letter; a capital letter negates it. -/
def letterClass? (f : Flags) (c : Char) : Option CharSet :=
  let set? := match c.toLower with
    | 'd' => some (if f.unicode then .decimal else CharSet.plainDecimal)
    | 's' => some (if f.unicode then .blank else CharSet.plainBlank)
    | 'w' => some f.wordSet
    | _ => none
  if c.isUpper then if f.unicode then set?.map .negated else none else set?

def Flags.fold (f : Flags) (s : CharSet) : CharSet := if f.ignoreCase then .caseless s else s

/-- A class by property, behind its letter: one letter, or a name between braces. -/
def property? (f : Flags) (isNegated : Bool) (cs : List Char) : Option (CharSet × List Char) :=
  let found? := match f.skip cs with
    | '{' :: rest =>
      match rest.dropWhile (· ≠ '}') with
      | _ :: more =>
        let name := rest.takeWhile (· ≠ '}')
        let name := if f.verbose then name.filter fun c => !isBlank c else name
        (Property.read? name).map (·, f.skip more)
      | [] => none
    | c :: rest => (Property.find? (String.singleton c)).map fun set => ((set, false), f.skip rest)
    | [] => none
  match found? with
  | some ((set, complement), rest) =>
    if !f.unicode then none
    else some (if isNegated == complement then f.fold set else .negated (f.fold set), rest)
  | none => none

def wordBoundary? : String → Option Assertion
  | "start" => some .wordStart
  | "end" => some .wordEnd
  | "start-half" => some .wordStartHalf
  | "end-half" => some .wordEndHalf
  | _ => none

def isBoundaryChar (c : Char) : Bool := c.isAlpha || c = '-'

/-- The letters of a special word boundary, with the blanks between them skipped. -/
def boundaryName (f : Flags) : (fuel : Nat) → List Char → List Char × List Char
  | 0, cs => ([], cs)
  | fuel + 1, cs =>
    match cs with
    | c :: rest =>
      if isBoundaryChar c then
        let (name, rest) := boundaryName f fuel (f.skip rest)
        (c :: name, rest)
      else ([], cs)
    | [] => ([], [])

/-- A word boundary, which may be followed by its kind between braces. What does not begin like a
kind is left for a repetition. -/
def boundary? (f : Flags) (cs : List Char) : Option (Item × List Char) :=
  match cs with
  | '{' :: rest =>
    match f.skip rest with
    | [] => none
    | c :: more =>
      if isBoundaryChar c then
        match boundaryName f (more.length + 1) (c :: more) with
        | (name, '}' :: rest) =>
          (wordBoundary? (String.ofList name)).map fun a => (.assertion a, rest)
        | _ => none
      else some (.assertion .boundary, cs)
  | _ => some (.assertion .boundary, cs)

def escape? (f : Flags) : List Char → Option (Item × List Char)
  | [] => none
  | c :: rest =>
    match c with
    | 'x' => (hexEscape? f 2 rest).map fun (c, rest) => (.literal c, rest)
    | 'u' => (hexEscape? f 4 rest).map fun (c, rest) => (.literal c, rest)
    | 'U' => (hexEscape? f 8 rest).map fun (c, rest) => (.literal c, rest)
    | 'a' => some (.literal '\x07', rest)
    | 'f' => some (.literal '\x0c', rest)
    | 't' => some (.literal '\t', rest)
    | 'n' => some (.literal '\n', rest)
    | 'r' => some (.literal '\r', rest)
    | 'v' => some (.literal '\x0b', rest)
    | 'A' => some (.assertion .textStart, rest)
    | 'z' => some (.assertion .textEnd, rest)
    | 'b' => boundary? f rest
    | 'p' | 'P' => (property? f (c = 'P') rest).map fun (s, rest) => (.set s, rest)
    | 'B' => some (.assertion .noBoundary, rest)
    | '<' => some (.assertion .wordStart, rest)
    | '>' => some (.assertion .wordEnd, rest)
    | _ =>
      if isEscapable c then some (.literal c, rest)
      else (letterClass? f c).map fun s => (.set s, rest)

/-! ### Classes between brackets -/

inductive SetOperation where
  | intersection
  | difference
  | symmetricDifference

structure OpenClass where
  isNegated : Bool
  /-- The operation before the members, with its left side. -/
  operation : Option (SetOperation × CharSet) := none
  members : List CharSet := []

def OpenClass.current (f : Flags) (o : OpenClass) : CharSet :=
  let right := CharSet.unions o.members
  match o.operation with
  | none => right
  | some (.intersection, left) => .intersection (f.fold left) (f.fold right)
  | some (.difference, left) => .difference (f.fold left) (f.fold right)
  | some (.symmetricDifference, left) => .symmetricDifference (f.fold left) (f.fold right)

def OpenClass.close? (f : Flags) (o : OpenClass) : Option CharSet :=
  let set := f.fold (o.current f)
  if o.isNegated then if f.unicode then some (.negated set) else none else some set

def OpenClass.add (o : OpenClass) (s : CharSet) : OpenClass := { o with members := s :: o.members }

def OpenClass.operate (f : Flags) (o : OpenClass) (op : SetOperation) : OpenClass :=
  { o with operation := some (op, o.current f), members := [] }

/-- Hyphens at the start of a class, each of which stands for itself. -/
def leadingHyphens (f : Flags) : (fuel : Nat) → OpenClass → List Char → OpenClass × List Char
  | fuel + 1, o, '-' :: rest => leadingHyphens f fuel (o.add (.single '-')) (f.skip rest)
  | _, o, cs => (o, cs)

/-- The start of a class after its opening bracket. A closing bracket stands for itself if it comes
first. -/
def openClass (f : Flags) (cs : List Char) : OpenClass × List Char :=
  let cs := f.skip cs
  let (isNegated, cs) := match cs with
    | '^' :: rest => (true, f.skip rest)
    | _ => (false, cs)
  let (o, cs) := leadingHyphens f cs.length { isNegated } cs
  match o.members, cs with
  | [], ']' :: rest => (o.add (.single ']'), f.skip rest)
  | _, _ => (o, cs)

/-- A class by name, such as the letters, after its opening bracket. -/
def namedClass? (f : Flags) : List Char → Option (CharSet × List Char)
  | ':' :: rest =>
    let (isNegated, rest) := match rest with
      | '^' :: more => (true, more)
      | _ => (false, rest)
    let name := rest.takeWhile (· ≠ ':')
    match rest.dropWhile (· ≠ ':') with
    | ':' :: ']' :: more =>
      (CharSet.named? (String.ofList name)).bind fun set =>
        (OpenClass.close? f { isNegated, members := [set] }).map fun set => (set, more)
    | _ => none
  | _ => none

def classItem? (f : Flags) : List Char → Option (Item × List Char)
  | '\\' :: rest => escape? f rest
  | c :: rest => some (.literal c, rest)
  | [] => none

def Item.member? (f : Flags) : Item → Option CharSet
  | .literal c => if f.unicode || c.toNat < 128 then some (.single c) else none
  | .set s => some s
  | .assertion _ => none

def classRange? (f : Flags) (cs : List Char) : Option (CharSet × List Char) := do
  let (first, rest) ← classItem? f cs
  match f.skip rest with
  | '-' :: more =>
    match f.skip more with
    | ']' :: _ | '-' :: _ => return (← first.member? f, f.skip rest)
    | [] => none
    | more =>
      let (last, rest) ← classItem? f more
      match first, last with
      | .literal a, .literal b =>
        if a ≤ b && (f.unicode || b.toNat < 128) then some (.between a b, rest) else none
      | _, _ => none
  | rest => return (← first.member? f, rest)

/-- Reads the rest of a class, whose inner part is `inner` and which may stand inside others. -/
def bracket? (f : Flags) :
    (fuel : Nat) → (inner : OpenClass) → (around : List OpenClass) → List Char →
    Option (CharSet × List Char)
  | 0, _, _, _ => none
  | fuel + 1, inner, around, cs =>
    match f.skip cs with
    | [] => none
    | '[' :: rest =>
      match namedClass? f rest with
      | some (set, rest) => bracket? f fuel (inner.add set) around rest
      | none =>
        let (o, rest) := openClass f rest
        bracket? f fuel o (inner :: around) rest
    | ']' :: rest =>
      match inner.close? f, around with
      | none, _ => none
      | some set, [] => some (set, rest)
      | some set, outer :: around => bracket? f fuel (outer.add set) around rest
    | '&' :: '&' :: rest => bracket? f fuel (inner.operate f .intersection) around rest
    | '-' :: '-' :: rest => bracket? f fuel (inner.operate f .difference) around rest
    | '~' :: '~' :: rest => bracket? f fuel (inner.operate f .symmetricDifference) around rest
    | more =>
      match classRange? f more with
      | some (set, rest) => bracket? f fuel (inner.add set) around rest
      | none => none

/-! ### Repetition counts -/

/-- A number with blanks around it, absent where no digit stands. -/
def count (f : Flags) (cs : List Char) : Option Nat × List Char :=
  let cs := cs.dropWhile isBlank
  let digits := cs.takeWhile isPlainDigit
  let rest := f.skip ((cs.dropWhile isPlainDigit).dropWhile isBlank)
  (if digits.isEmpty then none else some (digitsValue 0 digits), rest)

def countLimit : Nat := Nat.pow 2 32

/-- The bounds of a counted repetition after its opening brace. -/
def bounds? (f : Flags) (cs : List Char) : Option (Nat × Option Nat × List Char) := do
  let (least?, rest) := count f (f.skip cs)
  let least ← least?
  if countLimit ≤ least then none
  else
    match rest with
    | '}' :: rest => some (least, some least, rest)
    | ',' :: rest =>
      match f.skip rest with
      | '}' :: rest => some (least, none, rest)
      | more =>
        let (most?, rest) := count f more
        let most ← most?
        match rest with
        | '}' :: rest =>
          if least ≤ most && most < countLimit then some (least, some most, rest) else none
        | _ => none
    | _ => none

/-! ### Groups -/

/-- How a group came to be: the whole pattern, a numbered group or one that is not numbered. -/
inductive GroupKind where
  | whole
  | numbered (index : Nat)
  | plain

structure OpenGroup where
  kind : GroupKind
  outerFlags : Flags
  /-- The finished alternatives, last first. -/
  alternatives : List Regex := []
  /-- The parts of the current alternative, last first; a change of flags is a part without a
  regular expression. -/
  parts : List (Option Regex) := []

def joinParts (parts : List (Option Regex)) : Regex :=
  parts.foldl (fun rest part =>
    match part, rest with
    | none, rest => rest
    | some r, .empty => r
    | some r, rest => .sequence r rest) .empty

def OpenGroup.close (g : OpenGroup) : Regex :=
  let body := g.alternatives.foldl (fun rest r => .choice r rest) (joinParts g.parts)
  match g.kind with
  | .numbered index => .group index body
  | .whole | .plain => body

structure State where
  inner : OpenGroup
  around : List OpenGroup := []
  flags : Flags
  groups : Nat := 0
  names : List String := []

def State.add (s : State) (r : Regex) : State :=
  { s with inner := { s.inner with parts := some r :: s.inner.parts } }

def State.enter (s : State) (kind : GroupKind) (flags : Flags) : State :=
  { s with inner := { kind, outerFlags := s.flags }, around := s.inner :: s.around, flags }

def State.repeatLast? (s : State) (least : Nat) (most : Option Nat) (lazy : Bool) : Option State :=
  match s.inner.parts with
  | some r :: parts =>
    let greedy := lazy == s.flags.swapGreed
    let repeated := Regex.repeating r least most greedy
    some { s with inner := { s.inner with parts := some repeated :: parts } }
  | _ => none

/-- The question mark that makes a repetition as short as possible. -/
def takeLazy : List Char → Bool × List Char
  | '?' :: rest => (true, rest)
  | cs => (false, cs)

def Flags.set? (f : Flags) (on : Bool) : Char → Option Flags
  | 'i' => some { f with ignoreCase := on }
  | 'm' => some { f with multiLine := on }
  | 's' => some { f with dotAll := on }
  | 'U' => some { f with swapGreed := on }
  | 'u' => some { f with unicode := on }
  | 'R' => some { f with carriage := on }
  | 'x' => some { f with verbose := on }
  | _ => none

/-- Flags up to a colon or a closing parenthesis, which is given too. No flag stands twice, and a
minus sign is followed by a flag and stands once. -/
def flags? (f : Flags) (seen : List Char) : List Char → Option (Flags × Char × List Char)
  | [] => none
  | c :: rest =>
    if c = ':' || c = ')' then if seen.head? = some '-' then none else some (f, c, rest)
    else if seen.contains c then none
    else if c = '-' then flags? f ('-' :: seen) rest
    else
      match f.set? (!seen.contains '-') c with
      | some f => flags? f (c :: seen) rest
      | none => none

def isNameStart (c : Char) : Bool := c = '_' || alphabeticTable.contains c

def isNameChar (c : Char) : Bool :=
  c = '_' || c = '.' || c = '[' || c = ']' || isAlphanumeric c

def groupName? (cs : List Char) : Option (String × List Char) :=
  let name := cs.takeWhile (· ≠ '>')
  match name, cs.dropWhile (· ≠ '>') with
  | first :: others, '>' :: rest =>
    if isNameStart first && others.all isNameChar then some (String.ofList name, rest) else none
  | _, _ => none

def State.openNumbered (s : State) : State :=
  let index := s.groups + 1
  { s.enter (.numbered index) s.flags with groups := index }

def State.openNamed? (s : State) (cs : List Char) : Option (State × List Char) := do
  let (name, rest) ← groupName? cs
  if s.names.contains name then none
  else some ({ s.openNumbered with names := name :: s.names }, rest)

def State.enterGroup? (s : State) (cs : List Char) : Option (State × List Char) :=
  match s.flags.skip cs with
  | '?' :: '=' :: _ | '?' :: '!' :: _ | '?' :: '<' :: '=' :: _ | '?' :: '<' :: '!' :: _ => none
  | '?' :: 'P' :: '<' :: rest => s.openNamed? rest
  | '?' :: '<' :: rest => s.openNamed? rest
  | '?' :: rest =>
    match flags? s.flags [] rest with
    | some (flags, ':', rest) => some (s.enter .plain flags, rest)
    | some (flags, _, more) =>
      if rest.head? = some ')' then none
      else some ({ s with flags, inner := { s.inner with parts := none :: s.inner.parts } }, more)
    | none => none
  | rest => some (s.openNumbered, rest)

def State.close? (s : State) : Option State :=
  match s.around with
  | [] => none
  | outer :: around =>
    some ({ s with inner := outer, around, flags := s.inner.outerFlags }.add s.inner.close)

def State.alternative (s : State) : State :=
  { s with inner := { s.inner with
      alternatives := joinParts s.inner.parts :: s.inner.alternatives, parts := [] } }

def Flags.dot? (f : Flags) : Option CharSet :=
  if !f.unicode then none
  else if f.dotAll then some (.negated .none)
  else if f.carriage then some (.negated (.union (.single '\n') (.single '\r')))
  else some (.negated (.single '\n'))

def Flags.lineStart (f : Flags) : Assertion :=
  if f.multiLine then if f.carriage then .lineStartReturn else .lineStart else .textStart

def Flags.lineEnd (f : Flags) : Assertion :=
  if f.multiLine then if f.carriage then .lineEndReturn else .lineEnd else .textEnd

def Item.regex (f : Flags) : Item → Regex
  | .literal c => .chars (f.fold (.single c))
  | .set s => .chars s
  | .assertion a => .check f.wordSet a

def State.step? (s : State) (c : Char) (rest : List Char) : Option (State × List Char) :=
  match c with
  | '(' => s.enterGroup? rest
  | ')' => s.close?.map (·, rest)
  | '|' => some (s.alternative, rest)
  | '[' =>
    let (o, more) := openClass s.flags rest
    (bracket? s.flags (more.length + 1) o [] more).map fun (set, rest) => (s.add (.chars set), rest)
  | '?' =>
    let (lazy, rest) := takeLazy rest
    (s.repeatLast? 0 (some 1) lazy).map (·, rest)
  | '*' =>
    let (lazy, rest) := takeLazy rest
    (s.repeatLast? 0 none lazy).map (·, rest)
  | '+' =>
    let (lazy, rest) := takeLazy rest
    (s.repeatLast? 1 none lazy).map (·, rest)
  | '{' => do
    let (least, most, rest) ← bounds? s.flags rest
    let (lazy, rest) := takeLazy (s.flags.skip rest)
    return (← s.repeatLast? least most lazy, rest)
  | '\\' => (escape? s.flags rest).map fun (item, rest) => (s.add (item.regex s.flags), rest)
  | '.' => s.flags.dot?.map fun set => (s.add (.chars set), rest)
  | '^' => some (s.add (.check s.flags.wordSet s.flags.lineStart), rest)
  | '$' => some (s.add (.check s.flags.wordSet s.flags.lineEnd), rest)
  | _ => some (s.add ((Item.literal c).regex s.flags), rest)

def loop? : (fuel : Nat) → State → List Char → Option Regex
  | 0, _, _ => none
  | fuel + 1, s, cs =>
    match s.flags.skip cs with
    | [] => if s.around.isEmpty then some s.inner.close else none
    | c :: rest =>
      match s.step? c rest with
      | some (s, rest) => loop? fuel s rest
      | none => none

/-- The regular expression that a text writes, if it is one. Each construct has at least one
character, so there are no more steps than characters. -/
def read? (pattern : String) (ignoreCase : Bool) : Option Regex :=
  let flags : Flags := { ignoreCase }
  let cs := pattern.toList
  loop? (cs.length + 1) { inner := { kind := .whole, outerFlags := flags }, flags } cs

end Questline.Pattern.Reader
