import Questline.Pattern.CharSet
import Questline.Text.LetterKinds
import Questline.Text.MarkKinds
import Questline.Text.Scripts
import Questline.Text.SymbolKinds

/-! Sets of characters that patterns name by a property: a general category, a script or a yes-or-no
property. Letter case, blanks, hyphens and underscores in a name do not matter, nor does `is` in
front of it. -/
namespace Questline.Pattern.Property

open Questline.Text

def normalize (name : String) : String :=
  let cs := name.toList
  let cs := match cs with
    | first :: second :: rest =>
      if first.toLower = 'i' && second.toLower = 's' then rest else cs
    | _ => cs
  let kept := cs.filter fun c => c ≠ ' ' && c ≠ '_' && c ≠ '-' && c.toNat < 128
  String.ofList (kept.map Char.toLower)

def ofRuns (tables : List RunTable) : CharSet := .unions (tables.map .runs)

def casedLetter : CharSet := ofRuns [uppercaseLetters, lowercaseLetters, titlecaseLetters]

def letter : CharSet := .union casedLetter (ofRuns [modifierLetters, otherLetters])

def mark : CharSet := ofRuns [nonspacingMarks, spacingMarks, enclosingMarks]

def number : CharSet := .union .decimal (ofRuns [letterNumbers, otherNumbers])

def punctuation : CharSet :=
  ofRuns [connectors, dashes, openingMarks, closingMarks, initialQuotes, finalQuotes,
    otherPunctuation]

def symbol : CharSet := ofRuns [mathSymbols, currencySymbols, modifierSymbols, otherSymbols]

def separator : CharSet := .union (.runs spaces) (.between '\u2028' '\u2029')

/-- Everything that is not seen, which includes what is no character yet. -/
def other : CharSet :=
  .negated (.unions [letter, mark, number, punctuation, symbol, separator])

def unassigned : CharSet := .difference other (ofRuns [controls, formats, privateUse])

/-- General categories by their long and short names. -/
def category? : String → Option CharSet
  | "any" => some (.negated .none)
  | "ascii" => some (.plain [(0x00, 0x7F)])
  | "assigned" => some (.negated unassigned)
  | "c" | "other" => some other
  | "cc" | "control" | "cntrl" => some (.runs controls)
  | "cf" | "format" => some (.runs formats)
  | "cn" | "unassigned" => some unassigned
  | "co" | "privateuse" => some (.runs privateUse)
  | "l" | "letter" => some letter
  | "lc" | "casedletter" => some casedLetter
  | "ll" | "lowercaseletter" => some (.runs lowercaseLetters)
  | "lm" | "modifierletter" => some (.runs modifierLetters)
  | "lo" | "otherletter" => some (.runs otherLetters)
  | "lt" | "titlecaseletter" => some (.runs titlecaseLetters)
  | "lu" | "uppercaseletter" => some (.runs uppercaseLetters)
  | "m" | "mark" | "combiningmark" => some mark
  | "mc" | "spacingmark" => some (.runs spacingMarks)
  | "me" | "enclosingmark" => some (.runs enclosingMarks)
  | "mn" | "nonspacingmark" => some (.runs nonspacingMarks)
  | "n" | "number" => some number
  | "nd" | "decimalnumber" | "digit" => some .decimal
  | "nl" | "letternumber" => some (.runs letterNumbers)
  | "no" | "othernumber" => some (.runs otherNumbers)
  | "p" | "punctuation" | "punct" => some punctuation
  | "pc" | "connectorpunctuation" => some (.runs connectors)
  | "pd" | "dashpunctuation" => some (.runs dashes)
  | "pe" | "closepunctuation" => some (.runs closingMarks)
  | "pf" | "finalpunctuation" => some (.runs finalQuotes)
  | "pi" | "initialpunctuation" => some (.runs initialQuotes)
  | "po" | "otherpunctuation" => some (.runs otherPunctuation)
  | "ps" | "openpunctuation" => some (.runs openingMarks)
  | "s" | "symbol" => some symbol
  | "sc" | "currencysymbol" => some (.runs currencySymbols)
  | "sk" | "modifiersymbol" => some (.runs modifierSymbols)
  | "sm" | "mathsymbol" => some (.runs mathSymbols)
  | "so" | "othersymbol" => some (.runs otherSymbols)
  | "z" | "separator" => some separator
  | "zl" | "lineseparator" => some (.single '\u2028')
  | "zp" | "paragraphseparator" => some (.single '\u2029')
  | "zs" | "spaceseparator" => some (.runs spaces)
  | _ => none

def script? : String → Option CharSet
  | "arabic" | "arab" => some (.runs Scripts.arabic)
  | "armenian" | "armn" => some (.runs Scripts.armenian)
  | "cyrillic" | "cyrl" => some (.runs Scripts.cyrillic)
  | "devanagari" | "deva" => some (.runs Scripts.devanagari)
  | "georgian" | "geor" => some (.runs Scripts.georgian)
  | "greek" | "grek" => some (.runs Scripts.greek)
  | "han" | "hani" => some (.runs Scripts.han)
  | "hangul" | "hang" => some (.runs Scripts.hangul)
  | "hebrew" | "hebr" => some (.runs Scripts.hebrew)
  | "hiragana" | "hira" => some (.runs Scripts.hiragana)
  | "katakana" | "kana" => some (.runs Scripts.katakana)
  | "latin" | "latn" => some (.runs Scripts.latin)
  | "thai" => some (.runs Scripts.thai)
  | _ => none

/-- Numerals and symbols that count as capital letters. -/
def capitalSymbols : List (Nat × Nat) :=
  [(0x2160, 0x216F), (0x24B6, 0x24CF), (0x1F130, 0x1F149), (0x1F150, 0x1F169), (0x1F170, 0x1F189)]

/-- Modifiers, marks, numerals and symbols that count as small letters. -/
def smallSymbols : List (Nat × Nat) :=
  [(0xAA, 0xAA), (0xBA, 0xBA), (0x2B0, 0x2B8), (0x2C0, 0x2C1), (0x2E0, 0x2E4), (0x345, 0x345),
    (0x37A, 0x37A), (0x10FC, 0x10FC), (0x1D2C, 0x1D6A), (0x1D78, 0x1D78), (0x1D9B, 0x1DBF),
    (0x2071, 0x2071), (0x207F, 0x207F), (0x2090, 0x209C), (0x2170, 0x217F), (0x24D0, 0x24E9),
    (0x2C7C, 0x2C7D), (0xA69C, 0xA69D), (0xA770, 0xA770), (0xA7F2, 0xA7F4), (0xA7F8, 0xA7F9),
    (0xAB5C, 0xAB5F), (0xAB69, 0xAB69), (0x10780, 0x10780), (0x10783, 0x10785), (0x10787, 0x107B0),
    (0x107B2, 0x107BA), (0x1E030, 0x1E06D)]

/-- Properties that a character has or has not. -/
def flag? : String → Option CharSet
  | "alphabetic" | "alpha" => some (.ranges alphabeticTable)
  | "cased" => some (.ranges casedTable)
  | "caseignorable" | "ci" => some (.ranges caseIgnorableTable)
  | "joincontrol" | "joinc" => some (.between '\u200C' '\u200D')
  | "lowercase" | "lower" => some (.union (.runs lowercaseLetters) (.plain smallSymbols))
  | "uppercase" | "upper" => some (.union (.runs uppercaseLetters) (.plain capitalSymbols))
  | "whitespace" | "wspace" | "space" => some .blank
  | _ => none

def find? (name : String) : Option CharSet :=
  let name := normalize name
  (flag? name).or ((category? name).or (script? name))

def findValue? (property value : String) : Option CharSet :=
  match normalize property with
  | "gc" | "generalcategory" => category? (normalize value)
  | "sc" | "script" => script? (normalize value)
  | _ => none

/-- A set as it is written between braces: a name, or a property and a value with a sign between
them. The second component tells whether the sign asks for the complement. -/
def read? (cs : List Char) : Option (CharSet × Bool) :=
  let before (p : Char → Bool) := String.ofList (cs.takeWhile fun c => !p c)
  let rest (p : Char → Bool) := (cs.dropWhile fun c => !p c).drop 1
  if cs.contains '!' then
    match rest (· = '!') with
    | '=' :: value => (findValue? (before (· = '!')) (String.ofList value)).map (·, true)
    | _ => none
  else if cs.contains ':' then
    (findValue? (before (· = ':')) (String.ofList (rest (· = ':')))).map (·, false)
  else if cs.contains '=' then
    (findValue? (before (· = '=')) (String.ofList (rest (· = '=')))).map (·, false)
  else (find? (String.ofList cs)).map (·, false)

end Questline.Pattern.Property
