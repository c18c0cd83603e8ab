import Questline.Text.Letters
import Questline.Text.Digits

/-! Character classes. Scripts, labels and game text may hold any character, so each class is that
of the whole character set and not only of its first 128 members. -/
namespace Questline.Text

/-- The blanks (property White_Space): what trimming removes and what separates words. -/
def blankTable : RangeTable := ⟨[
  (0x0009, 0x000D), (0x0020, 0x0020), (0x0085, 0x0085), (0x00A0, 0x00A0), (0x1680, 0x1680),
  (0x2000, 0x200A), (0x2028, 0x2029), (0x202F, 0x202F), (0x205F, 0x205F), (0x3000, 0x3000)]⟩

def isBlank (c : Char) : Bool := blankTable.contains c

/-- A decimal digit of any script. -/
def isDecimal (c : Char) : Bool := decimalTable.contains c

/-- A character of a keyword or of a variable reference: a letter, a decimal digit, a mark,
connecting punctuation such as the underscore, or a joiner. -/
def isWord (c : Char) : Bool :=
  alphabeticTable.contains c || isDecimal c || wordExtraTable.contains c

/-- A letter or a number of any kind. Unlike `isWord` this admits fractions and circled numbers and
excludes marks and the underscore. -/
def isAlphanumeric (c : Char) : Bool := alphabeticTable.contains c || numericTable.contains c

/-- One of the ten digits `0` to `9`. -/
def isPlainDigit (c : Char) : Bool := '0' ≤ c && c ≤ '9'

end Questline.Text
