import Questline.Number.Binary64

/-! Decimal notation. A numeral is read as an exact decimal and then rounded once; a double is
written with the fewest digits that read back as the same double. -/
namespace Questline.Number

/-- The exact number `digits · 10 ^ exponent`. -/
structure Decimal where
  digits : Nat
  exponent : Int
deriving Repr, DecidableEq

/-- The order of a decimal and `m · 2 ^ q`. -/
def Decimal.compareBinary (d : Decimal) (m : Nat) (q : Int) : Ordering :=
  compare (d.digits * Nat.pow 10 d.exponent.toNat * Nat.pow 2 (-q).toNat)
    (m * Nat.pow 2 q.toNat * Nat.pow 10 (-d.exponent).toNat)

/-- How many decimal digits `n` has; zero has one. -/
def digitCount (n : Nat) : Nat := (Nat.toDigits 10 n).length

/-- The double closest to a decimal. Decimals far outside the range of doubles are told apart by
their number of digits, so that no power of ten beyond that range is computed. -/
def Decimal.toFloat (negative : Bool) (d : Decimal) : Float :=
  let size : Int := d.exponent + digitCount d.digits
  if d.digits = 0 || size < -330 then nearest negative 0 1
  else if 310 < size then infinity negative
  else nearest negative (d.digits * Nat.pow 10 d.exponent.toNat) (Nat.pow 10 (-d.exponent).toNat)

/-! ### The fewest digits that read back -/

/-- Whether a decimal rounds to the double `m · 2 ^ q`: it lies between the midpoints to the two
neighbouring doubles, and may be a midpoint itself only when `m` is even. -/
def readsBackAs (m : Nat) (q : Int) (d : Decimal) : Bool :=
  let low := if m = leastNormal && leastExponent < q then 4 * m - 1 else 4 * m - 2
  let high := 4 * m + 2
  match d.compareBinary low (q - 2), d.compareBinary high (q - 2) with
  | .gt, .lt => true
  | .eq, _ | _, .eq => m % 2 == 0
  | _, _ => false

/-- Of the two multiples of `10 ^ grid` around `m · 2 ^ q`, the one that reads back; if both do, the
nearer one, and the upper one at equal distance. -/
def onGrid? (m : Nat) (q grid : Int) : Option Decimal :=
  let down := m * Nat.pow 2 q.toNat * Nat.pow 10 (-grid).toNat /
    (Nat.pow 2 (-q).toNat * Nat.pow 10 grid.toNat)
  let lower : Decimal := ⟨down, grid⟩
  let upper : Decimal := ⟨down + 1, grid⟩
  match readsBackAs m q lower, readsBackAs m q upper with
  | true, true =>
    if (Decimal.mk (2 * down + 1) grid).compareBinary (2 * m) q == .gt then some lower
    else some upper
  | true, false => some lower
  | false, true => some upper
  | false, false => none

/-- How many times a number below one has to be multiplied by ten to reach one. -/
def zerosAfterPoint : (fuel num den : Nat) → Nat
  | 0, _, _ => 0
  | fuel + 1, num, den => if den ≤ num then 0 else zerosAfterPoint fuel (num * 10) den + 1

/-- The exponent `p` with `10 ^ p ≤ m · 2 ^ q < 10 ^ (p + 1)`, for positive `m`. -/
def leadingExponent (m : Nat) (q : Int) : Int :=
  let num := m * Nat.pow 2 q.toNat
  let den := Nat.pow 2 (-q).toNat
  if den ≤ num then (digitCount (num / den) : Int) - 1 else -(zerosAfterPoint 400 num den : Int)

/-- The decimal with the fewest digits that reads back as `m · 2 ^ q`. Seventeen digits always
suffice; the exact value stands behind them only to make the definition total. -/
def shortest (m : Nat) (q : Int) : Decimal :=
  let top := leadingExponent m q
  ((List.range 17).findSome? fun (n : Nat) => onGrid? m q (top - n)).getD
    ⟨m * Nat.pow 2 q.toNat * Nat.pow 5 (-q).toNat, min q 0⟩

/-! ### Writing -/

def Decimal.stripZeros : (fuel : Nat) → Decimal → Decimal
  | 0, d => d
  | fuel + 1, d =>
    if d.digits % 10 = 0 && d.digits != 0 then stripZeros fuel ⟨d.digits / 10, d.exponent + 1⟩
    else d

/-- Positional notation, whatever the size: no exponent is written, and a point only before a
fraction. -/
def Decimal.positional (d : Decimal) : String :=
  let d := d.stripZeros (digitCount d.digits)
  let digits := Nat.toDigits 10 d.digits
  if 0 ≤ d.exponent then String.ofList (digits ++ List.replicate d.exponent.toNat '0')
  else
    let places := (-d.exponent).toNat
    let padded := List.replicate (places + 1 - digits.length) '0' ++ digits
    let whole := padded.length - places
    String.ofList (padded.take whole ++ '.' :: padded.drop whole)

def signed (negative : Bool) (text : String) : String := if negative then "-" ++ text else text

/-- A double in full: the fewest digits that read back, the sign also of a negative zero. -/
def display (x : Float) : String :=
  match Binary64.ofFloat x with
  | .nan => "NaN"
  | .infinite negative => signed negative "inf"
  | .finite negative m q => signed negative (if m = 0 then "0" else (shortest m q).positional)

/-- The whole number `m · 2 ^ q`, if it is one. -/
def whole? (m : Nat) (q : Int) : Option Nat :=
  let num := m * Nat.pow 2 q.toNat
  let den := Nat.pow 2 (-q).toNat
  if num % den = 0 then some (num / den) else none

/-- Whole numbers from here on are written like fractions, by their shortest digits. -/
def wholeLimit : Nat := Nat.pow 10 15

/-- How scripts see a number: a whole number below the limit as an integer numeral, so that a
negative zero has no sign, and any other number in full. -/
def text (x : Float) : String :=
  match Binary64.ofFloat x with
  | .finite negative m q =>
    match whole? m q with
    | some n => if n < wholeLimit then signed (negative && n != 0) (toString n) else display x
    | none => display x
  | _ => display x

end Questline.Number
