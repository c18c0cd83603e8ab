/-! Doubles as exact numbers. `Binary64.ofFloat` says what the 64 bits of a double stand for, and
`nearest` goes back from an exact quotient to the double closest to it. -/
namespace Questline.Number

/-- What a double stands for: a finite one is the exact product `mantissa · 2 ^ exponent`. -/
inductive Binary64 where
  | nan
  | infinite (negative : Bool)
  | finite (negative : Bool) (mantissa : Nat) (exponent : Int)
deriving Repr, DecidableEq

def leastExponent : Int := -1074

/-- A normal double has a mantissa of 53 bits, so this one is the least of them. -/
def leastNormal : Nat := Nat.pow 2 52

def Binary64.ofFloat (x : Float) : Binary64 :=
  let bits := x.toBits.toNat
  let negative := bits / Nat.pow 2 63 == 1
  let biased := bits / leastNormal % 2048
  let fraction := bits % leastNormal
  if biased = 2047 then if fraction = 0 then .infinite negative else .nan
  else if biased = 0 then .finite negative fraction leastExponent
  else .finite negative (fraction + leastNormal) (biased - 1 + leastExponent)

/-- The whole number closest to `num / den`; a half goes to the even neighbour. -/
def roundDiv (num den : Nat) : Nat :=
  let down := num / den
  let twice := 2 * (num % den)
  if den < twice || (twice == den && down % 2 == 1) then down + 1 else down

/-- The greatest `e` with `2 ^ e ≤ num / den`, for positive `num` and `den`. -/
def floorLog2 (num den : Nat) : Int :=
  let guess : Int := (num.log2 : Int) - den.log2
  if num * Nat.pow 2 (-guess).toNat < den * Nat.pow 2 guess.toNat then guess - 1 else guess

/-- The bits of infinity, which are also the least bits that no finite double has. -/
def infinityBits : Nat := 2047 * leastNormal

/-- The bits of the double closest to `num / den`, a tie going to the even mantissa. Doubles above
zero are numbered in ascending order by their bits, so a mantissa that rounds up to 54 bits needs no
case of its own. -/
def nearestBits (num den : Nat) : Nat :=
  if num = 0 then 0
  else
    let exponent := max (floorLog2 num den - 52) leastExponent
    let mantissa := roundDiv (num * Nat.pow 2 (-exponent).toNat) (den * Nat.pow 2 exponent.toNat)
    min ((exponent - leastExponent).toNat * leastNormal + mantissa) infinityBits

def nearest (negative : Bool) (num den : Nat) : Float :=
  let bits := nearestBits num den
  Float.ofBits (UInt64.ofNat (if negative then bits + Nat.pow 2 63 else bits))

def notANumber : Float := Float.ofBits 0x7ff8000000000000

def infinity (negative : Bool) : Float :=
  Float.ofBits (if negative then 0xfff0000000000000 else 0x7ff0000000000000)

def isFinite (x : Float) : Bool :=
  match Binary64.ofFloat x with
  | .finite .. => true
  | _ => false

/-- The remainder of a division that rounds toward zero, which is exact: it has the sign of `x` and
is smaller than `y` in magnitude. -/
def remainder (x y : Float) : Float :=
  match Binary64.ofFloat x, Binary64.ofFloat y with
  | .finite negative m p, .finite _ n q =>
    if n = 0 then notANumber
    else
      let common := min p q
      let rest := m * Nat.pow 2 (p - common).toNat % (n * Nat.pow 2 (q - common).toNat)
      nearest negative (rest * Nat.pow 2 common.toNat) (Nat.pow 2 (-common).toNat)
  | .finite .., .infinite _ => x
  | _, _ => notANumber

end Questline.Number
