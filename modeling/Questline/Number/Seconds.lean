import Questline.Number.Binary64

/-! Lengths of time given in seconds as a double. -/
namespace Questline.Number

def nanosPerSecond : Nat := Nat.pow 10 9

/-- The length in nanoseconds, rounded to the nearest one. There is none for a negative length, for
a number that is not finite, and from `2 ^ 64` seconds on. -/
def nanoseconds? (seconds : Float) : Option Nat :=
  match Binary64.ofFloat seconds with
  | .finite negative m q =>
    if negative && m != 0 then none
    else
      let nanos := roundDiv (m * Nat.pow 2 q.toNat * nanosPerSecond) (Nat.pow 2 (-q).toNat)
      if nanos < Nat.pow 2 64 * nanosPerSecond then some nanos else none
  | _ => none

end Questline.Number
