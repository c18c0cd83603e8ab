/-! Random numbers in a range. The generator is a counter that steps through all 32-bit words and a
mixing function on its state. -/
namespace Questline.Random

/-- How far the counter moves at each draw. The step is odd, so the counter visits every word. -/
def step : UInt32 := 0x6d2b79f5

def mix (state : UInt32) : UInt32 :=
  let a := (state ^^^ (state >>> 15)) * (state ||| 1)
  let b := a ^^^ (a + (a ^^^ (a >>> 7)) * (a ||| 61))
  b ^^^ (b >>> 14)

def draw (state : UInt32) : UInt32 × UInt32 :=
  let next := state + step
  (mix next, next)

def wordCount : Nat := Nat.pow 2 32

/-- The greatest multiple of `bound` that is not above the number of words. Words from here on are
drawn again, so that each remainder has equally many words. -/
def threshold (bound : Nat) : Nat := wordCount / bound * bound

/-- Draws until a word lies below the threshold, `fuel` times at most. -/
def drawBelow (limit : Nat) : (fuel : Nat) → UInt32 → Option (UInt32 × UInt32)
  | 0, _ => none
  | fuel + 1, state =>
    let (word, next) := draw state
    if word.toNat < limit then some (word, next) else drawBelow limit fuel next

/-- A number below `bound`. The counter returns to its state after `wordCount` draws and has met an
acceptable word by then. -/
def below (bound : Nat) (state : UInt32) : Nat × UInt32 :=
  ((drawBelow (threshold bound) wordCount state).map fun drawn =>
    (drawn.1.toNat % bound, drawn.2)).getD (0, state)

/-- A number from `low` to `high`, both included, where `low ≤ high < wordCount`. The full range of
words needs no remainder. -/
def inRange (low high : Nat) (state : UInt32) : Nat × UInt32 :=
  if high - low + 1 < wordCount then
    let drawn := below (high - low + 1) state
    (low + drawn.1, drawn.2)
  else
    let drawn := draw state
    (drawn.1.toNat, drawn.2)

end Questline.Random
