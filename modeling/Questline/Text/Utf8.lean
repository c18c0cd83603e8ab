/-! Bytes as text. Decoding goes byte by byte with a state that says which bytes may follow. -/
namespace Questline.Text.Utf8

/-- A character that has begun: the value so far, how many bytes are owed, and between which bounds
the next one has to lie. -/
structure Partial where
  value : Nat
  owed : Nat
  low : Nat
  high : Nat

/-- What a first byte begins: a whole character, a character to be continued, or nothing. -/
def begins (b : Nat) : Option (Char ⊕ Partial) :=
  if b < 0x80 then some (.inl (Char.ofNat b))
  else if b < 0xC2 then none
  else if b < 0xE0 then some (.inr ⟨b - 0xC0, 1, 0x80, 0xBF⟩)
  else if b < 0xF0 then
    some (.inr ⟨b - 0xE0, 2, if b = 0xE0 then 0xA0 else 0x80, if b = 0xED then 0x9F else 0xBF⟩)
  else if b < 0xF5 then
    some (.inr ⟨b - 0xF0, 3, if b = 0xF0 then 0x90 else 0x80, if b = 0xF4 then 0x8F else 0xBF⟩)
  else none

/-- Decodes bytes that follow an unfinished character. Bytes that cannot belong to a character are
given as `none`, once for each run that could have begun one. -/
def decodeFrom : Option Partial → List UInt8 → List (Option Char)
  | none, [] => []
  | some _, [] => [none]
  | pending, byte :: rest =>
    let b := byte.toNat
    match pending with
    | some p =>
      if p.low ≤ b && b ≤ p.high then
        let value := p.value * 64 + (b - 0x80)
        if p.owed ≤ 1 then some (Char.ofNat value) :: decodeFrom none rest
        else decodeFrom (some ⟨value, p.owed - 1, 0x80, 0xBF⟩) rest
      else
        match begins b with
        | some (.inl c) => none :: some c :: decodeFrom none rest
        | some (.inr p) => none :: decodeFrom (some p) rest
        | none => none :: none :: decodeFrom none rest
    | none =>
      match begins b with
      | some (.inl c) => some c :: decodeFrom none rest
      | some (.inr p) => decodeFrom (some p) rest
      | none => none :: decodeFrom none rest

def decode? (bytes : List UInt8) : Option String :=
  ((decodeFrom none bytes).mapM id).map String.ofList

/-- The text of the bytes with the replacement character where they are no characters. -/
def decodeLossy (bytes : List UInt8) : String :=
  String.ofList ((decodeFrom none bytes).map fun c => c.getD '\uFFFD')

def encode (s : String) : List UInt8 := s.toList.flatMap String.utf8EncodeChar

end Questline.Text.Utf8
