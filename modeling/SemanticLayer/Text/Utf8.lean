import SemanticLayer.Text.Blank

/-
# Text from bytes

Bytes are read as UTF-8.  Where they are no UTF-8, the bytes up to the first
that could not follow are read as one replacement character, U+FFFD.

| first byte | next byte | then |
| --- | --- | --- |
| 00 to 7F | | |
| C2 to DF | 80 to BF | |
| E0 | A0 to BF | 80 to BF |
| E1 to EC, EE, EF | 80 to BF | 80 to BF |
| ED | 80 to 9F | 80 to BF |
| F0 | 90 to BF | 80 to BF, twice |
| F1 to F3 | 80 to BF | 80 to BF, twice |
| F4 | 80 to 8F | 80 to BF, twice |
-/

namespace SemanticLayer.Text

/-- What may follow the first byte of a character: how many bytes, and the range of the next. -/
structure Following where
  count : Nat
  least : Nat
  greatest : Nat

/-- What may follow a first byte; nothing for a byte that starts no character. -/
def following? (b : Nat) : Option Following :=
  if b ≤ 0x7F then some ⟨0, 0x80, 0xBF⟩
  else if 0xC2 ≤ b ∧ b ≤ 0xDF then some ⟨1, 0x80, 0xBF⟩
  else if b = 0xE0 then some ⟨2, 0xA0, 0xBF⟩
  else if b = 0xED then some ⟨2, 0x80, 0x9F⟩
  else if 0xE1 ≤ b ∧ b ≤ 0xEF then some ⟨2, 0x80, 0xBF⟩
  else if b = 0xF0 then some ⟨3, 0x90, 0xBF⟩
  else if b = 0xF4 then some ⟨3, 0x80, 0x8F⟩
  else if 0xF1 ≤ b ∧ b ≤ 0xF3 then some ⟨3, 0x80, 0xBF⟩
  else none

/-- The bytes of a list that may follow, as far as they do. -/
def followers : Nat → Nat → Nat → List UInt8 → List UInt8
  | 0, _, _, _ => []
  | _ + 1, _, _, [] => []
  | n + 1, least, greatest, b :: rest =>
    if least ≤ b.toNat ∧ b.toNat ≤ greatest then b :: followers n 0x80 0xBF rest else []

/-- The character of a first byte and all bytes that follow it. -/
def charOf (b : Nat) (more : List UInt8) : Char :=
  let lead := if more.isEmpty then b else b % Nat.pow 2 (6 - more.length)
  Char.ofNat (more.foldl (fun n b => n * 64 + b.toNat % 64) lead)

/-- The character that bytes start with, and the bytes it takes up behind the first. -/
def firstChar (b : UInt8) (rest : List UInt8) : Char × Nat :=
  match following? b.toNat with
  | none => ('\uFFFD', 0)
  | some f =>
    let more := followers f.count f.least f.greatest rest
    if more.length = f.count then (charOf b.toNat more, more.length) else ('\uFFFD', more.length)

/-- The text of bytes. -/
def decodeUtf8 : List UInt8 → List Char
  | [] => []
  | b :: rest =>
    let (c, more) := firstChar b rest
    c :: decodeUtf8 (rest.drop more)
termination_by bytes => bytes.length
decreasing_by simp only [List.length_drop, List.length_cons]; omega

end SemanticLayer.Text
