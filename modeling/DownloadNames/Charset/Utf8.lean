import DownloadNames.Text.Basic

/-
UTF-8, strictly and with replacement.

The decoder is a machine over single bytes.  Inside a character it knows how many bytes are
still to come, the bits read so far and the range of the next byte.  A byte outside that range
ends the unfinished character, which counts as one error, and is then read as a first byte.
Ill-formed input thus gives one error for each longest beginning of a character.
-/

namespace DownloadNames.Utf8

/-- An unfinished character: bytes still to come, bits so far, range of the next byte. -/
structure Pending where
  need : Nat
  bits : Nat
  low : UInt8
  high : UInt8
deriving DecidableEq, Repr

/-- What a byte completes, where `none` is an error, and what it leaves unfinished. -/
abbrev Step := List (Option Char) × Option Pending

/-- A byte at the start of a character. -/
def first (b : UInt8) : Step :=
  if b < 0x80 then ([some (Char.ofNat b.toNat)], none)
  else if b < 0xC2 then ([none], none)
  else if b < 0xE0 then ([], some ⟨1, b.toNat - 0xC0, 0x80, 0xBF⟩)
  else if b < 0xF0 then
    ([], some ⟨2, b.toNat - 0xE0, if b = 0xE0 then 0xA0 else 0x80, if b = 0xED then 0x9F else 0xBF⟩)
  else if b < 0xF5 then
    ([], some ⟨3, b.toNat - 0xF0, if b = 0xF0 then 0x90 else 0x80, if b = 0xF4 then 0x8F else 0xBF⟩)
  else ([none], none)

/-- A byte after an unfinished character. -/
def next (p : Pending) (b : UInt8) : Step :=
  if p.low ≤ b ∧ b ≤ p.high then
    let bits := p.bits * 64 + (b.toNat - 0x80)
    if p.need ≤ 1 then ([some (Char.ofNat bits)], none)
    else ([], some ⟨p.need - 1, bits, 0x80, 0xBF⟩)
  else
    let (out, pending) := first b
    (none :: out, pending)

/-- A byte in either state. -/
def step : Option Pending → UInt8 → Step
  | none, b => first b
  | some p, b => next p b

/-- The characters and errors of a byte sequence read from a given state. -/
def run : Option Pending → List UInt8 → List (Option Char)
  | none, [] => []
  | some _, [] => [none]
  | state, b :: bs => (step state b).1 ++ run (step state b).2 bs

/-- The characters and errors of a byte sequence. -/
def units (bytes : List UInt8) : List (Option Char) := run none bytes

/-- The text of a byte sequence, each error replaced by U+FFFD. -/
def decode (bytes : List UInt8) : Text := (units bytes).map (·.getD '\ufffd')

/-- The text of a well-formed byte sequence. -/
def decode? (bytes : List UInt8) : Option Text := (units bytes).mapM id

/-- The bytes of a character. -/
def encodeChar (c : Char) : List UInt8 :=
  let n := c.toNat
  let byte (k : Nat) : UInt8 := UInt8.ofNat k
  if n < 0x80 then [byte n]
  else if n < 0x800 then [byte (0xC0 + n / 64), byte (0x80 + n % 64)]
  else if n < 0x10000 then
    [byte (0xE0 + n / 4096), byte (0x80 + n / 64 % 64), byte (0x80 + n % 64)]
  else
    [byte (0xF0 + n / 262144), byte (0x80 + n / 4096 % 64), byte (0x80 + n / 64 % 64),
      byte (0x80 + n % 64)]

/-- The bytes of a text. -/
def encode (s : Text) : List UInt8 := s.flatMap encodeChar

end DownloadNames.Utf8
