import DownloadNames.Text.Basic

/-
Base 64, in which four characters spell three bytes.

Characters that are neither digits nor padding count for nothing.  Padding ends the text where it
fills up a group that has at least two digits, and counts for nothing elsewhere.  A text that ends
inside a group spells no bytes.
-/

namespace DownloadNames.Base64

/-- The value of a digit. -/
def digit? (c : Char) : Option Nat :=
  if 'A' ≤ c ∧ c ≤ 'Z' then some (c.toNat - 65)
  else if 'a' ≤ c ∧ c ≤ 'z' then some (c.toNat - 71)
  else if '0' ≤ c ∧ c ≤ '9' then some (c.toNat + 4)
  else if c = '+' then some 62
  else if c = '/' then some 63
  else none

/-- The digits of a text, of whose last group `held` have been read before, and `pads` signs of
padding after them. -/
def digits? : (held pads : Nat) → Text → Option (List Nat)
  | held, _, [] => if held = 0 then some [] else none
  | held, pads, c :: cs =>
    if c = '=' then
      if held < 2 then digits? held pads cs
      else if held + pads + 1 < 4 then digits? held (pads + 1) cs
      else some []
    else match digit? c with
      | some d => (digits? ((held + 1) % 4) 0 cs).map (d :: ·)
      | none => digits? held pads cs

/-- The bytes that digits spell; of an unfinished group those that are complete. -/
def ofDigits : List Nat → List UInt8
  | a :: b :: c :: d :: rest =>
    UInt8.ofNat (a * 4 + b / 16) :: UInt8.ofNat (b * 16 + c / 4) :: UInt8.ofNat (c * 64 + d)
      :: ofDigits rest
  | [a, b, c] => [UInt8.ofNat (a * 4 + b / 16), UInt8.ofNat (b * 16 + c / 4)]
  | [a, b] => [UInt8.ofNat (a * 4 + b / 16)]
  | _ => []

/-- The bytes that a text spells. -/
def decode? (s : Text) : Option (List UInt8) := (digits? 0 0 s).map ofDigits

end DownloadNames.Base64
