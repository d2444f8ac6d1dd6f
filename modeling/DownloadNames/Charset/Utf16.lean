import DownloadNames.Text.Basic

/-
UTF-16 in either byte order, with replacement.

A high surrogate and a low one make one character.  A surrogate without its partner is
replaced by itself; what is left at the end of the bytes and makes no character is replaced
as a whole.
-/

namespace DownloadNames.Utf16

/-- The order of the two bytes of a unit. -/
inductive Order where
  | little
  | big
deriving DecidableEq, Repr

/-- The unit of two bytes. -/
def unit (order : Order) (a b : UInt8) : Nat :=
  match order with
  | .little => a.toNat + 256 * b.toNat
  | .big => 256 * a.toNat + b.toNat

/-- A high surrogate. -/
def isHigh (n : Nat) : Bool := 0xD800 ≤ n && n < 0xDC00

/-- A low surrogate. -/
def isLow (n : Nat) : Bool := 0xDC00 ≤ n && n < 0xE000

/-- The text of a byte sequence, each error replaced by U+FFFD. -/
def decode (order : Order) : List UInt8 → Text
  | [] => []
  | [_] => ['\ufffd']
  | a :: b :: rest =>
    let n := unit order a b
    if isHigh n then
      match rest with
      | c :: d :: rest' =>
        let m := unit order c d
        if isLow m then
          Char.ofNat (0x10000 + (n - 0xD800) * 0x400 + (m - 0xDC00)) :: decode order rest'
        else '\ufffd' :: decode order (c :: d :: rest')
      | _ => ['\ufffd']
    else if isLow n then '\ufffd' :: decode order rest
    else Char.ofNat n :: decode order rest

end DownloadNames.Utf16
