import DownloadNames.Decimal.Double

/-
Sums and products of floating-point numbers.
Each is the exact result, rounded as in reading a decimal.
-/

namespace DownloadNames.Double

/-- The number with the other sign. -/
def negate : Double → Double
  | nan => nan
  | infinite negative => .infinite (!negative)
  | finite negative m e => .finite (!negative) m e

/-- The number of a sign with the nearest number to a natural number, if that is not too large. -/
def ofNat? (n : Nat) : Option Double :=
  match ofFraction false n 1 with
  | .infinite _ => none
  | d => some d

/-- A finite number as a multiple of the smallest positive one. -/
def units (negative : Bool) (mantissa : Nat) (exponent : Int) : Int :=
  let n := mantissa * twoTo (exponent - minExponent).toNat
  if negative then -n else n

/-- The sum of two numbers; zeros of both signs add up to the positive one. -/
def add : Double → Double → Double
  | finite s m e, finite t n f =>
    let sum := units s m e + units t n f
    if sum = 0 then zero (s && t)
    else ofFraction (sum < 0) sum.natAbs (twoTo (-minExponent).toNat)
  | infinite s, infinite t => if s = t then .infinite s else .nan
  | infinite s, finite .. => .infinite s
  | finite .., infinite t => .infinite t
  | nan, _ => .nan
  | _, nan => .nan

/-- The product of two numbers. -/
def mul : Double → Double → Double
  | finite s m e, finite t n f =>
    let (num, den) := scaleDown (m * n) 1 (-(e + f))
    ofFraction (s != t) num den
  | infinite s, finite t n _ => if n = 0 then .nan else .infinite (s != t)
  | finite s m _, infinite t => if m = 0 then .nan else .infinite (s != t)
  | infinite s, infinite t => .infinite (s != t)
  | nan, _ => .nan
  | _, nan => .nan

end DownloadNames.Double
