import DownloadNames.Text.Digit

/-
Binary floating-point numbers of 53 significant bits, as exact data.

A finite number is `mantissa * 2 ^ exponent`, with the mantissa below `2 ^ 53` and as large as
the smallest exponent `-1074` allows, so that each number has one form.  Reading a decimal
rounds it to the nearest such number, a tie to the even mantissa; everything is integer
arithmetic.
-/

namespace DownloadNames

/-- A number of the binary format with 53 significant bits. -/
inductive Double where
  | nan
  | infinite (negative : Bool)
  | finite (negative : Bool) (mantissa : Nat) (exponent : Int)
deriving DecidableEq, Repr, Inhabited

namespace Double

/-- The smallest exponent of the format. -/
def minExponent : Int := -1074

/-- The largest exponent of the format. -/
def maxExponent : Int := 971

/-- A power of two. -/
def twoTo (n : Nat) : Nat := Nat.pow 2 n

/-- A power of ten. -/
def tenTo (n : Nat) : Nat := Nat.pow 10 n

/-- The zero of the given sign. -/
def zero (negative : Bool) : Double := .finite negative 0 minExponent

/-- `num / den` rounded to the nearest integer, a tie to the even one. -/
def roundHalfEven (num den : Nat) : Nat :=
  let q := num / den
  let twice := 2 * (num % den)
  if twice < den then q else if twice > den then q + 1 else if q % 2 = 0 then q else q + 1

/-- `num / den` scaled by `2 ^ (-e)`, as a fraction. -/
def scaleDown (num den : Nat) (e : Int) : Nat × Nat :=
  if e < 0 then (num * twoTo (-e).toNat, den) else (num, den * twoTo e.toNat)

/-- The number nearest to the positive fraction `num / den`. -/
def ofFraction (negative : Bool) (num den : Nat) : Double :=
  if num = 0 then zero negative
  else
    let guess : Int := (num.log2 : Int) - (den.log2 : Int) - 52
    let (n, d) := scaleDown num den guess
    let tight : Int := if n / d < twoTo 52 then guess - 1 else guess
    let e : Int := if tight < minExponent then minExponent else tight
    let (n, d) := scaleDown num den e
    let m := roundHalfEven n d
    let (m, e) := if m = twoTo 53 then (twoTo 52, e + 1) else (m, e)
    if e > maxExponent then .infinite negative else .finite negative m e

/-- The number nearest to `digits * 10 ^ exponent`. -/
def ofDecimal (negative : Bool) (digits : Nat) (exponent : Int) : Double :=
  let size : Int := exponent + ((Nat.repr digits).length : Int)
  if digits = 0 then zero negative
  else if size > 400 then .infinite negative
  else if size < -400 then zero negative
  else if exponent < 0 then ofFraction negative digits (tenTo (-exponent).toNat)
  else ofFraction negative (digits * tenTo exponent.toNat) 1

/-- A number that equals an integer, as that integer. -/
def toInt? : Double → Option Int
  | .finite negative m e =>
    let whole : Option Nat :=
      if e < 0 then
        if m % twoTo (-e).toNat = 0 then some (m / twoTo (-e).toNat) else none
      else some (m * twoTo e.toNat)
    whole.map fun n => if negative then -(n : Int) else n
  | _ => none

/-- A zero of either sign. -/
def isZero : Double → Bool
  | .finite _ 0 _ => true
  | _ => false

/-! ## Reading -/

/-- A leading sign: whether it is a minus, and the rest. -/
def readSign : Text → Bool × Text
  | '-' :: cs => (true, cs)
  | '+' :: cs => (false, cs)
  | cs => (false, cs)

/-- The longest run of ASCII digits at the front, and the rest. -/
def readDigits (s : Text) : List Nat × Text :=
  (s.takeWhile (Text.asciiDigit? · |>.isSome) |>.filterMap Text.asciiDigit?,
    s.dropWhile (Text.asciiDigit? · |>.isSome))

/-- The decimal exponent after `e` or `E`; a text without one has the exponent zero. -/
def readExponent? : Text → Option Int
  | [] => some 0
  | c :: cs =>
    if c = 'e' ∨ c = 'E' then
      let (negative, cs) := readSign cs
      match readDigits cs with
      | (d :: ds, []) =>
        let n := Text.ofDigits 10 (d :: ds)
        some (if negative then -(n : Int) else n)
      | _ => none
    else none

/-- A decimal number: sign, digits with an optional point, optional exponent; at least one digit
stands before or after the point.  `inf`, `infinity` and `nan` in any case are numbers too. -/
def read? (s : Text) : Option Double :=
  let (negative, body) := readSign s
  let word := body.map Char.toLower
  if word = ['i', 'n', 'f'] ∨ word = "infinity".toList then some (.infinite negative)
  else if word = ['n', 'a', 'n'] then some .nan
  else
    let (whole, rest) := readDigits body
    let (places, rest) := match rest with
      | '.' :: rest => readDigits rest
      | rest => ([], rest)
    if whole = [] ∧ places = [] then none
    else (readExponent? rest).map fun e =>
      ofDecimal negative (Text.ofDigits 10 (whole ++ places)) (e - places.length)

end Double
end DownloadNames
