import DownloadNames.Decimal.Double

/-
The shortest decimal that reads back as a given number.

Of all decimals that lie in the interval of reals rounding to the number, one with the fewest
digits is taken, and of these the nearest.  For a given count of digits only the two neighbours
of the number on the decimal grid come into question.  `Layout` says how digits and exponent
are written down.
-/

namespace DownloadNames.Double

/-! ## The interval and the grid -/

/-- `num / den` times `10 ^ e`, as a fraction. -/
def scaleDecimal (num den : Nat) (e : Int) : Nat × Nat :=
  if e < 0 then (num, den * tenTo (-e).toNat) else (num * tenTo e.toNat, den)

/-- The exponent of the leading decimal digit of `num / den`, sought upwards from `-e`. -/
def leadingPlace (num den : Nat) : (fuel : Nat) → (e : Int) → Int
  | 0, e => e
  | fuel + 1, e =>
    let (n, d) := scaleDecimal num den (-(e + 1))
    if n < d then e else leadingPlace num den fuel (e + 1)

/-- A decimal: `digits * 10 ^ exponent`. -/
structure Digits where
  digits : Nat
  exponent : Int
deriving DecidableEq, Repr

/-- The interval of reals that round to `m * 2 ^ e`, in units of `2 ^ (e - 2)`. -/
def interval (m : Nat) (e : Int) : Nat × Nat :=
  (if m = twoTo 52 ∧ e ≠ minExponent then 4 * m - 1 else 4 * m - 2, 4 * m + 2)

/-- A decimal lies in the interval; the ends belong to it where the mantissa is even. -/
def reads (m : Nat) (e : Int) (d : Digits) : Bool :=
  let (lo, hi) := interval m e
  let unit : Nat × Nat := if e - 2 < 0 then (1, twoTo (2 - e).toNat) else (twoTo (e - 2).toNat, 1)
  let (n, k) := scaleDecimal d.digits 1 d.exponent
  let lhs := n * unit.2
  if m % 2 = 0 then lo * unit.1 * k ≤ lhs && lhs ≤ hi * unit.1 * k
  else lo * unit.1 * k < lhs && lhs < hi * unit.1 * k

/-- The best decimal of `count` digits, if one of the two neighbours reads back. -/
def candidate? (m : Nat) (e : Int) (num den : Nat) (place : Int) (count : Nat) : Option Digits :=
  let exponent := place - (count : Int) + 1
  let (n, d) := scaleDecimal num den (-exponent)
  let below : Digits := ⟨n / d, exponent⟩
  let above : Digits := ⟨n / d + 1, exponent⟩
  let nearerAbove := 2 * (n % d) > d || (2 * (n % d) == d && n / d % 2 == 1)
  match reads m e below, reads m e above with
  | true, true => some (if nearerAbove then above else below)
  | true, false => some below
  | false, true => some above
  | false, false => none

/-- Trailing zeros moved into the exponent. -/
def Digits.trim : (fuel : Nat) → Digits → Digits
  | 0, d => d
  | fuel + 1, d =>
    if d.digits ≠ 0 ∧ d.digits % 10 = 0 then trim fuel ⟨d.digits / 10, d.exponent + 1⟩ else d

/-- The shortest decimal that reads back as `m * 2 ^ e`, for a positive mantissa. -/
def shortest (m : Nat) (e : Int) : Digits :=
  let (num, den) : Nat × Nat := if e < 0 then (m, twoTo (-e).toNat) else (m * twoTo e.toNat, 1)
  let place := leadingPlace num den 700 (-330)
  let found := (List.range 17).findSome? fun k => candidate? m e num den place (k + 1)
  (found.getD ⟨0, 0⟩).trim 20

/-! ## Writing -/

/-- How a decimal is written: the exponents of the leading digit that are written positionally,
and the least count of exponent digits. -/
structure Layout where
  leastPlace : Int
  mostPlace : Int
  exponentDigits : Nat

/-- Numbers from `0.0001` up to but not including `10 ^ 16` are written positionally, with at
least one place after the point; others with an exponent of at least two digits. -/
def plainLayout : Layout := ⟨-4, 15, 2⟩

/-- Zeros. -/
def zeros (n : Nat) : Text := List.replicate n '0'

/-- The exponent mark, its sign and its digits. -/
def writeExponent (layout : Layout) (e : Int) : Text :=
  let ds := Text.ofNat e.natAbs
  'e' :: (if e < 0 then '-' else '+') :: zeros (layout.exponentDigits - ds.length) ++ ds

/-- A decimal without trailing zeros, written down. -/
def Digits.write (layout : Layout) (d : Digits) : Text :=
  let ds := Text.ofNat d.digits
  let place : Int := d.exponent + ds.length - 1
  if place < layout.leastPlace ∨ layout.mostPlace < place then
    match ds with
    | [] => []
    | [c] => c :: writeExponent layout place
    | c :: cs => c :: '.' :: cs ++ writeExponent layout place
  else if place < 0 then '0' :: '.' :: zeros (-place - 1).toNat ++ ds
  else
    let whole := place.toNat + 1
    if ds.length ≤ whole then ds ++ zeros (whole - ds.length) ++ ['.', '0']
    else ds.take whole ++ '.' :: ds.drop whole

/-- The shortest text that reads back as the number. -/
def toText : Double → Text
  | .nan => ['n', 'a', 'n']
  | .infinite negative => (if negative then ['-'] else []) ++ ['i', 'n', 'f']
  | .finite negative m e =>
    (if negative then ['-'] else []) ++
      (if m = 0 then ['0', '.', '0'] else (shortest m e).write plainLayout)

end DownloadNames.Double
