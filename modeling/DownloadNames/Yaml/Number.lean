import DownloadNames.Document
import DownloadNames.Decimal.Arithmetic
import DownloadNames.Text.Integer
import DownloadNames.Text.LowerCase

/-
Numbers as scalars.

What a text without quotes is taken for is a matter of its form: integers are written in base ten,
after `0b` in base two, after `0x` in base sixteen, after `0` in base eight, or as parts in base
sixty between colons, and floating-point numbers have a point.  Underscores may stand among the
digits and count for nothing.

The number itself is read in a second step, which accepts more than these forms and fails on the
rest, since a tag can ask for a number where a text has none of them.  It can also fail on a text of
such a form, for example where `0x` is followed by underscores only.
-/

namespace DownloadNames.Yaml

/-! ## Forms -/

/-- A digit of a base up to ten. -/
def isDigitOf (base : Nat) (c : Char) : Bool := (Text.asciiDigit? c).any (· < base)

/-- A decimal digit or an underscore. -/
def isDigitOrGap (c : Char) : Bool := isDigitOf 10 c || c == '_'

/-- A part in base sixty after a colon: one digit, or two of which the first is below six. -/
def isSixtieth : Text → Bool
  | [a] => isDigitOf 10 a
  | [a, b] => isDigitOf 6 a && isDigitOf 10 b
  | _ => false

/-- A whole number without a sign. -/
def isWhole : Text → Bool
  | '0' :: 'b' :: d :: ds => (d :: ds).all fun c => isDigitOf 2 c || c == '_'
  | '0' :: 'x' :: d :: ds => (d :: ds).all fun c => (Text.hexDigit? c).isSome || c == '_'
  | '0' :: ds => ds.all fun c => isDigitOf 8 c || c == '_'
  | s => s.head?.any (isDigitOf 10) && match Text.splitBy (· == ':') s with
    | whole :: parts => whole.all isDigitOrGap && parts.all isSixtieth
    | [] => false

/-- An integer. -/
def isInteger (s : Text) : Bool := isWhole (Double.readSign s).2

/-- The digits of an exponent after `e` and a sign that must stand there; or nothing. -/
def isExponent : Text → Bool
  | [] => true
  | e :: sign :: d :: ds =>
    (e == 'e' || e == 'E') && (sign == '-' || sign == '+') && (d :: ds).all (isDigitOf 10)
  | _ => false

/-- Places after a point, and an exponent. -/
def isPlaces (s : Text) : Bool := isExponent (s.dropWhile isDigitOrGap)

/-- A floating-point number with digits before its point; parts in base sixty take no exponent. -/
def isPointNumber (body : Text) : Bool :=
  match Text.cutAt? '.' body with
  | none => false
  | some (before, places) => before.head?.any (isDigitOf 10)
    && match Text.splitBy (· == ':') before with
      | [whole] => whole.all isDigitOrGap && isPlaces places
      | whole :: parts =>
        whole.all isDigitOrGap && parts.all isSixtieth && places.all isDigitOrGap
      | [] => false

/-- A floating-point number; one that begins with its point has no sign. -/
def isReal (s : Text) : Bool :=
  let body := (Double.readSign s).2
  [".inf", ".Inf", ".INF"].any (fun w => body = w.toList)
    || [".nan", ".NaN", ".NAN"].any (fun w => s = w.toList)
    || (match s with
      | '.' :: d :: ds => isDigitOf 10 d && isPlaces ds
      | _ => false)
    || isPointNumber body

/-! ## Reading -/

/-- The digits without the underscores between them. -/
def withoutGaps (s : Text) : Text := s.filter (· != '_')

/-- The error where a text has no first character. -/
def noFirstCharacter : DocumentError := .raised "IndexError" "string index out of range".toList

/-- An integer in a base. -/
def readIn (base : Nat) (s : Text) : Except DocumentError Int :=
  (Text.readInteger base s).mapError fun reason => .raised "ValueError" reason.message

/-- An integer after its first sign, without underscores. -/
def readMagnitude : Text → Except DocumentError Int
  | [] => .error noFirstCharacter
  | '0' :: 'b' :: ds => readIn 2 ds
  | '0' :: 'x' :: ds => readIn 16 ds
  | '0' :: ds => readIn 8 ('0' :: ds)
  | s =>
    if s.contains ':' then
      ((Text.splitBy (· == ':') s).mapM (readIn 10)).map (List.foldl (fun n d => n * 60 + d) 0)
    else readIn 10 s

/-- The integer that a text is read as. -/
def readInteger (s : Text) : Except DocumentError Int :=
  match withoutGaps s with
  | [] => .error noFirstCharacter
  | s =>
    let (negative, body) := Double.readSign s
    (readMagnitude body).map fun n => if negative then -n else n

/-- The ASCII digit with the value of a digit; other characters are kept. -/
def asciiDigit (c : Char) : Char :=
  match Text.digitValue? c with
  | some n => Text.hexDigit n
  | none => c

/-- A floating-point number in base ten, with white space around it. -/
def readDecimal (s : Text) : Except DocumentError Double :=
  match Double.read? ((Text.trimNumber s).map asciiDigit) with
  | some d => .ok d
  | none => .error
    (.raised "ValueError" ("could not convert string to float: ".toList ++ Text.quoted s))

/-- The sum of parts in base sixty, the last part first, of which the first has the given weight.
Each product and each sum is rounded. -/
def sumSixtieths : (sum : Double) → (weight : Nat) → List Double → Except DocumentError Double
  | sum, _, [] => .ok sum
  | sum, weight, part :: parts =>
    match Double.ofNat? weight with
    | some w => sumSixtieths (sum.add (part.mul w)) (weight * 60) parts
    | none => .error (.raised "OverflowError" "int too large to convert to float".toList)

/-- A floating-point number after its first sign, without underscores and in lower case. -/
def readSize (s : Text) : Except DocumentError Double :=
  if s = ".inf".toList then .ok (.infinite false)
  else if s = ".nan".toList then .ok .nan
  else if s.contains ':' then do
    sumSixtieths (.zero false) 1 (← (Text.splitBy (· == ':') s).mapM readDecimal).reverse
  else readDecimal s

/-- The floating-point number that a text is read as. -/
def readReal (s : Text) : Except DocumentError Double :=
  match Text.lower (withoutGaps s) with
  | [] => .error noFirstCharacter
  | s =>
    let (negative, body) := Double.readSign s
    (readSize body).map fun d => if negative then d.negate else d

end DownloadNames.Yaml
