import DownloadNames.Text.Blank
import DownloadNames.Text.Quoted

/-
Integers written in text: an optional sign and digits, among which single underscores may
stand.  Which characters are digits is a parameter of the simple form.  The general form is that
of a base, with digits of all scripts and perhaps a letter for the base in front.
-/

namespace DownloadNames.Text

/-- White space around a number in text; the information separators are not part of it. -/
def isNumberBlank (c : Char) : Bool := isBlank c && !(0x1c ≤ c.toNat && c.toNat ≤ 0x1f)

/-- A text without the white space around a number. -/
def trimNumber (s : Text) : Text := trimBy isNumberBlank s

/-- The digits of a non-empty text of digits. -/
def digitRun? (digit : Char → Option Nat) (s : Text) : Option (List Nat) :=
  if s = [] then none else s.mapM digit

/-- Digits in groups with single underscores between them. -/
def digitGroups? (digit : Char → Option Nat) (s : Text) : Option (List Nat) :=
  ((splitBy (· == '_') s).mapM (digitRun? digit)).map List.flatten

/-- A sign, or none, and digits. -/
def integer? (digit : Char → Option Nat) (s : Text) : Option Int :=
  match s with
  | '-' :: ds => (digitGroups? digit ds).map fun ds => -(ofDigits 10 ds : Int)
  | '+' :: ds => (digitGroups? digit ds).map fun ds => (ofDigits 10 ds : Int)
  | ds => (digitGroups? digit ds).map fun ds => (ofDigits 10 ds : Int)

/-! ## Integers in a base -/

/-- Why a text is no integer. -/
inductive BadInteger where
  | notDigits (base : Nat) (s : Text)
  | tooLong (count : Nat)
deriving DecidableEq, Repr

/-- The most digits in base ten that are read as a number. -/
def mostDigits : Nat := 4300

/-- The wording for a text that is no integer; a long text is cut. -/
def BadInteger.message : BadInteger → Text
  | notDigits base s =>
    "invalid literal for int() with base ".toList ++ ofNat base ++ ':' :: ' ' :: (quoted s).take 200
  | tooLong count =>
    "Exceeds the limit (".toList ++ ofNat mostDigits
      ++ " digits) for integer string conversion: value has ".toList ++ ofNat count
      ++ " digits; use sys.set_int_max_str_digits() to increase the limit".toList

/-- The value of a digit of a base up to sixteen; digits of all scripts count. -/
def digitIn? (base : Nat) (c : Char) : Option Nat :=
  ((digitValue? c).or (hexDigit? c)).filter (· < base)

/-- The letter that stands for a base, after a zero. -/
def baseLetter? : (base : Nat) → Option Char
  | 2 => some 'b'
  | 8 => some 'o'
  | 16 => some 'x'
  | _ => none

/-- The digits behind the zero and the letter that stand for a base, if they are there. -/
def withoutBaseLetter (base : Nat) : Text → Text
  | '0' :: c :: ds => if baseLetter? base = some c.toLower then ds else '0' :: c :: ds
  | ds => ds

/-- An integer in a base, with white space around it. -/
def readInteger (base : Nat) (s : Text) : Except BadInteger Int :=
  let number (negative : Bool) (ds : Text) : Except BadInteger Int :=
    match digitGroups? (digitIn? base) (withoutBaseLetter base ds) with
    | none => .error (.notDigits base s)
    | some ds =>
      if base = 10 ∧ mostDigits < ds.length then .error (.tooLong ds.length)
      else .ok (if negative then -(ofDigits base ds : Int) else ofDigits base ds)
  match trimNumber s with
  | '-' :: ds => number true ds
  | '+' :: ds => number false ds
  | ds => number false ds

end DownloadNames.Text
