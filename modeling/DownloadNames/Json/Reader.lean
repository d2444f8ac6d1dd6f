import DownloadNames.Document
import DownloadNames.Text.Integer

/-
Reading JSON texts into values.

Beyond the standard the numbers `NaN`, `Infinity` and `-Infinity` are accepted.  Objects keep
the order of their members; of members with one name the last gives the value and the first
the place.  Control characters must be escaped inside strings.  An escaped surrogate pair is
one character, and a surrogate alone stands for the replacement character.  An integer of too many
digits is an error of another kind than a text that is no JSON.  There is no bound on how deep
arrays and objects are nested.
-/

namespace DownloadNames.Json

/-- White space between tokens. -/
def isSpace (c : Char) : Bool := c == ' ' || c == '\t' || c == '\n' || c == '\r'

/-- Drops white space between tokens. -/
def skipSpace (s : Text) : Text := s.dropWhile isSpace

/-! ## Strings -/

/-- The number written by four digits of base sixteen. -/
def readHex4? : Text → Option (Nat × Text)
  | a :: b :: c :: d :: rest =>
    match Text.hexDigit? a, Text.hexDigit? b, Text.hexDigit? c, Text.hexDigit? d with
    | some a, some b, some c, some d => some (Text.ofDigits 16 [a, b, c, d], rest)
    | _, _, _, _ => none
  | _ => none

/-- The character of a one-letter escape. -/
def escaped? : Char → Option Char
  | '"' => some '"'
  | '\\' => some '\\'
  | '/' => some '/'
  | 'b' => some '\x08'
  | 'f' => some '\x0c'
  | 'n' => some '\n'
  | 'r' => some '\r'
  | 't' => some '\t'
  | _ => none

/-- The character of one UTF-16 unit; a surrogate gives the replacement character. -/
def ofUnit (n : Nat) : Char := if 0xD800 ≤ n ∧ n < 0xE000 then '\ufffd' else Char.ofNat n

/-- The low surrogate that follows directly as an escape, and the rest. -/
def lowSurrogate? : Text → Option (Nat × Text)
  | '\\' :: 'u' :: rest =>
    match readHex4? rest with
    | some (n, rest) => if 0xDC00 ≤ n ∧ n < 0xE000 then some (n, rest) else none
    | none => none
  | _ => none

/-- The characters of a string up to its closing quote, and what follows it. -/
def readString? : (fuel : Nat) → Text → Option (Text × Text)
  | 0, _ => none
  | _, [] => none
  | fuel + 1, c :: cs =>
    if c = '"' then some ([], cs)
    else if c = '\\' then
      match cs with
      | 'u' :: rest =>
        (readHex4? rest).bind fun (n, rest) =>
          match (if 0xD800 ≤ n ∧ n < 0xDC00 then lowSurrogate? rest else none) with
          | some (low, rest) =>
            (readString? fuel rest).map fun (s, rest) =>
              (Char.ofNat (0x10000 + (n - 0xD800) * 0x400 + (low - 0xDC00)) :: s, rest)
          | none => (readString? fuel rest).map fun (s, rest) => (ofUnit n :: s, rest)
      | e :: rest =>
        (escaped? e).bind fun c => (readString? fuel rest).map fun (s, rest) => (c :: s, rest)
      | [] => none
    else if c.toNat < 32 then none
    else (readString? fuel cs).map fun (s, rest) => (c :: s, rest)

/-! ## Numbers -/

/-- The digits of a whole number: a zero alone, or digits that do not begin with one. -/
def readWhole? (s : Text) : Option (List Nat × Text) :=
  match s with
  | '0' :: rest => some ([0], rest)
  | _ => match Double.readDigits s with
    | ([], _) => none
    | (ds, rest) => some (ds, rest)

/-- The places after a point, if a point with at least one digit follows. -/
def readPlaces (s : Text) : List Nat × Text :=
  match s with
  | '.' :: rest => match Double.readDigits rest with
    | ([], _) => ([], s)
    | (ds, rest) => (ds, rest)
  | _ => ([], s)

/-- The exponent, if `e` or `E` with at least one digit follows. -/
def readExponent (s : Text) : Option Int × Text :=
  match s with
  | c :: rest =>
    if c = 'e' ∨ c = 'E' then
      let (negative, rest) := Double.readSign rest
      match Double.readDigits rest with
      | ([], _) => (none, s)
      | (ds, rest) =>
        let n := Text.ofDigits 10 ds
        (some (if negative then -(n : Int) else n), rest)
    else (none, s)
  | [] => (none, s)

/-- An integer with the given digits. -/
def integerOf (negative : Bool) (digits : List Nat) : Except DocumentError Value :=
  if Text.mostDigits < digits.length then
    .error (.raised "ValueError" (Text.BadInteger.tooLong digits.length).message)
  else
    let n := Text.ofDigits 10 digits
    .ok (.int (if negative then -(n : Int) else n))

/-- A number: an integer, or a floating-point number where it has places or an exponent. -/
def readNumber (s : Text) : Except DocumentError (Value × Text) := do
  let (negative, body) : Bool × Text := match s with
    | '-' :: rest => (true, rest)
    | _ => (false, s)
  let (whole, rest) ← DocumentError.orMalformed (readWhole? body)
  let (places, rest) := readPlaces rest
  let (exponent, rest) := readExponent rest
  if places = [] ∧ exponent = none then return (← integerOf negative whole, rest)
  return (.real (Double.ofDecimal negative (Text.ofDigits 10 (whole ++ places))
    (exponent.getD 0 - places.length)), rest)

/-! ## Values -/

/-- The words that stand for values. -/
def words : List (Text × Value) :=
  [("null".toList, .null), ("true".toList, .bool true), ("false".toList, .bool false),
    ("NaN".toList, .real .nan), ("Infinity".toList, .real (.infinite false)),
    ("-Infinity".toList, .real (.infinite true))]

/-- A word that stands for a value, and what follows it. -/
def readWord? (s : Text) : Option (Value × Text) :=
  words.findSome? fun (w, v) => (Text.after? w s).map fun rest => (v, rest)

mutual

/-- A value at the front of a text without leading space, and what follows it. -/
def readValue : (fuel : Nat) → Text → Except DocumentError (Value × Text)
  | 0, _ => .error .malformed
  | fuel + 1, s =>
    match s with
    | '"' :: rest => do
      let (t, rest) ← DocumentError.orMalformed (readString? fuel rest)
      return (.text t, rest)
    | '[' :: rest =>
      match skipSpace rest with
      | ']' :: rest => .ok (.list [], rest)
      | rest => (readItems fuel rest).map fun (vs, rest) => (.list vs, rest)
    | '\x7b' :: rest =>
      match skipSpace rest with
      | '\x7d' :: rest => .ok (.map [], rest)
      | rest => (readMembers fuel rest).map fun (es, rest) => (.map (Value.ofEntries es), rest)
    | _ => match readWord? s with
      | some found => .ok found
      | none => readNumber s

/-- The items of an array up to its closing bracket. -/
def readItems : (fuel : Nat) → Text → Except DocumentError (List Value × Text)
  | 0, _ => .error .malformed
  | fuel + 1, s => do
    let (v, rest) ← readValue fuel s
    match skipSpace rest with
    | ']' :: rest => return ([v], rest)
    | ',' :: rest =>
      let (vs, rest) ← readItems fuel (skipSpace rest)
      return (v :: vs, rest)
    | _ => throw .malformed

/-- The members of an object up to its closing brace. -/
def readMembers : (fuel : Nat) → Text → Except DocumentError (Entries × Text)
  | 0, _ => .error .malformed
  | fuel + 1, s =>
    match s with
    | '"' :: rest => do
      let (name, rest) ← DocumentError.orMalformed (readString? fuel rest)
      match skipSpace rest with
      | ':' :: rest =>
        let (v, rest) ← readValue fuel (skipSpace rest)
        match skipSpace rest with
        | '\x7d' :: rest => return ([(.text name, v)], rest)
        | ',' :: rest =>
          let (es, rest) ← readMembers fuel (skipSpace rest)
          return ((.text name, v) :: es, rest)
        | _ => throw .malformed
      | _ => throw .malformed
    | _ => .error .malformed

end

/-- The value that a whole text stands for. -/
def read (s : Text) : Except DocumentError Value := do
  let (v, rest) ← readValue (2 * s.length + 2) (skipSpace s)
  if skipSpace rest = [] then return v else throw .malformed

end DownloadNames.Json
