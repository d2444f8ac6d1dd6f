import DownloadNames.Document
import DownloadNames.Yaml.Cursor
import DownloadNames.Text.Digit

/-
Quoted scalars.
Inside single quotes a doubled quote stands for one; inside double quotes a backslash begins
an escape.  A line end together with the spacing around it is one space, and each further
empty line is one line end.  An escape can number a character that does not exist, which is an error
of another kind than a scalar that breaks the grammar.
-/

namespace DownloadNames.Yaml.Quoted

/-- The two kinds of quotes. -/
inductive Style where
  | single
  | double
deriving DecidableEq, Repr

/-- The quote character of a style. -/
def Style.quote : Style → Char
  | single => '\''
  | double => '"'

/-- The character of a one-letter escape. -/
def escaped? : Char → Option Char
  | '0' => some '\x00'
  | 'a' => some '\x07'
  | 'b' => some '\x08'
  | 't' => some '\t'
  | '\t' => some '\t'
  | 'n' => some '\n'
  | 'v' => some '\x0b'
  | 'f' => some '\x0c'
  | 'r' => some '\r'
  | 'e' => some '\x1b'
  | ' ' => some ' '
  | '"' => some '"'
  | '\\' => some '\\'
  | '/' => some '/'
  | 'N' => some '\x85'
  | '_' => some '\xa0'
  | 'L' => some '\u2028'
  | 'P' => some '\u2029'
  | _ => none

/-- The number of digits that follow the letter of a numeric escape. -/
def escapeWidth? : Char → Option Nat
  | 'x' => some 2
  | 'u' => some 4
  | 'U' => some 8
  | _ => none

/-- The character of a number; half of a surrogate pair is replaced, as no text can hold it.  The
error of the largest numbers is given without its wording. -/
def ofNumber (n : Nat) : Except DocumentError Char :=
  if n ≤ 0x10FFFF then .ok (if n.isValidChar then Char.ofNat n else '\ufffd')
  else if n < 0x80000000 then
    .error (.raised "ValueError" "chr() arg not in range(0x110000)".toList)
  else .error (.raised "OverflowError" [])

/-- The character with the number that `width` digits of base sixteen give. -/
def numbered (width : Nat) (s : Text) : Except DocumentError Char :=
  let digits := s.take width
  if digits.length < width then .error .malformed
  else match digits.mapM Text.hexDigit? with
    | some ds => ofNumber (Text.ofDigits 16 ds)
    | none => .error .malformed

/-- The line ends of empty lines; a document marker must not stand at the start of a line. -/
def emptyLines? : (fuel : Nat) → Cursor → Option (Text × Cursor)
  | 0, _ => none
  | fuel + 1, c =>
    if startsDocument c.rest then none
    else
      let c := c.dropWhile fun ch => ch == ' ' || ch == '\t'
      match c.lineBreak? with
      | some (b, c) => (emptyLines? fuel c).map fun (bs, c) => (b ++ bs, c)
      | none => some ([], c)

/-- What the spacing inside a quoted scalar stands for. -/
def spacing? (fuel : Nat) (c : Cursor) : Option (Text × Cursor) :=
  let (blanks, c) := c.takeWhile fun ch => ch == ' ' || ch == '\t'
  match c.lineBreak? with
  | some (b, c) => (emptyLines? fuel c).map fun (bs, c) =>
    ((if b ≠ ['\n'] then b else if bs = [] then [' '] else []) ++ bs, c)
  | none => if c.rest = [] then none else some (blanks, c)

/-- What the backslash at the start of the rest and its escape stand for. -/
def escape (fuel : Nat) (c : Cursor) : Except DocumentError (Text × Cursor) :=
  let c := c.next
  match c.rest with
  | [] => .error .malformed
  | e :: rest =>
    match escaped? e with
    | some ch => .ok ([ch], c.next)
    | none =>
      match escapeWidth? e with
      | some width => (numbered width rest).map fun ch => ([ch], c.next.skip width)
      | none =>
        DocumentError.orMalformed ((c.lineBreak?).bind fun (_, c) => emptyLines? fuel c)

/-- The text up to the closing quote, and the place after that quote. -/
def body (style : Style) : (fuel : Nat) → Cursor → Except DocumentError (Text × Cursor)
  | 0, _ => .error .malformed
  | fuel + 1, c =>
    let after (part : Except DocumentError (Text × Cursor)) :
        Except DocumentError (Text × Cursor) :=
      part.bind fun (s, c) => (body style fuel c).map fun (t, c) => (s ++ t, c)
    match c.rest with
    | [] => .error .malformed
    | ch :: rest =>
      if ch = style.quote then
        if style = .single ∧ rest.head? = some '\'' then after (.ok (['\''], c.skip 2))
        else .ok ([], c.next)
      else if isSpacing ch then after (DocumentError.orMalformed (spacing? fuel c))
      else if style = .double ∧ ch = '\\' then after (escape fuel c)
      else after (.ok ([ch], c.next))

/-- The text of the quoted scalar that begins here, and the place after it. -/
def read (style : Style) (c : Cursor) : Except DocumentError (Text × Cursor) :=
  body style (c.rest.length + 2) c.next

end DownloadNames.Yaml.Quoted
