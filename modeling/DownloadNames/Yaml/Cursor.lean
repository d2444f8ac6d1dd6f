import DownloadNames.Text.Basic

/-
A place in a YAML text: what is left of it, and where that begins.
Line ends are expected to be `\n`; the next-line character and the two Unicode separators end
a line too.  A byte order mark takes no column.
-/

namespace DownloadNames.Yaml

/-! ## Character classes -/

/-- A character that ends a line. -/
def isBreak (c : Char) : Bool := c == '\n' || c == '\x85' || c == '\u2028' || c == '\u2029'

/-- A space, a tab or a line end. -/
def isSpacing (c : Char) : Bool := c == ' ' || c == '\t' || isBreak c

/-- A letter, a digit, `-` or `_`, all of ASCII. -/
def isNameChar (c : Char) : Bool := c.isAlphanum || c == '-' || c == '_'

/-- A character that may stand in a YAML text. -/
def isAllowed (c : Char) : Bool :=
  let n := c.toNat
  c == '\t' || c == '\n' || c == '\r' || c == '\x85' || (0x20 ≤ n && n ≤ 0x7E)
    || (0xA0 ≤ n && n ≤ 0xD7FF) || (0xE000 ≤ n && n ≤ 0xFFFD) || 0x10000 ≤ n

/-- The text is over, or goes on with a space, a tab or a line end. -/
def startsSpaced : Text → Bool
  | [] => true
  | c :: _ => isSpacing c

/-- The text is over, or goes on with a space or a line end. -/
def startsBlank : Text → Bool
  | [] => true
  | c :: _ => c == ' ' || isBreak c

/-- The text goes on with three times the mark, as a word of its own. -/
def startsMarker (mark : Char) : Text → Bool
  | a :: b :: c :: rest => a == mark && b == mark && c == mark && startsSpaced rest
  | _ => false

/-- The text goes on with a marker that separates documents. -/
def startsDocument (s : Text) : Bool := startsMarker '-' s || startsMarker '.' s

/-! ## Moving on -/

/-- A place in a text: the rest from there, with its distance from the start. -/
structure Cursor where
  rest : Text
  index : Nat := 0
  line : Nat := 0
  column : Nat := 0
deriving Repr

namespace Cursor

/-- Past one character. -/
def next (c : Cursor) : Cursor :=
  match c.rest with
  | [] => c
  | ch :: rest =>
    if isBreak ch then ⟨rest, c.index + 1, c.line + 1, 0⟩
    else if ch = '\ufeff' then ⟨rest, c.index + 1, c.line, c.column⟩
    else ⟨rest, c.index + 1, c.line, c.column + 1⟩

/-- Past `n` characters. -/
def skip : (n : Nat) → Cursor → Cursor
  | 0, c => c
  | n + 1, c => skip n c.next

/-- The characters that satisfy `p`, up to the first that does not, and the place after them. -/
def takeWhile (p : Char → Bool) (c : Cursor) : Text × Cursor :=
  let run := c.rest.takeWhile p
  (run, c.skip run.length)

/-- The place after the characters that satisfy `p`. -/
def dropWhile (p : Char → Bool) (c : Cursor) : Cursor := (c.takeWhile p).2

/-- Past the spaces. -/
def dropSpaces (c : Cursor) : Cursor := c.dropWhile (· == ' ')

/-- Past a comment, if one begins here. -/
def dropComment (c : Cursor) : Cursor :=
  match c.rest with
  | '#' :: _ => c.dropWhile (!isBreak ·)
  | _ => c

/-- What a line end stands for, and the place after it. -/
def lineBreak? (c : Cursor) : Option (Text × Cursor) :=
  match c.rest with
  | [] => none
  | ch :: _ =>
    if ch = '\n' ∨ ch = '\x85' then some (['\n'], c.next)
    else if ch = '\u2028' ∨ ch = '\u2029' then some ([ch], c.next)
    else none

/-- Past spaces, a comment and the line end that must follow. -/
def dropRestOfLine? (c : Cursor) : Option Cursor :=
  let c := c.dropSpaces.dropComment
  match c.lineBreak? with
  | some (_, c) => some c
  | none => if c.rest = [] then some c else none

/-- Past the character that must stand here. -/
def expect? (ch : Char) (c : Cursor) : Option Cursor :=
  match c.rest with
  | d :: _ => if d = ch then some c.next else none
  | [] => none

end Cursor
end DownloadNames.Yaml
