import DownloadNames.Text.Digit
import DownloadNames.Text.Printable

/-
The quoted form of a text, as it appears in messages.

Single quotes enclose it unless it holds a single quote and no double one.  A backslash, the
enclosing quote, line feeds, carriage returns, tabs and all unprintable characters are escaped,
the last ones by their code point in two, four or eight digits.  Bytes are quoted in the same way
after a `b`, those beyond ASCII being unprintable.
-/

namespace DownloadNames.Text

/-- The quote that encloses a text. -/
def quoteFor (s : Text) : Char := if '\'' ∈ s ∧ '"' ∉ s then '"' else '\''

/-- A character inside the given quotes. -/
def quoteChar (q c : Char) : Text :=
  if c = '\\' ∨ c = q then ['\\', c]
  else if c = '\n' then ['\\', 'n']
  else if c = '\r' then ['\\', 'r']
  else if c = '\t' then ['\\', 't']
  else if isPrintable c then [c]
  else if c.toNat < 0x100 then '\\' :: 'x' :: hexDigits 2 c.toNat
  else if c.toNat < 0x10000 then '\\' :: 'u' :: hexDigits 4 c.toNat
  else '\\' :: 'U' :: hexDigits 8 c.toNat

/-- The quoted form of a text. -/
def quoted (s : Text) : Text :=
  quoteFor s :: s.flatMap (quoteChar (quoteFor s)) ++ [quoteFor s]

/-- A byte inside the given quotes. -/
def quoteByte (q : Char) (b : UInt8) : Text :=
  if b < 0x80 then quoteChar q (Char.ofNat b.toNat) else '\\' :: 'x' :: hexDigits 2 b.toNat

/-- The quoted form of bytes. -/
def quotedBytes (bytes : List UInt8) : Text :=
  let q := quoteFor (bytes.map fun b => Char.ofNat b.toNat)
  'b' :: q :: bytes.flatMap (quoteByte q) ++ [q]

end DownloadNames.Text
