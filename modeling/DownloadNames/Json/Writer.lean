import DownloadNames.Text.Digit
import DownloadNames.Assoc

/-
Writing JSON objects of texts, in ASCII only.
Characters outside the printable ASCII range are escaped by their UTF-16 units.
-/

namespace DownloadNames.Json

/-- The escape of a UTF-16 unit. -/
def escapeUnit (n : Nat) : Text := '\\' :: 'u' :: Text.hexDigits 4 n

/-- A character inside a string. -/
def writeChar (c : Char) : Text :=
  match c with
  | '"' => ['\\', '"']
  | '\\' => ['\\', '\\']
  | '\n' => ['\\', 'n']
  | '\r' => ['\\', 'r']
  | '\t' => ['\\', 't']
  | '\x08' => ['\\', 'b']
  | '\x0c' => ['\\', 'f']
  | c =>
    let n := c.toNat
    if 0x20 ≤ n ∧ n ≤ 0x7e then [c]
    else if n < 0x10000 then escapeUnit n
    else escapeUnit (0xd800 + (n - 0x10000) / 0x400) ++ escapeUnit (0xdc00 + (n - 0x10000) % 0x400)

/-- A string. -/
def writeText (s : Text) : Text := '"' :: s.flatMap writeChar ++ ['"']

/-- An object of texts, its members in the given order. -/
def writeObject (members : List (Text × Text)) : Text :=
  '\x7b' :: Text.joinWith [',', ' ']
    (members.map fun (name, v) => writeText name ++ ':' :: ' ' :: writeText v) ++ ['\x7d']

end DownloadNames.Json
