import DownloadNames.Text.Basic
import DownloadNames.Text.Ranges

/-
White space: the blanks that trimming removes and that end a header token.

The class is the Unicode white space together with the four information separators
U+001C to U+001F; the zero width space is not in it.
-/

namespace DownloadNames.Text

/-- The ranges of white space characters. -/
def blankRanges : List (Nat × Nat) := [
   (0x9, 0xd), (0x1c, 0x20), (0x85, 0x85), (0xa0, 0xa0), (0x1680, 0x1680), (0x2000, 0x200a),
   (0x2028, 0x2029), (0x202f, 0x202f), (0x205f, 0x205f), (0x3000, 0x3000)]

/-- A white space character. -/
def isBlank (c : Char) : Bool := inRanges blankRanges c.toNat

/-- Drops white space at both ends. -/
def trim (s : Text) : Text := trimBy isBlank s

end DownloadNames.Text
