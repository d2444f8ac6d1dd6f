import DownloadNames.Charset.Utf8
import DownloadNames.Charset.Utf16
import DownloadNames.Text.LowerCase

/-
Character sets by name, and decoding bytes with replacement of what is ill-formed.

A name is compared without regard to case, and any run of characters other than ASCII letters,
digits and dots counts as one underscore; such runs at the ends do not count.
-/

namespace DownloadNames

/-- The character sets that a header may name. -/
inductive Charset where
  | utf8
  | utf8Signed
  | ascii
  | latin1
  | windows1252
  | utf16
  | utf16Little
  | utf16Big
deriving DecidableEq, Repr

namespace Charset

/-! ## Names -/

/-- A character that stands for itself in the name of a character set. -/
def isNameChar (c : Char) : Bool := c.isAlphanum || c == '.'

/-- The normal form of a name. -/
def normalName (name : Text) : Text :=
  Text.joinWith ['_'] (((Text.splitBy (!isNameChar ·) name).filter (· != [])).map
    (·.map Text.asciiLowerChar))

/-- The normal names of each character set. -/
def names : List (Charset × List String) :=
  [(.utf8, ["utf_8", "utf8", "u8", "utf", "utf8_ucs2", "utf8_ucs4", "cp65001"]),
    (.utf8Signed, ["utf_8_sig"]),
    (.ascii, ["ascii", "us_ascii", "646", "ansi_x3.4_1968", "ansi_x3_4_1968", "ansi_x3.4_1986",
      "cp367", "csascii", "ibm367", "iso646_us", "iso_646.irv_1991", "iso_ir_6", "us"]),
    (.latin1, ["latin_1", "latin1", "latin", "l1", "iso_8859_1", "iso8859_1", "iso8859", "8859",
      "cp819", "csisolatin1", "ibm819", "iso_8859_1_1987", "iso_ir_100"]),
    (.windows1252, ["cp1252", "windows_1252", "1252"]),
    (.utf16, ["utf_16", "utf16", "u16"]),
    (.utf16Little, ["utf_16_le", "utf_16le", "unicodelittleunmarked"]),
    (.utf16Big, ["utf_16_be", "utf_16be", "unicodebigunmarked"])]

/-- The character set of a name. -/
def ofName? (name : Text) : Option Charset :=
  (names.find? fun e => e.2.any fun n => n.toList = normalName name).map Prod.fst

/-! ## Decoding -/

/-- The characters of Windows-1252 from 0x80 to 0x9F; U+FFFD where none is defined. -/
def windowsUpper : List Nat :=
  [0x20AC, 0xFFFD, 0x201A, 0x0192, 0x201E, 0x2026, 0x2020, 0x2021,
    0x02C6, 0x2030, 0x0160, 0x2039, 0x0152, 0xFFFD, 0x017D, 0xFFFD,
    0xFFFD, 0x2018, 0x2019, 0x201C, 0x201D, 0x2022, 0x2013, 0x2014,
    0x02DC, 0x2122, 0x0161, 0x203A, 0x0153, 0xFFFD, 0x017E, 0x0178]

/-- The character of a Windows-1252 byte. -/
def windowsChar (b : UInt8) : Char :=
  if 0x80 ≤ b ∧ b < 0xA0 then Char.ofNat (windowsUpper.getD (b.toNat - 0x80) 0xFFFD)
  else Char.ofNat b.toNat

/-- UTF-16 in the byte order that a mark at the front gives, little-endian without one. -/
def decodeMarked : List UInt8 → Text
  | 0xFF :: 0xFE :: rest => Utf16.decode .little rest
  | 0xFE :: 0xFF :: rest => Utf16.decode .big rest
  | bytes => Utf16.decode .little bytes

/-- UTF-8 without the mark at the front, if there is one. -/
def decodeSigned : List UInt8 → Text
  | 0xEF :: 0xBB :: 0xBF :: rest => Utf8.decode rest
  | bytes => Utf8.decode bytes

/-- The text of a byte sequence, everything ill-formed replaced by U+FFFD. -/
def decode : Charset → List UInt8 → Text
  | .utf8 => Utf8.decode
  | .utf8Signed => decodeSigned
  | .ascii => List.map fun b => if b < 0x80 then Char.ofNat b.toNat else '\ufffd'
  | .latin1 => List.map fun b => Char.ofNat b.toNat
  | .windows1252 => List.map windowsChar
  | .utf16 => decodeMarked
  | .utf16Little => Utf16.decode .little
  | .utf16Big => Utf16.decode .big

end Charset
end DownloadNames
