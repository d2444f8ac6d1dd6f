import DownloadNames.Charset.Basic
import DownloadNames.Charset.Punycode
import DownloadNames.Fault.Basic

/-
Decoding bytes under the name of a character set.

The sets of `Charset` give every byte sequence a text.  A system knows more names than those, and
what it makes of bytes under them is up to it: `Codecs` stands for that knowledge and can be
anything.  There are two ways to give no text.  A name can be unknown, or not that of a character
set; or the bytes are refused with an error, even where what is ill-formed is to be replaced.
-/

namespace DownloadNames

/-- Why bytes have no text under a name. -/
inductive CodecError where
  | unknownName
  | refused (error : Fault.Cause)
deriving DecidableEq, Repr

/-- What a system makes of bytes under the names that no set of `Charset` has. -/
abbrev Codecs := (name : Text) → List UInt8 → Except CodecError Text

namespace Codecs

/-- The text of bytes under a name. -/
def decode (codecs : Codecs) (name : Text) (bytes : List UInt8) : Except CodecError Text :=
  match Charset.ofName? name with
  | some set => .ok (set.decode bytes)
  | none => codecs name bytes

/-- The name of an error of decoding for reasons other than single bytes. -/
def unicodeError : Text := "UnicodeError".toList

/-- The name of an error of decoding single bytes. -/
def unicodeDecodeError : Text := "UnicodeDecodeError".toList

/-- A name that refuses all bytes, and why. -/
def refusedBy (name reason : Text) : CodecError :=
  .refused ⟨unicodeError, "decoding with '".toList ++ name ++ "' codec failed (".toList
    ++ unicodeError ++ ": ".toList ++ reason ++ [')']⟩

/-- A byte beyond ASCII that is refused at its place. -/
def refusedByte (b : UInt8) (place : Nat) : CodecError :=
  .refused ⟨unicodeDecodeError, "'ascii' codec can't decode byte 0x".toList
    ++ Text.hexDigits 2 b.toNat ++ " in position ".toList ++ Text.ofNat place
    ++ ": ordinal not in range(128)".toList⟩

/-- Besides the sets of `Charset`, the names that refuse bytes although what is ill-formed is to be
replaced: two refuse all bytes, and Punycode refuses some.  All further names are unknown here. -/
def standard : Codecs := fun name bytes =>
  let normal := Charset.normalName name
  if normal = "idna".toList then
    .error (refusedBy name "Unsupported error handling replace".toList)
  else if normal = "undefined".toList then
    .error (refusedBy name "undefined encoding".toList)
  else if normal = "punycode".toList then
    match Punycode.decode bytes with
    | .ok s => .ok s
    | .error (b, place) => .error (refusedByte b place)
  else .error .unknownName

end Codecs
end DownloadNames
