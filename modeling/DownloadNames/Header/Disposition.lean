import DownloadNames.Charset.Codecs
import DownloadNames.Text.Blank
import DownloadNames.Text.Word

/-
The file name in a Content-Disposition header.

An extended parameter `filename*=charset'language'value` wins over a plain `filename=value`.
Each kind is sought from the left, and the first place where the whole pattern fits counts.
The value is percent-decoded; quotes around or inside it go.  An empty name is no name.  An
extended value whose bytes the named character set refuses is an error.
-/

namespace DownloadNames.Header

/-- The text of a word that a pattern begins with. -/
def filenameWord : Text := ['f', 'i', 'l', 'e', 'n', 'a', 'm', 'e']

/-- What follows `c`, when the text begins with it. -/
def expect (c : Char) : Text → Option Text
  | d :: rest => if d = c then some rest else none
  | [] => none

/-! ## The extended parameter -/

/-- The characters beside word characters that the name of a character set may hold. -/
def charsetMarks : Text := ['!', '#', '$', '%', '&', '+', '^', '\x60', '\x7b', '\x7d', '~', '-']

/-- A character of the name of a character set. -/
def isCharsetChar (c : Char) : Bool := Text.isWordChar c || charsetMarks.contains c

/-- A character of a language tag. -/
def isLanguageChar (c : Char) : Bool := Text.isWordChar c || c == '-'

/-- A character of an extended value. -/
def isExtendedChar (c : Char) : Bool := c != ';' && !Text.isBlank c

/-- Character set and value of an extended parameter at the front of the text. -/
def extended? (s : Text) : Option (Text × Text) := do
  let s ← Text.after? (filenameWord ++ ['*']) s
  let s ← expect '=' (s.dropWhile Text.isBlank)
  let s := s.dropWhile Text.isBlank
  let charset := s.takeWhile isCharsetChar
  let s ← expect '\'' (s.dropWhile isCharsetChar)
  let s ← expect '\'' (s.dropWhile isLanguageChar)
  let value := s.takeWhile isExtendedChar
  if value = [] then none else some (charset, value)

/-- The name of a character set that stands for an empty one. -/
def charsetOr (name : Text) : Text := if name = [] then "utf-8".toList else name

/-- The name that an extended parameter gives.  A character set that turns out to be unknown is
replaced by UTF-8 for the whole value. -/
def extendedName (codecs : Codecs) (charset value : Text) : Except Fault.Cause Text :=
  let value := Text.trimBy (· == '"') value
  match Percent.tryDecodeText (codecs.decode (charsetOr charset)) value with
  | .ok name => .ok name
  | .error .unknownName => .ok (Percent.decodeText Charset.utf8.decode value)
  | .error (.refused error) => .error error

/-! ## The plain parameter -/

/-- A quote of either kind. -/
def isQuote (c : Char) : Bool := c == '"' || c == '\''

/-- A character that ends a bare value. -/
def endsBare (c : Char) : Bool := c == ';' || c == '\n'

/-- A value in quotes, with its quotes; it ends at the next quote of its kind on the line. -/
def quotedValue? : Text → Option Text
  | q :: rest =>
    if isQuote q then
      let inside := rest.takeWhile fun c => c != q && c != '\n'
      match rest.dropWhile fun c => c != q && c != '\n' with
      | c :: _ => if c = q then some (q :: inside ++ [q]) else none
      | [] => none
    else none
  | [] => none

/-- The value of a plain parameter at the front of the text. -/
def plain? (s : Text) : Option Text := do
  let s ← Text.after? filenameWord s
  let s ← expect '=' (s.dropWhile fun c => c != ';' && c != '=' && c != '\n')
  return (quotedValue? s).getD (s.takeWhile fun c => !endsBare c)

/-- The name that a plain value gives. -/
def plainName (value : Text) : Text :=
  Percent.decodeText Charset.utf8.decode (Text.trim (value.filter fun c => !isQuote c))

/-! ## The header -/

/-- A name that is not empty. -/
def nonEmpty? (name : Text) : Option Text := if name = [] then none else some name

/-- The file name that a Content-Disposition header gives. -/
def nameInDisposition (codecs : Codecs) (disposition : Text) :
    Except Fault.Cause (Option Text) :=
  match Text.firstSuffix? extended? disposition with
  | some (charset, value) => (extendedName codecs charset value).map nonEmpty?
  | none =>
    .ok ((Text.firstSuffix? plain? disposition).bind fun value => nonEmpty? (plainName value))

end DownloadNames.Header
