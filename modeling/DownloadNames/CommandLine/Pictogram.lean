import DownloadNames.CommandLine.Pictogram.Table
import DownloadNames.Text.Blank
import DownloadNames.Text.LowerCase

/-
Pictograms by name.
A name between colons stands for the pictogram; `-text` or `-emoji` after the name asks for the
plain or the colourful form.  Upper and lower case do not differ, and a name that is not known
stays as it is.
-/

namespace DownloadNames.CommandLine.Pictogram

/-- The pictogram with a name. -/
def named? (name : Text) : Option Text :=
  let name := String.ofList (Text.lower name)
  (table.find? fun (n, _) => n == name).map fun (_, picture) => picture.toList

/-- A text without an ending, when it ends with it. -/
def before? (ending s : Text) : Option Text :=
  (Text.after? ending.reverse s.reverse).map List.reverse

/-- A name and the selector of the form that an ending asks for. -/
def nameAndForm (s : Text) : Text × Text :=
  match before? "-text".toList s, before? "-emoji".toList s with
  | some name, _ => (name, [Char.ofNat 0xfe0e])
  | none, some name => (name, [Char.ofNat 0xfe0f])
  | none, none => (s, [])

/-- What a text between colons stands for. -/
def meaning? (s : Text) : Option Text :=
  let (name, form) := nameAndForm s
  (named? name).map (· ++ form)

/-- A character between the colons around a name. -/
def isNameChar (c : Char) : Bool := c != ':' && !Text.isBlank c

/-- The text with pictograms for their names, of which the first `skip` characters are passed
over. -/
def drawFrom : (skip : Nat) → Text → Text
  | _, [] => []
  | skip + 1, _ :: cs => drawFrom skip cs
  | 0, ':' :: cs =>
    let name := cs.takeWhile isNameChar
    if cs[name.length]? = some ':' then
      (meaning? name).getD (':' :: name ++ [':']) ++ drawFrom (name.length + 1) cs
    else ':' :: drawFrom 0 cs
  | 0, c :: cs => c :: drawFrom 0 cs

/-- The text with pictograms for their names. -/
def draw (s : Text) : Text := drawFrom 0 s

end DownloadNames.CommandLine.Pictogram
