import DownloadNames.Template.Bindings
import DownloadNames.Fault.Basic

/-
Placeholders `<##name|other>` and what they stand for.

A placeholder lists alternatives between bars.  An alternative is a run of `#`, the least width
of the value, and a name.  Alternatives are tried from left to right: a name that is not in the
table ends the search and stands for itself, a name with an empty value is passed over, and
any other value is filled up with zeros on the left.
-/

namespace DownloadNames.Template

/-- One `##name` choice: the least width of the value and the name of the variable. -/
structure Alternative where
  padWidth : Nat
  name : Text
deriving DecidableEq, Repr

namespace Alternative

/-- The text of one choice taken apart: leading `#` give the width, the rest is the name. -/
def parse (s : Text) : Alternative :=
  ⟨(s.takeWhile (· == '#')).length, s.dropWhile (· == '#')⟩

/-- The text of a choice. -/
def print (a : Alternative) : Text := List.replicate a.padWidth '#' ++ a.name

end Alternative

/-- A value filled up with zeros on the left to at least `width` characters. -/
def padZeros (width : Nat) (value : Text) : Text :=
  List.replicate (width - value.length) '0' ++ value

/-- What a list of alternatives stands for; empty if all of them are passed over. -/
def firstUsable (table : Bindings) : List Alternative → Text
  | [] => []
  | a :: rest =>
    match table.get? a.name with
    | none => a.name
    | some [] => firstUsable table rest
    | some (c :: cs) => padZeros a.padWidth (c :: cs)

/-- Alternatives in order, and the text that they were written as. -/
structure Placeholder where
  alternatives : List Alternative
  raw : Text
deriving DecidableEq, Repr

/-- A placeholder without alternatives has no value. -/
structure NoAlternatives where
  raw : Text
deriving DecidableEq, Repr

/-- The fault that a placeholder without alternatives is: it names the text of the placeholder. -/
def NoAlternatives.draft (e : NoAlternatives) : Fault.Draft where
  subject := .template (.text "Placeholder has no alternatives".toList) (.text e.raw) .null .null

namespace Placeholder

/-- The placeholder with the given text between its brackets. -/
def parse (inner : Text) : Placeholder :=
  ⟨(Text.splitBy (· == '|') inner).map Alternative.parse, '<' :: inner ++ ['>']⟩

/-- What a placeholder with alternatives stands for. -/
def value (p : Placeholder) (table : Bindings) : Text := firstUsable table p.alternatives

/-- What a placeholder stands for; one without alternatives stands for nothing. -/
def checkedValue (p : Placeholder) (table : Bindings) : Except NoAlternatives Text :=
  if p.alternatives = [] then .error ⟨p.raw⟩ else .ok (p.value table)

/-- The text between the brackets: the alternatives between bars. -/
def inner (p : Placeholder) : Text := Text.joinWith ['|'] (p.alternatives.map Alternative.print)

/-- One of the alternatives has an empty name. -/
def hasEmptyName (p : Placeholder) : Bool := p.alternatives.any fun a => a.name == []

end Placeholder
end DownloadNames.Template
