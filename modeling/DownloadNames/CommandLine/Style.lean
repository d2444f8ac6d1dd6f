import DownloadNames.CommandLine.Color
import DownloadNames.Text.Blank
import DownloadNames.Text.LowerCase

/-
Styles of text, as words.
The words of a style are attributes, which `not` before them switches off, a colour, a background
after `on` and a target after `link`; of several that say the same thing the last one counts.
Two texts that mean the same style have the same canonical form, so a style opened by one is
closed by the other.
-/

namespace DownloadNames.CommandLine

/-- What a style can switch on or off. -/
inductive Attribute where
  | bold | dim | italic | underline | blink | blink2 | reverse | conceal | strike | underline2
  | frame | encircle | overline
deriving DecidableEq, Repr

namespace Attribute

/-- All attributes in their canonical order. -/
def all : List Attribute :=
  [bold, dim, italic, underline, blink, blink2, reverse, conceal, strike, underline2, frame,
    encircle, overline]

/-- The full name and the short one, where there is one. -/
def names : Attribute → List String
  | bold => ["bold", "b"]
  | dim => ["dim", "d"]
  | italic => ["italic", "i"]
  | underline => ["underline", "u"]
  | blink => ["blink"]
  | blink2 => ["blink2"]
  | reverse => ["reverse", "r"]
  | conceal => ["conceal", "c"]
  | strike => ["strike", "s"]
  | underline2 => ["underline2", "uu"]
  | frame => ["frame"]
  | encircle => ["encircle"]
  | overline => ["overline", "o"]

/-- The full name. -/
def name (a : Attribute) : Text := (a.names.headD "").toList

/-- The attribute with a name. -/
def named? (word : Text) : Option Attribute :=
  all.find? fun a => a.names.any fun n => n.toList == word

end Attribute

/-- A style: the attributes that it sets, the last one set first, and what else it gives. -/
structure Style where
  attributes : List (Attribute × Bool) := []
  color : Option Text := none
  background : Option Text := none
  link : Option Text := none
deriving DecidableEq, Repr

namespace Style

/-- Why words are no style: they mean none, or a component of a colour has no digits. -/
inductive Fault where
  | unknown
  | emptyComponent
deriving DecidableEq, Repr

/-- A word as a colour, in lower case. -/
def readColor (word : Text) : Except Fault Text :=
  let word := Text.lower word
  if Color.isColor word then .ok word
  else if Color.lacksComponent word then .error .emptyComponent
  else .error .unknown

/-- A style with one more word. -/
def addWord (style : Style) (word : Text) : Except Fault Style :=
  match Attribute.named? (Text.lower word) with
  | some a => .ok { style with attributes := (a, true) :: style.attributes }
  | none => (readColor word).map fun color => { style with color := some color }

/-- A style with one more word and the word that it speaks about, if `word` needs another one. -/
def addPair? (style : Style) (word object : Text) : Option (Except Fault Style) :=
  let word := Text.lower word
  if word = "on".toList then
    some ((readColor object).map fun color => { style with background := some color })
  else if word = "not".toList then
    some <| match Attribute.named? object with
      | some a => .ok { style with attributes := (a, false) :: style.attributes }
      | none => .error .unknown
  else if word = "link".toList then some (.ok { style with link := some object })
  else none

/-- A style with more words. -/
def addWords (style : Style) : List Text → Except Fault Style
  | [] => .ok style
  | [word] => style.addWord word
  | word :: object :: rest => match style.addPair? word object with
    | some result => do (← result).addWords rest
    | none => do (← style.addWord word).addWords (object :: rest)

/-- The words of a text. -/
def words (s : Text) : List Text := (Text.splitBy Text.isBlank s).filter (· ≠ [])

/-- The style that a text means; `none` means the style that sets nothing. -/
def read (s : Text) : Except Fault Style :=
  if Text.trim s = "none".toList then .ok {} else ({} : Style).addWords (words s)

/-- The words for what a style does to an attribute. -/
def attributeWords (style : Style) (a : Attribute) : List Text :=
  match style.attributes.find? (·.1 == a) with
  | some (_, true) => [a.name]
  | some (_, false) => ["not".toList, a.name]
  | none => []

/-- A style in its canonical words. -/
def display (style : Style) : Text :=
  let words := Attribute.all.flatMap style.attributeWords ++ style.color.toList
    ++ (style.background.map fun c => ["on".toList, c]).getD []
    ++ (style.link.map fun l => ["link".toList, l]).getD []
  if words = [] then "none".toList else Text.joinWith [' '] words

/-- The canonical form of a text that means a style; any other text is trimmed and in lower
case. -/
def canonical (s : Text) : Except Fault Text :=
  match read s with
  | .ok style => .ok style.display
  | .error .unknown => .ok (Text.lower (Text.trim s))
  | .error .emptyComponent => .error .emptyComponent

end Style
end DownloadNames.CommandLine
