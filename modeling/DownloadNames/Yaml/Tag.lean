import DownloadNames.Yaml.Number
import DownloadNames.Yaml.Moment
import DownloadNames.Text.Base64

/-
The tags of nodes, and what scalars are read as under them.

A node has the tag that stands in front of it, or one that its kind and its form tell: a text
without quotes gets the tag that it looks like.  Each tag of the standard set has a reader of its
own.  A reader can fail, mostly where the tag has been written to a text that does not look like it.
-/

namespace DownloadNames.Yaml

/-- The tags of the standard set, of which two mean lists of pairs; all others are one. -/
inductive Tag where
  | null
  | bool
  | int
  | float
  | binary
  | timestamp
  | text
  | list
  | pairs
  | set
  | map
  | merge
  | value
  | other
deriving DecidableEq, Repr

namespace Tag

/-- The names of the standard tags. -/
def names : List (String × Tag) :=
  [("null", null), ("bool", bool), ("int", int), ("float", float), ("binary", binary),
    ("timestamp", timestamp), ("str", text), ("seq", list), ("pairs", pairs),
    ("omap", pairs), ("set", set), ("map", map), ("merge", merge), ("value", value)]

/-- The tag of a name written out. -/
def ofName (name : Text) : Tag :=
  ((names.find? fun (n, _) => name = ("tag:yaml.org,2002:" ++ n).toList).map Prod.snd).getD other

/-- A tag of a list or a mapping, or of what is written as one. -/
def isCollection (tag : Tag) : Bool := [list, pairs, set, map].contains tag

/-- The tag `!`, which leaves it to the form of a node what its tag is. -/
def isOpen (name : Text) : Bool := name == ['!']

/-! ## What texts without quotes look like -/

/-- The words for truth values, lower-cased, with what they stand for. -/
def truthWords : List (Text × Bool) :=
  [("yes", true), ("no", false), ("true", true), ("false", false), ("on", true), ("off", false)].map
    fun (word, b) => (word.toList, b)

/-- A word in lower case, in upper case, or with its first letter in upper case. -/
def spellings (word : Text) : List Text :=
  [word, word.map Char.toUpper, (word.take 1).map Char.toUpper ++ word.drop 1]

/-- The text is a word for a truth value. -/
def isTruth (s : Text) : Bool := truthWords.any fun (word, _) => (spellings word).contains s

/-- The text stands for nothing. -/
def isNothing (s : Text) : Bool := s == [] || s == ['~'] || (spellings "null".toList).contains s

/-- The tag that a text looks like; a line end at its end counts for nothing, unless it is all. -/
def ofForm (s : Text) : Tag :=
  let t := if s = ['\n'] then s else withoutLineEnd s
  if isTruth t then bool
  else if isReal t then float
  else if isInteger t then int
  else if t = ['<', '<'] then merge
  else if isNothing t then null
  else if isMoment t then timestamp
  else if t = ['='] then value
  else text

/-! ## Reading scalars -/

/-- The truth value of a word in any case. -/
def readTruth (s : Text) : Except DocumentError Bool :=
  match Assoc.find? (Text.lower s) truthWords with
  | some b => .ok b
  | none => .error (.raised "KeyError" (Text.quoted (Text.lower s)))

/-- What a text is read as under a tag; only scalars have a text. -/
def readText (s : Text) : Tag → Except DocumentError Scalar
  | null => .ok .null
  | bool => (readTruth s).map .bool
  | int => (readInteger s).map .int
  | float => (readReal s).map .real
  | binary =>
    DocumentError.orMalformed <|
      if s.all (·.toNat < 0x80) then (Base64.decode? s).map .bytes else none
  | timestamp => (readMoment s).map .moment
  | text => .ok (.text s)
  | _ => .error .malformed

end Tag
end DownloadNames.Yaml
