import DownloadNames.Settings.Load

/-
The full report of a failure to load settings.
It goes on after the message with a paragraph for each issue: the place, the broken rule, and
the value that breaks it, which is cut in the middle if it is long.  Of the report only the
message is shown in the end, but what goes on after it can hold tags that are not well placed.
-/

namespace DownloadNames.Settings

/-- The name of the type of a value. -/
def typeName : Value → String
  | .scalar .null => "NoneType"
  | .scalar (.bool _) => "bool"
  | .scalar (.int _) => "int"
  | .scalar (.real _) => "float"
  | .scalar (.text _) => "str"
  | .scalar (.bytes _) => "bytes"
  | .scalar (.moment (.date ..)) => "date"
  | .scalar (.moment (.time ..)) => "datetime"
  | .list _ => "list"
  | .map _ => "dict"

/-- The first characters of a text that take no more than `room` bytes. -/
def fitting : (room : Nat) → Text → Text
  | _, [] => []
  | room, c :: cs => if c.utf8Size ≤ room then c :: fitting (room - c.utf8Size) cs else []

/-- A text of no more than fifty bytes, or the beginning and the end of a longer one. -/
def shortened (s : Text) : Text :=
  if fitting 50 s = s then s
  else fitting 25 s ++ "...".toList ++ (fitting 24 s.reverse).reverse

/-- A step as it is shown; backquotes enclose a name with a point in it. -/
def Step.display : Step → Text
  | .name t => if t.contains '.' then '\x60' :: t ++ ['\x60'] else t
  | .number i => Text.ofInt i

/-- The length of the address at which a rule is explained, without the kind at its end.  The
address itself is never shown. -/
def addressLength : Nat := 35

/-- The paragraph for an issue. -/
def Issue.paragraph (i : Issue) : Text :=
  Text.joinWith ['.'] (i.place.map Step.display)
    ++ "\n  ".toList ++ i.rule.message
    ++ " [type=".toList ++ i.rule.kind.toList
    ++ ", input_value=".toList ++ shortened i.given.written
    ++ ", input_type=".toList ++ (typeName i.given).toList
    ++ "]\n    For further information visit ".toList
    ++ List.replicate addressLength ' ' ++ i.rule.kind.toList

/-- What the report of a failure says after its message. -/
def LoadFailure.details : LoadFailure → Text
  | .invalid issues => issues.flatMap fun i => '\n' :: i.paragraph
  | .unreadable path .isFolder => ": [Errno 21] Is a directory: ".toList ++ Text.quoted path
  | _ => []

end DownloadNames.Settings
