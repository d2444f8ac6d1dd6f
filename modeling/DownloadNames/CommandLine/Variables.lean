import DownloadNames.Text.Blank
import DownloadNames.Assoc

/-
Variables given as `name=value` on the command line.
The name is trimmed; the value is everything after the first `=`.  A name that is given again
changes its value and keeps its place.  Names are told apart by letter case.
-/

namespace DownloadNames.CommandLine

/-- What is wrong with a variable on the command line. -/
inductive BadAssignment where
  | noEquals (item : Text)
  | noName (item : Text)
deriving DecidableEq, Repr

/-- The wording for a bad variable. -/
def BadAssignment.message : BadAssignment → Text
  | .noEquals item => "Expected name=value, got '".toList ++ item ++ ['\'']
  | .noName item => "Empty variable name in '".toList ++ item ++ ['\'']

/-- The name and the value that one item gives. -/
def assignment (item : Text) : Except BadAssignment (Text × Text) :=
  match Text.cutAt? '=' item with
  | none => .error (.noEquals item)
  | some (name, value) =>
    if Text.trim name = [] then .error (.noName item) else .ok (Text.trim name, value)

/-- The variables that items give, up to the first that is bad. -/
def readVariables (items : List Text) : Except BadAssignment (List (Text × Text)) :=
  (items.mapM assignment).map (Assoc.putAll [])

end DownloadNames.CommandLine
