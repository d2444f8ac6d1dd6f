import DownloadNames.Settings.Store

/-
Settings as entries, and the standard settings as a YAML text, to begin a file with.
In the text entries are written in block form in the order of their keys.  The texts among the
standard settings can all stand without quotes.
-/

namespace DownloadNames.Settings

/-! ## Settings as entries -/

/-- The entries of a section. -/
def sectionValue (sec : String) (s : Settings) : Value :=
  .map (((LoadedSettings.sectionFields s).filter fun (n, _) => n == sec).map
    fun (_, field, v) => (.text field.toList, v))

/-- Settings as entries of the shape in which they are read. -/
def toEntries (s : Settings) : Entries :=
  [("version", .text s.version), ("templates", sectionValue "templates" s),
    ("paths", sectionValue "paths" s), ("headers", sectionValue "headers" s),
    ("verbose", .bool s.verbose), ("debug", .bool s.debug)].map fun (n, v) => (.text n.toList, v)

/-! ## Order -/

/-- Entries in the order of their keys. -/
def sortedEntries (es : Entries) : Entries :=
  es.mergeSort fun a b =>
    decide (String.ofList a.1.display ≤ String.ofList b.1.display)

mutual

/-- A value with the entries of all mappings inside mappings in order. -/
def inOrder : Value → Value
  | .map es => .map (sortedEntries (allInOrder es))
  | v => v

/-- Entries with their values in order. -/
def allInOrder : List (Scalar × Value) → List (Scalar × Value)
  | [] => []
  | (k, v) :: es => (k, inOrder v) :: allInOrder es

end

/-! ## Lines -/

/-- A scalar without quotes. -/
def exampleScalar : Scalar → Text
  | .bool true => "true".toList
  | .bool false => "false".toList
  | s => s.display

mutual

/-- The lines of an entry, indented. -/
def exampleEntry (margin : Text) (k : Scalar) : Value → List Text
  | .scalar s => [margin ++ exampleScalar k ++ ':' :: ' ' :: exampleScalar s]
  | .list _ => [margin ++ exampleScalar k ++ [':', ' ', '[', ']']]
  | .map es => (margin ++ exampleScalar k ++ [':']) :: exampleLines (' ' :: ' ' :: margin) es

/-- The lines of entries, indented. -/
def exampleLines (margin : Text) : List (Scalar × Value) → List Text
  | [] => []
  | (k, v) :: es => exampleEntry margin k v ++ exampleLines margin es

end

/-- The text of an example file. -/
def exampleText : Text :=
  (exampleLines [] (sortedEntries (allInOrder (toEntries {})))).flatMap fun line => line ++ ['\n']

end DownloadNames.Settings
