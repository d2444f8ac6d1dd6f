import DownloadNames.Value.Display
import DownloadNames.Text.LowerCase

/-
The table of template variables.

Names are compared without regard to case: they are lower-cased once, when the table is built,
and again at each look-up.  Values are texts; a `null` counts as empty.
-/

namespace DownloadNames

/-- Template variables by lower-cased name, in order of first occurrence. -/
structure Bindings where
  entries : List (Text × Text)
deriving DecidableEq, Repr

namespace Bindings

/-- The text stored for a value: empty for `null`, its display otherwise. -/
def stored : Value → Text
  | .scalar .null => []
  | v => v.display

/-- The name and the text under which an entry is stored. -/
def storedEntry (e : Scalar × Value) : Text × Text := (Text.lower e.1.display, stored e.2)

/-- The table of the given entries; of two with one name the later gives the value. -/
def ofEntries (es : Entries) : Bindings := ⟨Assoc.putAll [] (es.map storedEntry)⟩

/-- The table of two groups of entries, the second counting after the first. -/
def ofGroups (vars named : Entries) : Bindings := ofEntries (vars ++ named)

/-- What the variables of an expansion are given as: not at all, as entries, or as a table. -/
inductive Given where
  | nothing
  | entries (es : Entries)
  | table (t : Bindings)

/-- The table of the given variables; a table is taken as it is. -/
def ofGiven : Given → Bindings
  | .nothing => ofEntries []
  | .entries es => ofEntries es
  | .table t => t

/-- The text stored for a name, letter case ignored. -/
def get? (table : Bindings) (name : Text) : Option Text :=
  Assoc.find? (Text.lower name) table.entries

/-- The name is in the table, letter case ignored. -/
def has (table : Bindings) (name : Text) : Bool := (table.get? name).isSome

/-- The names of the table in order. -/
def names (table : Bindings) : List Text := Assoc.keys table.entries

/-- The number of names. -/
def size (table : Bindings) : Nat := table.entries.length

/-- The table as entries from which a table can be built again. -/
def toEntries (table : Bindings) : Entries :=
  table.entries.map fun (name, value) => (.text name, .text value)

/-- The table as it is named in messages. -/
def written (table : Bindings) : Text :=
  "VariableTable(".toList ++ (Value.map table.toEntries).written ++ [')']

/-- Two tables hold the same names with the same texts, in any order. -/
def sameAs (a b : Bindings) : Bool :=
  a.size == b.size && a.entries.all fun (name, value) => Assoc.find? name b.entries = some value

end Bindings
end DownloadNames
