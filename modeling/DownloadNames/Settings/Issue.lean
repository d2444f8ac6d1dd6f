import DownloadNames.Value.Display

/-
What is wrong with a value that is given for a setting, and where.
A check gives either a result or all issues that it found.  Checks of several parts are
combined so that the issues of all parts are gathered, in the order of the parts.
-/

namespace DownloadNames.Settings

/-- The rule that a value breaks. -/
inductive Rule where
  | text
  | unicodeText
  | nonEmptyText
  | integer
  | integerText
  | wholeNumber
  | finiteNumber
  | atLeast (n : Nat)
  | atMost (n : Nat)
  | truth
  | truthText
  | mapping
  | sectionOf (name : String)
  | knownField
  | existingField (name : Text)
  | nonEmptyTemplate (preset : Text)
  | safeReplacement (found : Text)
deriving DecidableEq, Repr

/-- The name of the kind of a broken rule. -/
def Rule.kind : Rule → String
  | text => "string_type"
  | unicodeText => "string_unicode"
  | nonEmptyText => "string_too_short"
  | integer => "int_type"
  | integerText => "int_parsing"
  | wholeNumber => "int_from_float"
  | finiteNumber => "finite_number"
  | atLeast _ => "greater_than_equal"
  | atMost _ => "less_than_equal"
  | truth => "bool_type"
  | truthText => "bool_parsing"
  | mapping => "dict_type"
  | sectionOf _ => "model_type"
  | knownField => "extra_forbidden"
  | existingField _ => "no_such_attribute"
  | nonEmptyTemplate _ => "value_error"
  | safeReplacement _ => "value_error"

/-- The wording for a broken rule. -/
def Rule.message : Rule → Text
  | text => "Input should be a valid string".toList
  | unicodeText =>
    "Input should be a valid string, unable to parse raw data as a unicode string".toList
  | nonEmptyText => "String should have at least 1 character".toList
  | integer => "Input should be a valid integer".toList
  | integerText =>
    "Input should be a valid integer, unable to parse string as an integer".toList
  | wholeNumber =>
    "Input should be a valid integer, got a number with a fractional part".toList
  | finiteNumber => "Input should be a finite number".toList
  | atLeast n => "Input should be greater than or equal to ".toList ++ Text.ofNat n
  | atMost n => "Input should be less than or equal to ".toList ++ Text.ofNat n
  | truth => "Input should be a valid boolean".toList
  | truthText => "Input should be a valid boolean, unable to interpret input".toList
  | mapping => "Input should be a valid dictionary".toList
  | sectionOf name => ("Input should be a valid dictionary or instance of " ++ name).toList
  | knownField => "Extra inputs are not permitted".toList
  | existingField name => "Object has no attribute '".toList ++ name ++ ['\'']
  | nonEmptyTemplate preset =>
    "Value error, Preset '".toList ++ preset ++ "' has an empty template".toList
  | safeReplacement found =>
    "Value error, Replacement contains forbidden characters: ".toList ++ found

/-- A step on the way to a value: the name of an entry, or its number where the key is one. -/
inductive Step where
  | name (t : Text)
  | number (i : Int)
deriving DecidableEq, Repr

/-- The bound below which the numbers of steps lie: two to the power of 63. -/
def Step.bound : Int := 9223372036854775808

/-- The step to the entry of a key. -/
def Step.ofKey : Scalar → Step
  | .text t => .name t
  | .int i => if -bound ≤ i ∧ i < bound then .number i else .name (Text.ofInt i)
  | .bool b => .number (if b then 1 else 0)
  | s => .name s.written

/-- A broken rule, the way to the value that breaks it, and the value. -/
structure Issue where
  place : List Step
  rule : Rule
  given : Value
deriving Repr

/-! ## Checks -/

/-- A checked value, or the issues that the check found. -/
abbrev Checked (α : Type) := Except (List Issue) α

namespace Checked

/-- A value breaks a rule. -/
def broken (rule : Rule) (given : Value) : Checked α := .error [⟨[], rule, given⟩]

/-- The issues found so far. -/
def issues : Checked α → List Issue
  | .ok _ => []
  | .error is => is

/-- The same result, its issues one step further away. -/
def under (step : Step) : Checked α → Checked α
  | .ok a => .ok a
  | .error is => .error (is.map fun i => { i with place := step :: i.place })

/-- Both results, or the issues of both. -/
def both (a : Checked α) (b : Checked β) : Checked (α × β) :=
  match a, b with
  | .ok a, .ok b => .ok (a, b)
  | a, b => .error (a.issues ++ b.issues)

/-- All results, or the issues of all. -/
def all : List (Checked α) → Checked (List α)
  | [] => .ok []
  | c :: cs => match both c (all cs) with
    | .ok (a, as) => .ok (a :: as)
    | .error is => .error is

/-- The check of the entry of a name; without such an entry the result is the standard one. -/
def entry (entries : Entries) (name : String) (standard : α) (check : Value → Checked α) :
    Checked α :=
  match Value.entry? name.toList entries with
  | none => .ok standard
  | some v => (check v).under (.name name.toList)

end Checked
end DownloadNames.Settings
