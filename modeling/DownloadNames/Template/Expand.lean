import DownloadNames.Template.Placeholder
import DownloadNames.Path.Sanitize
import DownloadNames.Text.Pattern

/-
Finding the placeholders of a template, expanding them with a table of variables, and the names
that an expansion can depend on.

A placeholder begins at a `<` and ends at the first `>` after it, with at least one character
between the two.  A `<` that is directly followed by `>`, or after which there is no `>`, is
literal text.
-/

namespace DownloadNames.Template

/-- A placeholder at the front of a text: what stands between its brackets. -/
def placeholderPattern : Text.Pattern Text
  | [] => none
  | c :: cs =>
    if c = '<' then
      match Text.cutAt? '>' cs with
      -- both brackets are part of the find, and the first is not counted
      | some (inner, _) => if inner = [] then none else some (inner, inner.length + 1)
      | none => none
    else none

/-- The placeholders of a template in order of appearance. -/
def placeholders (template : Text) : List Placeholder :=
  (placeholderPattern.findAll template).map Placeholder.parse

/-- The template with every placeholder replaced by what it stands for. -/
def expand (template : Text) (table : Bindings) : Text :=
  placeholderPattern.replace (fun inner => (Placeholder.parse inner).value table) template

/-- The template with every placeholder replaced by what it stands for, unless one has no
alternatives. -/
def checkedExpand (template : Text) (table : Bindings) : Except NoAlternatives Text :=
  placeholderPattern.replaceChecked (fun inner => (Placeholder.parse inner).checkedValue table)
    template

/-- The expansion made a safe relative path. -/
def expandPath (template : Text) (table : Bindings) (replacement : Text) : Text :=
  Path.safePath (expand template table) replacement

/-- Adds the name if it is not empty and not there yet. -/
def addName (names : List Text) (name : Text) : List Text :=
  if name = [] ∨ name ∈ names then names else names ++ [name]

/-- The lower-cased names of the alternatives of a template, in order of appearance. -/
def mentioned (template : Text) : List Text :=
  (placeholders template).flatMap fun p => p.alternatives.map fun a => Text.lower a.name

/-- The distinct non-empty variable names of a template, lower-cased, in order of first use. -/
def names (template : Text) : List Text := (mentioned template).foldl addName []

end DownloadNames.Template
