import DownloadNames.Fault.Basic

/-
What reading a document gives instead of a value.

A text that breaks the grammar of its format is malformed, and a reader says so in its own way.  But
a text can also keep to the grammar and name something that does not exist, such as the 30th of
February; then the reader raises an error of any kind.  The two are told apart, since only the first
is expected by those who call a reader.
-/

namespace DownloadNames

/-- Why a document has no value: it is malformed, or its reader raises an error of another kind. -/
inductive DocumentError where
  | malformed
  | foreign (error : Fault.Cause)
deriving DecidableEq, Repr

namespace DocumentError

/-- An error of a class with its wording. -/
def raised (className : String) (message : Text) : DocumentError :=
  .foreign ⟨className.toList, message⟩

/-- The value that has been found; a document without it is malformed. -/
def orMalformed : Option α → Except DocumentError α
  | some a => .ok a
  | none => .error .malformed

end DocumentError
end DownloadNames
