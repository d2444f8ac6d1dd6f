import DownloadNames.Text.Basic

/-
Suggestions for recovering from a fault.
A list of suggestions is put in order of priority whenever one is added to it; the sort is
stable, so that equal priorities keep their order of arrival.  A list that was handed over
as a whole and never added to keeps the order it came in.
-/

namespace DownloadNames

/-- A step that may help; the lowest priority number is the most urgent. -/
structure Suggestion where
  action : Text
  description : Text
  automatic : Bool := false
  command : Option Text := none
  priority : Int := 1
deriving DecidableEq, Repr

namespace Suggestion

/-- The first suggestion is at least as urgent as the second. -/
def noLater (a b : Suggestion) : Bool := a.priority ≤ b.priority

/-- Suggestions in order of priority, equal ones in their given order. -/
def inOrder (list : List Suggestion) : List Suggestion := list.mergeSort noLater

/-- The list with one more suggestion, put in order. -/
def add (list : List Suggestion) (s : Suggestion) : List Suggestion := inOrder (list ++ [s])

/-- The lines that show a suggestion under its number. -/
def lines (number : Nat) (s : Suggestion) : List Text :=
  [' ' :: ' ' :: (Nat.repr number).toList ++ '.' :: ' ' :: s.action,
    "     ".toList ++ s.description]
    ++ (match s.command with
      | none => []
      | some [] => []
      | some command => ["     Command: ".toList ++ command])

/-- The lines that show suggestions under consecutive numbers. -/
def numbered : (first : Nat) → List Suggestion → List Text
  | _, [] => []
  | n, s :: rest => s.lines n ++ numbered (n + 1) rest

end Suggestion
end DownloadNames
