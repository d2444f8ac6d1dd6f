import DownloadNames.CommandLine.Literal.Expression
import DownloadNames.Text.Blank

/-
Handlers: what a tag that begins with `@` asks to be called.
Its parameters are a name, perhaps with arguments in parentheses, or else a literal on its own.
The arguments have to be literals.
-/

namespace DownloadNames.CommandLine.Handler

/-- A character of the name of a handler. -/
def isNameChar (c : Char) : Bool := Text.isWordChar c || c == '.'

/-- The arguments after the name of a handler, where parameters are a name and arguments. -/
def arguments? (parameters : Text) : Option Text :=
  match parameters.dropWhile isNameChar with
  | [] => some ['(', ')']
  | '(' :: s => if s.getLast? = some ')' && !s.contains '\n' then some ('(' :: s) else none
  | _ => none

/-- The part of parameters that has to be a literal. -/
def literal (parameters : Text) : Text :=
  let parameters := Text.trim parameters
  (arguments? parameters).getD parameters

/-- Why parameters cannot be used, if they cannot. -/
def fault? (parameters : Text) : Option Literal.Fault := Literal.fault? (literal parameters)

end DownloadNames.CommandLine.Handler
