import DownloadNames.Path.Sanitize

/-
Which texts serve as a relative download path, which of them name a file, and the step from a
name given by a server to a usable file name.
-/

namespace DownloadNames.Path

/-- The text ends with one of the characters satisfying `p`. -/
def lastSatisfies (p : Char → Bool) (s : Text) : Bool :=
  match s.getLast? with
  | some c => p c
  | none => false

/-- A path is usable if it is non-empty, does not start with `.`, does not end with `.` or `/`
and holds no forbidden character. -/
def isUsable (path : Text) : Bool :=
  path != [] && path.head? != some '.' && !lastSatisfies (fun c => c == '.' || c == '/') path
    && !path.any isForbidden

/-- A usable path with a stem and an extension. -/
def namesFile (path : Text) : Bool :=
  isUsable path && stem path != [] && extension path != []

/-- An extension with its dot, which is added where it is missing. -/
def withDot (ext : Text) : Text := if ext.head? = some '.' then ext else '.' :: ext

/-- The sanitized name; where it has no extension, a non-empty fallback extension is appended,
except to an empty name. -/
def completeName (name fallbackExt repl : Text) : Text :=
  let result := safeName name repl
  if fallbackExt ≠ [] ∧ extension result = [] ∧ result ≠ [] then result ++ withDot fallbackExt
  else result

end DownloadNames.Path
