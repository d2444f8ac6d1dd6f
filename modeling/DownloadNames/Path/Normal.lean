import DownloadNames.Path.Basic

/-
The normal form of a file path: no empty parts and no parts `.`, but parts `..` as they are.
A path with two leading slashes keeps both; more than two count as one.
-/

namespace DownloadNames.Path

/-- The leading slashes that a normal form keeps. -/
def root : Text → Text
  | '/' :: '/' :: '/' :: _ => ['/']
  | '/' :: '/' :: _ => ['/', '/']
  | '/' :: _ => ['/']
  | _ => []

/-- The parts of a path that count. -/
def steps (path : Text) : List Text :=
  (Text.splitBy (· == '/') path).filter fun s => s ≠ [] && s ≠ ['.']

/-- The normal form of a path; the path of nothing is `.`. -/
def normal (path : Text) : Text :=
  let s := root path ++ Text.joinWith ['/'] (steps path)
  if s = [] then ['.'] else s

/-- The path of a part below another path; an absolute part stands for itself. -/
def below (base part : Text) : Text :=
  if part.head? = some '/' then normal part else normal (base ++ '/' :: part)

/-- The last dot of the last part and what follows it, unless the dot comes first or last. -/
def suffixOf (path : Text) : Text :=
  let name := (steps path).getLast?.getD []
  let tail := afterLast '.' name
  if tail = [] ∨ tail = name ∨ tail.length + 1 = name.length then [] else '.' :: tail

end DownloadNames.Path
