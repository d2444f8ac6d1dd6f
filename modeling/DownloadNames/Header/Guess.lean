import DownloadNames.Path.Valid
import DownloadNames.Text.Basic

/-
What the headers of a download say about its file name.
-/

namespace DownloadNames.Header

/-- The name that the server gave and the extension of its image type, where there are any. -/
structure Guess where
  name : Option Text
  imageExt : Option Text
deriving DecidableEq, Repr

namespace Guess

/-- The fields that are there, by name: the extension first. -/
def fields (g : Guess) : List (Text × Text) :=
  (match g.imageExt with
    | some ext => [("mimeExt".toList, ext)]
    | none => [])
  ++ (match g.name with
    | some name => [("filename".toList, name)]
    | none => [])

/-- The extension of the name, or else that of the image type. -/
def extension (g : Guess) : Option Text :=
  let ext := Path.extension (g.name.getD [])
  if ext = [] then g.imageExt else some ext

/-- The given name, or the fallback where there is none. -/
def nameOr (g : Guess) (fallback : Text) : Text :=
  match g.name with
  | some (c :: cs) => c :: cs
  | _ => fallback

/-- A safe file name: the given name or the fallback, sanitized, with the extension of the
image type where it has none. -/
def safeName (g : Guess) (fallback replacement : Text) : Text :=
  Path.completeName (g.nameOr fallback) (g.imageExt.getD []) replacement

end Guess
end DownloadNames.Header
