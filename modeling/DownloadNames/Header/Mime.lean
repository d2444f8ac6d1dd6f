import DownloadNames.Text.Blank
import DownloadNames.Text.LowerCase
import DownloadNames.Assoc

/-
The extension that an image type in a Content-Type header stands for.

The subtype of `image/subtype; parameters` is trimmed and lower-cased.  A table of overrides
names extensions that differ from their subtype.
-/

namespace DownloadNames.Header

/-- Extensions without their dot, by lower-cased subtype. -/
abbrev MimeOverrides := List (Text × Text)

/-- The overrides in force when none are given. -/
def standardOverrides : MimeOverrides :=
  [("jpeg".toList, "jpg".toList), ("svg+xml".toList, "svg".toList)]

/-- The type that has extensions, with its slash. -/
def imageType : Text := ['i', 'm', 'a', 'g', 'e', '/']

/-- The subtype of an image type, trimmed and lower-cased; `none` for other types and for an
empty subtype. -/
def imageSubtype? (contentType : Text) : Option Text :=
  match Text.after? imageType contentType with
  | none => none
  | some rest =>
    let subtype := Text.lower (Text.trim (rest.takeWhile (· != ';')))
    if subtype = [] then none else some subtype

/-- The extension of an image type, with its dot. -/
def imageExtension (contentType : Text) (overrides : MimeOverrides) : Option Text :=
  (imageSubtype? contentType).map fun subtype =>
    '.' :: (Assoc.find? subtype overrides).getD subtype

end DownloadNames.Header
