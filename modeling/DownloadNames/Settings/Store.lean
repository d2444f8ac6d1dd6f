import DownloadNames.Settings.Load

/-
A store of settings: where it looks for a file, and what it has loaded.
A failed load and a rejected assignment leave what has been loaded as it was.  An assignment to
a field on the top level is checked like a loaded value.  One to a field inside a section is
not: a value of another type than the field is kept beside the settings.
-/

namespace DownloadNames

/-- Settings, and the values of other types that fields inside sections have been given. -/
structure LoadedSettings where
  settings : Settings
  strays : List (Text × Value) := []

namespace LoadedSettings

open Settings (Checked Issue)

/-! ## The view as entries -/

/-- A table as entries. -/
def tableEntries (table : List (Text × Text)) : Value :=
  .map (table.map fun (k, v) => (.text k, .text v))

/-- The fields in sections, each with its section, its name and its value. -/
def sectionFields (s : Settings) : List (String × String × Value) :=
  [("templates", "presets", tableEntries s.templates.presets),
    ("paths", "replacement", .text s.paths.replacement),
    ("paths", "separator", .text s.paths.separator),
    ("headers", "timeout", .int s.headers.timeout),
    ("headers", "user_agent", .text s.headers.userAgent),
    ("headers", "allow_redirects", .bool s.headers.allowRedirects),
    ("headers", "mime_overrides", tableEntries s.headers.mimeOverrides)]

/-- The name of a field in a section. -/
def dotted (sec field : String) : Text := (sec ++ "." ++ field).toList

/-- All fields by name, those in sections without the name of the section. -/
def fields (l : LoadedSettings) : List (String × Value) :=
  ("version", .text l.settings.version)
    :: (sectionFields l.settings).map (fun (sec, field, v) =>
      (field, (Assoc.find? (dotted sec field) l.strays).getD v))
    ++ [("verbose", .bool l.settings.verbose), ("debug", .bool l.settings.debug)]

/-- The warnings about what is loaded; a replacement of another type is not empty. -/
def warnings (l : LoadedSettings) : List SettingsWarning :=
  l.settings.warnings.filter fun w =>
    w ≠ .emptyReplacement || (Assoc.find? (dotted "paths" "replacement") l.strays).isNone

/-! ## Assignments -/

/-- The strays of other sections than the given one. -/
def straysOutside (sec : String) (l : LoadedSettings) : List (Text × Value) :=
  l.strays.filter fun (name, _) => !Text.beginsWith (sec ++ ".").toList name

/-- Assigns a field on the top level. -/
def assign (name : Text) (v : Value) (l : LoadedSettings) : Checked LoadedSettings :=
  let s := l.settings
  let checked {α : Type} (check : Value → Checked α) (set : α → LoadedSettings) :
      Checked LoadedSettings :=
    ((check v).under (.name name)).map set
  if name = "version".toList then
    checked Settings.checkText fun a => { l with settings := { s with version := a } }
  else if name = "templates".toList then
    checked Settings.checkTemplateSection fun a =>
      ⟨{ s with templates := a }, l.straysOutside "templates"⟩
  else if name = "paths".toList then
    checked Settings.checkPathSection fun a => ⟨{ s with paths := a }, l.straysOutside "paths"⟩
  else if name = "headers".toList then
    checked Settings.checkHeaderSection fun a =>
      ⟨{ s with headers := a }, l.straysOutside "headers"⟩
  else if name = "verbose".toList then
    checked Settings.checkTruth fun a => { l with settings := { s with verbose := a } }
  else if name = "debug".toList then
    checked Settings.checkTruth fun a => { l with settings := { s with debug := a } }
  else .error [⟨[.name name], .existingField name, v⟩]

/-- Why an assignment inside a section fails. -/
inductive SectionFailure where
  | noSection
  | noField (className field : Text)
deriving DecidableEq, Repr

/-- The wording for a field that a section does not have. -/
def SectionFailure.message : SectionFailure → Text
  | .noSection => []
  | .noField className field =>
    '"' :: className ++ "\" object has no field \"".toList ++ field ++ ['"']

/-- A table of texts, if a value is one. -/
def table? : Value → Option (List (Text × Text))
  | .map es => es.mapM fun
    | (.text k, .text v) => some (k, v)
    | _ => none
  | _ => none

/-- The settings with a field inside a section set, if the value has the type of the field. -/
def fit? (name : Text) (v : Value) (s : Settings) : Option Settings :=
  let fits (sec field : String) : Bool := name == dotted sec field
  match v with
  | .text t =>
    if fits "paths" "replacement" then some { s with paths := { s.paths with replacement := t } }
    else if fits "paths" "separator" then some { s with paths := { s.paths with separator := t } }
    else if fits "headers" "user_agent" then
      some { s with headers := { s.headers with userAgent := t } }
    else none
  | .int i =>
    if fits "headers" "timeout" then some { s with headers := { s.headers with timeout := i } }
    else none
  | .bool b =>
    if fits "headers" "allow_redirects" then
      some { s with headers := { s.headers with allowRedirects := b } }
    else none
  | v =>
    (table? v).bind fun t =>
      if fits "templates" "presets" then some { s with templates := ⟨t⟩ }
      else if fits "headers" "mime_overrides" then
        some { s with headers := { s.headers with mimeOverrides := t } }
      else none

/-- The sections and the names that they are reported under. -/
def sections : List (String × String) :=
  [("templates", "TemplateConfig"), ("paths", "PathConfig"), ("headers", "HeaderConfig")]

/-- Assigns a field inside a section, whatever the value. -/
def assignInside (inside field : Text) (v : Value) (l : LoadedSettings) :
    Except SectionFailure LoadedSettings :=
  match sections.find? fun (sec, _) => sec.toList = inside with
  | none => .error .noSection
  | some (sec, className) =>
    if (sectionFields l.settings).any fun (s, f, _) => s == sec && f.toList == field then
      let name := inside ++ '.' :: field
      let others := l.strays.filter fun (n, _) => n ≠ name
      match fit? name v l.settings with
      | some s => .ok ⟨s, others⟩
      | none => .ok { l with strays := (name, v) :: others }
    else .error (.noField className.toList field)

end LoadedSettings

/-- Where settings are looked for, and what has been loaded. -/
structure SettingsStore where
  given : Option Text
  places : List Text
  loaded : Option LoadedSettings := none

namespace SettingsStore

open Settings (Inputs LoadFailure Checked)

/-- A store for a given file, if its name is not empty, and for the places to search. -/
def new (given : Option Text) (places : List Text) : SettingsStore :=
  { given := match given with
      | some (c :: cs) => some (Path.normal (c :: cs))
      | _ => none
    places }

/-- The wording where nothing has been loaded yet. -/
def nothingLoaded : Text := "No configuration loaded".toList

/-- The warnings about what is loaded. -/
def warnings (m : SettingsStore) : List Text :=
  match m.loaded with
  | none => [nothingLoaded]
  | some l => l.warnings.map (·.message)

/-- Loads settings and keeps them. -/
def load (inputs : Inputs) (m : SettingsStore) :
    SettingsStore × Except LoadFailure Settings :=
  match Settings.load inputs m.given m.places with
  | .ok s => ({ m with loaded := some ⟨s, []⟩ }, .ok s)
  | .error e => (m, .error e)

/-- Assigns a field on the top level of what is loaded; `none` if nothing is. -/
def assign (name : Text) (v : Value) (m : SettingsStore) :
    SettingsStore × Option (Checked LoadedSettings) :=
  match m.loaded with
  | none => (m, none)
  | some l => match l.assign name v with
    | .ok l => ({ m with loaded := some l }, some (.ok l))
    | .error issues => (m, some (.error issues))

/-- Assigns a field inside a section of what is loaded; `none` if nothing is. -/
def assignInside (inside field : Text) (v : Value) (m : SettingsStore) :
    SettingsStore × Option (Except LoadedSettings.SectionFailure LoadedSettings) :=
  match m.loaded with
  | none => (m, none)
  | some l => match l.assignInside inside field v with
    | .ok l => ({ m with loaded := some l }, some (.ok l))
    | .error e => (m, some (.error e))

end SettingsStore
end DownloadNames
