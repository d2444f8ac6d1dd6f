import DownloadNames.Template.Check

/-
Named templates.  Names are lower-cased when the presets are set up and looked up without
regard to case; of two presets with one name the later gives the template.
-/

namespace DownloadNames.Template

/-- Templates by lower-cased name, in order of first occurrence. -/
structure Presets where
  entries : List (Text × Text)
deriving DecidableEq, Repr

namespace Presets

/-- The presets of the given names and templates. -/
def ofList (pairs : List (Text × Text)) : Presets :=
  ⟨Assoc.putAll [] (pairs.map fun (name, template) => (Text.lower name, template))⟩

/-- The template of a name, letter case ignored. -/
def get? (presets : Presets) (name : Text) : Option Text :=
  Assoc.find? (Text.lower name) presets.entries

/-- The names in order. -/
def names (presets : Presets) : List Text := Assoc.keys presets.entries

/-- The presets that are there without any configuration. -/
def standardList : List (Text × Text) :=
  [("flat".toList, "<name><ext>".toList),
    ("indexed".toList, "<###index>-<name><ext>".toList),
    ("by_host".toList, "<host>/<name><ext>".toList),
    ("by_page".toList, "<host>/<pagetitle|host>/<###index>-<name><ext>".toList),
    ("dated".toList, "<date>/<name><ext>".toList)]

/-- The presets that are there without any configuration. -/
def standard : Presets := ofList standardList

end Presets
end DownloadNames.Template
