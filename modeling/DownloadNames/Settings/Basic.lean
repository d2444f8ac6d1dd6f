import DownloadNames.Template.Presets
import DownloadNames.Header.Mime

/-
The settings of the library and their standard values.
-/

namespace DownloadNames

/-- Named templates. -/
structure TemplateSettings where
  presets : List (Text × Text) := Template.Presets.standardList
deriving DecidableEq, Repr

/-- How paths are sanitized and joined. -/
structure PathSettings where
  replacement : Text := ['_']
  separator : Text := ['/']
deriving DecidableEq, Repr

/-- How headers are asked for, and the extensions of media types. -/
structure HeaderSettings where
  timeout : Int := 30
  userAgent : Text := "dlkit/0.3 (header probe)".toList
  allowRedirects : Bool := true
  mimeOverrides : List (Text × Text) := Header.standardOverrides
deriving DecidableEq, Repr

/-- All settings. -/
structure Settings where
  version : Text := "0.3.0".toList
  templates : TemplateSettings := {}
  paths : PathSettings := {}
  headers : HeaderSettings := {}
  verbose : Bool := false
  debug : Bool := false
deriving DecidableEq, Repr

/-- How much is logged. -/
inductive LogLevel where
  | debug
  | info
  | warning
deriving DecidableEq, Repr

/-- The name of a level. -/
def LogLevel.name : LogLevel → String
  | debug => "DEBUG"
  | info => "INFO"
  | warning => "WARNING"

namespace Settings

/-- The level that the two flags ask for. -/
def logLevel (s : Settings) : LogLevel :=
  if s.debug then .debug else if s.verbose then .info else .warning

/-- The template of a preset, letter case of the name ignored. -/
def preset? (s : Settings) (name : Text) : Option Text :=
  Assoc.find? (Text.lower name) s.templates.presets

/-- The presets as a template engine holds them. -/
def presets (s : Settings) : Template.Presets := .ofList s.templates.presets

end Settings

/-- Something in settings that works but is hardly meant. -/
inductive SettingsWarning where
  | preset (name : Text) (problem : Template.Problem)
  | emptyReplacement
deriving DecidableEq, Repr

/-- The wording of a warning. -/
def SettingsWarning.message : SettingsWarning → Text
  | .preset name problem =>
    "Preset '".toList ++ name ++ '\'' :: ':' :: ' ' :: problem.message
  | .emptyReplacement =>
    "Empty replacement drops invalid characters instead of replacing them".toList

/-- The warnings about settings: the problems of each preset, then the replacement. -/
def Settings.warnings (s : Settings) : List SettingsWarning :=
  (s.templates.presets.flatMap fun (name, template) =>
    (Template.problems template).map (.preset name))
  ++ (if s.paths.replacement = [] then [.emptyReplacement] else [])

end DownloadNames
