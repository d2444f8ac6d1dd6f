import DownloadNames.Settings.Source
import DownloadNames.Settings.Layer
import DownloadNames.Settings.Check
import DownloadNames.Fault.Basic

/-
Loading settings from a file, the environment and arguments.
The file is read first, then the environment, and what they and the arguments give together is
checked last; the first failure ends the loading.
-/

namespace DownloadNames.Settings

/-- Why settings cannot be loaded. -/
inductive LoadFailure where
  | fileNotFound (path : Text)
  | unreadable (path : Text) (reason : ReadFailure)
  | notMapping (path : Text)
  | badVariable (b : BadVariable)
  | invalid (issues : List Issue)
  | keyNotText
deriving Repr

/-- The wording for the number of issues. -/
def issueCount (issues : List Issue) : Text :=
  "Configuration validation failed: ".toList ++ Text.ofNat issues.length
    ++ (if issues.length = 1 then " validation error for AppConfig".toList
      else " validation errors for AppConfig".toList)

/-- A configuration fault about an entry, or about none. -/
def configurationDraft (message key value : Text) (code : FaultCode) : Fault.Draft :=
  { subject := .configuration (.text message) (.text key) (.text value), code := some code }

/-- The configuration fault that a failure is reported as; bytes that are no text, errors of readers
for other reasons than malformed documents and keys that are no texts are not reported as such. -/
def LoadFailure.draft? : LoadFailure → Option Fault.Draft
  | .fileNotFound path =>
    some (configurationDraft ("Config file not found: ".toList ++ path) "config_file".toList path
      .fileNotFound)
  | .unreadable path reason => match reason with
    | .isFolder | .badYaml | .badJson =>
      some (configurationDraft ("Failed to load config file ".toList ++ path) [] []
        .invalidFormat)
    | .notText | .foreign _ => none
  | .notMapping path =>
    some (configurationDraft ("Config file ".toList ++ path ++ " must contain a mapping".toList)
      [] [] .invalidFormat)
  | .badVariable b => some (configurationDraft b.message b.name b.value .invalidValue)
  | .invalid issues => some (configurationDraft (issueCount issues) [] [] .invalidValue)
  | .keyNotText => none

/-- The file to read: the given one, or else the first that is found; a given one must be
there. -/
def chosenFile? (files : Files) (given : Option Text) (places : List Text) :
    Except LoadFailure (Option (Text × FileNode)) :=
  match given with
  | some path => match files path with
    | some node => .ok (some (path, node))
    | none => .error (.fileNotFound path)
  | none => .ok (firstFile? files places)

/-- The entries of the file to read; none without a file. -/
def fileLayer (readers : Readers) (files : Files) (given : Option Text) (places : List Text) :
    Except LoadFailure Entries := do
  match ← chosenFile? files given places with
  | none => return []
  | some (path, node) =>
    match readNode readers path node with
    | .error reason => throw (.unreadable path reason)
    | .ok (.map entries) => return entries
    | .ok _ => throw (.notMapping path)

/-- What settings are loaded from, and the readers of the file. -/
structure Inputs where
  files : Files
  environment : List (Text × Text)
  lead : Text := "DLKIT_".toList
  arguments : Entries := []
  readers : Readers := .standard

/-- What is checked: the three layers laid over each other. -/
def gather (inputs : Inputs) (given : Option Text) (places : List Text) :
    Except LoadFailure Entries := do
  let file ← fileLayer inputs.readers inputs.files given places
  match ofEnvironment inputs.lead inputs.environment with
  | .error b => throw (.badVariable b)
  | .ok environment => return layered file environment (ofArguments inputs.arguments)

/-- The settings that entries give, if all their keys are texts. -/
def validate (entries : Entries) : Except LoadFailure Settings :=
  if entries.all fun (k, _) => isTextKey k then
    match check entries with
    | .ok s => .ok s
    | .error issues => .error (.invalid issues)
  else .error .keyNotText

/-- Loads settings. -/
def load (inputs : Inputs) (given : Option Text) (places : List Text) :
    Except LoadFailure Settings := do
  validate (← gather inputs given places)

end DownloadNames.Settings
