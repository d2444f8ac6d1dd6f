import DownloadNames.Value.Merge
import DownloadNames.Value.Display
import DownloadNames.Text.Integer
import DownloadNames.Text.LowerCase
import DownloadNames.Text.Blank

/-
The layers that settings come from: a file, environment variables and arguments.
Each layer is a mapping of the shape of the settings.  A later layer is laid over the earlier
ones.  Environment variables and arguments can set single fields only.
-/

namespace DownloadNames.Settings

/-- The fields that can be set one by one. -/
inductive Field where
  | replacement
  | separator
  | timeout
  | userAgent
  | allowRedirects
  | verbose
  | debug
deriving DecidableEq, Repr

namespace Field

/-- All fields, in the order in which the environment is read. -/
def all : List Field :=
  [.replacement, .separator, .timeout, .userAgent, .allowRedirects, .verbose, .debug]

/-- The section of a field; two fields stand on the top level. -/
def sectionName : Field → Option String
  | replacement | separator => some "paths"
  | timeout | userAgent | allowRedirects => some "headers"
  | verbose | debug => none

/-- The name of a field within its section. -/
def name : Field → String
  | replacement => "replacement"
  | separator => "separator"
  | timeout => "timeout"
  | userAgent => "user_agent"
  | allowRedirects => "allow_redirects"
  | verbose => "verbose"
  | debug => "debug"

/-- The end of the name of the environment variable for a field. -/
def suffix : Field → String
  | replacement => "REPLACEMENT"
  | separator => "SEPARATOR"
  | timeout => "TIMEOUT"
  | userAgent => "USER_AGENT"
  | allowRedirects => "ALLOW_REDIRECTS"
  | verbose => "VERBOSE"
  | debug => "DEBUG"

/-- The field that an argument of a name sets; redirects have no argument. -/
def ofArgument? (name : Scalar) : Option Field :=
  (all.filter (· ≠ .allowRedirects)).find? fun f => name = .text f.name.toList

/-- The keys that lead to a field. -/
def path (f : Field) : List Scalar :=
  (f.sectionName.toList ++ [f.name]).map fun n => .text n.toList

end Field

/-- The entries of the section of a name; none if there is no such section yet. -/
def sectionEntries (name : Scalar) (layer : Entries) : Entries :=
  match Assoc.find? name layer with
  | some (.map entries) => entries
  | _ => []

/-- Sets a field in a layer. -/
def setField (f : Field) (v : Value) (layer : Entries) : Entries :=
  match f.sectionName with
  | none => Assoc.put (.text f.name.toList) v layer
  | some s =>
    let key := Scalar.text s.toList
    Assoc.put key (.map (Assoc.put (.text f.name.toList) v (sectionEntries key layer))) layer

/-! ## Arguments -/

/-- The layer that arguments make: those that are given and that set a field. -/
def ofArguments (args : Entries) : Entries :=
  args.foldl (fun layer (name, v) =>
    match v, Field.ofArgument? name with
    | .scalar .null, _ => layer
    | v, some f => setField f v layer
    | _, none => layer) []

/-! ## Environment variables -/

/-- The words that mean yes in an environment variable. -/
def yesWords : List Text := ["true", "1", "yes", "on", "enabled"].map String.toList

/-- The truth value that a value is taken for: of texts only the words for yes are true. -/
def truthOf : Value → Bool
  | .bool b => b
  | .text t => yesWords.contains (Text.lower t)
  | v => v.isTruthy

/-- The value of an environment variable is not one for its field. -/
structure BadVariable where
  name : Text
  value : Text
deriving DecidableEq, Repr

/-- Why a text is not an integer. -/
def notInteger (s : Text) : Text :=
  match Text.readInteger 10 s with
  | .error reason => reason.message
  | .ok _ => []

/-- The wording for a bad environment variable. -/
def BadVariable.message (b : BadVariable) : Text :=
  "Invalid value for ".toList ++ b.name ++ ':' :: ' ' :: b.value ++ ' ' :: '(' ::
    notInteger b.value ++ [')']

/-- The integer that an environment variable holds; digits of all scripts count. -/
def integerOfVariable? (s : Text) : Option Int :=
  (Text.readInteger 10 s).toOption

/-- The value for a field that an environment variable holds. -/
def Field.readVariable? (f : Field) (s : Text) : Option Value :=
  match f with
  | .timeout => (integerOfVariable? s).map .int
  | .allowRedirects | .verbose | .debug => some (.bool (truthOf (.text s)))
  | .replacement | .separator | .userAgent => some (.text s)

/-- The name of the environment variable for a field. -/
def Field.variableName (lead : Text) (f : Field) : Text := lead ++ f.suffix.toList

/-- Adds what the environment says about fields, from the first on. -/
def readFields (lead : Text) (environment : List (Text × Text)) :
    List Field → Entries → Except BadVariable Entries
  | [], layer => .ok layer
  | f :: fs, layer =>
    match Assoc.find? (f.variableName lead) environment with
    | none => readFields lead environment fs layer
    | some s =>
      match f.readVariable? s with
      | some v => readFields lead environment fs (setField f v layer)
      | none => .error ⟨f.variableName lead, s⟩

/-- The layer that environment variables make; their names begin with `lead`. -/
def ofEnvironment (lead : Text) (environment : List (Text × Text)) :
    Except BadVariable Entries :=
  readFields lead environment Field.all []

/-- The three layers laid over each other: the environment over the file, and the arguments
over both. -/
def layered (file environment arguments : Entries) : Entries :=
  Value.mergeEntries (Value.mergeEntries file environment) arguments

end DownloadNames.Settings
