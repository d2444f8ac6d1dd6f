import DownloadNames.Charset.Utf8
import DownloadNames.Json.Reader
import DownloadNames.Yaml.Document
import DownloadNames.Path.Normal
import DownloadNames.Text.LowerCase

/-
The file that settings are read from.

A file is either given, and then must be there, or the first that exists among a list of
places.  Its name decides on its format: YAML, JSON, or either of them, YAML being tried first.

The documents in a file are read by others: what they make of them is up to `Readers`, which can be
anything.  A reader of YAML files takes the bytes as they come.  For the other formats the bytes are
decoded before.
-/

namespace DownloadNames.Settings

/-- What stands at a path. -/
inductive FileNode where
  | folder
  | file (bytes : List UInt8)
deriving DecidableEq, Repr

/-- The file system, as far as it is looked at. -/
abbrev Files := Text → Option FileNode

/-! ## Reading -/

/-- The formats of files. -/
inductive Format where
  | yaml
  | json
  | either
deriving DecidableEq, Repr

/-- The format that the name of a file tells, letter case ignored. -/
def Format.ofPath (path : Text) : Format :=
  let ext := Text.lower (Path.suffixOf path)
  if ext = ".yaml".toList ∨ ext = ".yml".toList then .yaml
  else if ext = ".json".toList then .json
  else .either

/-- Line ends of all kinds as `\n`. -/
def uniformLines : Text → Text
  | '\r' :: '\n' :: s => '\n' :: uniformLines s
  | '\r' :: s => '\n' :: uniformLines s
  | c :: s => c :: uniformLines s
  | [] => []

/-- The readers of documents: of YAML in a file, and of YAML and JSON in a text. -/
structure Readers where
  yamlFile : List UInt8 → Except DocumentError Value
  yaml : Text → Except DocumentError Value
  json : Text → Except DocumentError Value

/-- The error of reading bytes that are no text. -/
def undecodable : DocumentError := .raised "UnicodeDecodeError" []

/-- The text of the bytes of a file. -/
def fileText? (bytes : List UInt8) : Option Text := (Utf8.decode? bytes).map uniformLines

/-- The readers of this library; all bytes of a file are decoded before its YAML is read. -/
def Readers.standard : Readers where
  yamlFile bytes := match fileText? bytes with
    | some s => Yaml.read s
    | none => .error undecodable
  yaml := Yaml.read
  json := Json.read

/-- Why a file cannot be read as settings. -/
inductive ReadFailure where
  | isFolder
  | badYaml
  | badJson
  | notText
  | foreign (error : Fault.Cause)
deriving DecidableEq, Repr

/-- The empty mapping in the place of a value that says nothing. -/
def orEmpty (v : Value) : Value := if v.isTruthy then v else .map []

/-- What has been read as YAML; a value that says nothing counts as an empty mapping. -/
def ofYaml : Except DocumentError Value → Except ReadFailure Value
  | .ok v => .ok (orEmpty v)
  | .error .malformed => .error .badYaml
  | .error (.foreign error) => .error (.foreign error)

/-- What has been read as JSON. -/
def ofJson : Except DocumentError Value → Except ReadFailure Value
  | .ok v => .ok v
  | .error .malformed => .error .badJson
  | .error (.foreign error) => .error (.foreign error)

/-- The value of a text in either format. -/
def readEither (readers : Readers) (s : Text) : Except ReadFailure Value :=
  match ofYaml (readers.yaml s) with
  | .error .badYaml => ofJson (readers.json s)
  | read => read

/-- The value of the bytes of a file in a format. -/
def Format.read (readers : Readers) (format : Format) (bytes : List UInt8) :
    Except ReadFailure Value :=
  match format, fileText? bytes with
  | .yaml, _ => ofYaml (readers.yamlFile bytes)
  | _, none => .error .notText
  | .json, some s => ofJson (readers.json s)
  | .either, some s => readEither readers s

/-- The value of what stands at a path. -/
def readNode (readers : Readers) (path : Text) : FileNode → Except ReadFailure Value
  | .folder => .error .isFolder
  | .file bytes => (Format.ofPath path).read readers bytes

/-! ## Choosing -/

/-- The places that are searched: in the working directory, then in the user's directory, then
in the directory for configuration if one is named. -/
def searchPlaces (cwd home : Text) (configHome : Option Text) : List Text :=
  (["dlkit.yaml", "dlkit.yml", ".dlkit.yaml", ".dlkit.yml"].map fun n =>
    Path.below cwd n.toList)
  ++ [Path.below home ".config/dlkit/config.yaml".toList]
  ++ (match configHome with
    | some (c :: cs) => [Path.below (c :: cs) "dlkit/config.yaml".toList]
    | _ => [])

/-- The first place with a file. -/
def firstFile? (files : Files) (places : List Text) : Option (Text × FileNode) :=
  places.findSome? fun p => match files p with
    | some (.file bytes) => some (p, .file bytes)
    | _ => none

end DownloadNames.Settings
