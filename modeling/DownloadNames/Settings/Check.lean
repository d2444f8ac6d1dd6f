import DownloadNames.Charset.Utf8
import DownloadNames.Settings.Issue
import DownloadNames.Settings.Basic
import DownloadNames.Text.Integer
import DownloadNames.Path.Sanitize

/-
Checking values that are given for settings.
Numbers and truth values may also be given as texts, and texts as bytes in UTF-8.  The names of
presets and media types are lower-cased, so that two spellings of one name become one entry, the
later of which counts.
-/

namespace DownloadNames.Settings

open Checked (broken)

/-! ## Single values -/

/-- A text, also one given as bytes. -/
def checkText : Value → Checked Text
  | .text t => .ok t
  | .scalar (.bytes b) => match Utf8.decode? b with
    | some t => .ok t
    | none => broken .unicodeText (.scalar (.bytes b))
  | v => broken .text v

/-- A number in text without a point and zeros at its end. -/
def withoutZeroPlaces (s : Text) : Text :=
  match Text.cutAt? '.' s with
  | some (whole, places) => if places ≠ [] ∧ places.all (· == '0') then whole else s
  | none => s

/-- The integer that a text stands for. -/
def integerOfText? (s : Text) : Option Int :=
  Text.integer? Text.asciiDigit? (withoutZeroPlaces (Text.trimNumber s))

/-- What a value spells that is given in text or as bytes, `s` being the text; a value that spells
nothing breaks the rule. -/
def checkSpelled (spelled? : Text → Option α) (rule : Rule) (v : Value) (s : Option Text) :
    Checked α :=
  match s.bind spelled? with
  | some a => .ok a
  | none => broken rule v

/-- An integer, also one given as a truth value, as a number without places, or in text. -/
def checkInteger : Value → Checked Int
  | .int i => .ok i
  | .bool b => .ok (if b then 1 else 0)
  | .real d => match d with
    | .finite .. => match d.toInt? with
      | some i => .ok i
      | none => broken .wholeNumber (.real d)
    | _ => broken .finiteNumber (.real d)
  | .text t => checkSpelled integerOfText? .integerText (.text t) (some t)
  | .scalar (.bytes b) =>
    checkSpelled integerOfText? .integerText (.scalar (.bytes b)) (Utf8.decode? b)
  | v => broken .integer v

/-- An integer within bounds. -/
def checkWithin (least most : Nat) (v : Value) : Checked Int :=
  match checkInteger v with
  | .error is => .error is
  | .ok i =>
    if i < least then broken (.atLeast least) v
    else if i > most then broken (.atMost most) v
    else .ok i

/-- The words for truth values, in lower case. -/
def truthWords : List (Text × Bool) :=
  ["1", "on", "t", "true", "y", "yes"].map (fun w => (w.toList, true))
    ++ ["0", "off", "f", "false", "n", "no"].map (fun w => (w.toList, false))

/-- The truth value of a word in any case. -/
def truthOfText? (s : Text) : Option Bool := Assoc.find? (s.map Text.asciiLowerChar) truthWords

/-- A truth value, also one given as zero or one or as a word in any case. -/
def checkTruth : Value → Checked Bool
  | .bool b => .ok b
  | .int 0 => .ok false
  | .int 1 => .ok true
  | .int i => broken .truthText (.int i)
  | .real d => match d.toInt? with
    | some 0 => .ok false
    | some 1 => .ok true
    | _ => broken .truth (.real d)
  | .text t => checkSpelled truthOfText? .truthText (.text t) (some t)
  | .scalar (.bytes b) => checkSpelled truthOfText? .truthText (.scalar (.bytes b)) (Utf8.decode? b)
  | v => broken .truth v

/-! ## Tables -/

/-- An entry of a table of texts; of a key and a value that are no texts both are reported. -/
def checkPair (k : Scalar) (v : Value) : Checked (Text × Text) :=
  ((checkText (.scalar k)).under (.name "[key]".toList)).both (checkText v) |>.under (.ofKey k)

/-- A key that is a text. -/
def isTextKey : Scalar → Bool
  | .text _ => true
  | _ => false

/-- A mapping from texts to texts.  Texts that are keys of one mapping differ from each other, but
bytes can spell the same key as a text or as further bytes; then the later entry counts. -/
def checkTexts : Value → Checked (List (Text × Text))
  | .map entries =>
    (Checked.all (entries.map fun (k, v) => checkPair k v)).map fun pairs =>
      if entries.all fun (k, _) => isTextKey k then pairs else Assoc.putAll [] pairs
  | v => broken .mapping v

/-- A table with its names lower-cased; of two entries with one name the later counts. -/
def lowerNames (table : List (Text × Text)) : List (Text × Text) :=
  Assoc.putAll [] (table.map fun (name, v) => (Text.lower name, v))

/-- Presets: every template is non-empty. -/
def checkPresets (v : Value) : Checked (List (Text × Text)) :=
  match checkTexts v with
  | .error is => .error is
  | .ok table =>
    match table.find? fun (_, template) => template = [] with
    | some (name, _) => broken (.nonEmptyTemplate name) v
    | none => .ok (lowerNames table)

/-- The extensions of media types, without leading dots. -/
def checkOverrides (v : Value) : Checked (List (Text × Text)) :=
  match checkTexts v with
  | .error is => .error is
  | .ok table => .ok (lowerNames (table.map fun (name, ext) => (name, ext.dropWhile (· == '.'))))

/-! ## Sections -/

/-- A replacement: none of the characters that it is to replace. -/
def checkReplacement (v : Value) : Checked Text :=
  match checkText v with
  | .error is => .error is
  | .ok t =>
    let found := t.filter Path.isForbiddenInName
    if found = [] then .ok t else broken (.safeReplacement found) v

/-- A non-empty separator. -/
def checkSeparator (v : Value) : Checked Text :=
  match checkText v with
  | .error is => .error is
  | .ok [] => broken .nonEmptyText v
  | .ok t => .ok t

/-- The entries of a section. -/
def checkSection (name : String) (check : Entries → Checked α) : Value → Checked α
  | .map entries => check entries
  | v => broken (.sectionOf name) v

/-- The template settings that entries give. -/
def checkTemplates (es : Entries) : Checked TemplateSettings :=
  (Checked.entry es "presets" ({} : TemplateSettings).presets checkPresets).map (⟨·⟩)

/-- The path settings that entries give. -/
def checkPaths (es : Entries) : Checked PathSettings :=
  let standard : PathSettings := {}
  ((Checked.entry es "replacement" standard.replacement checkReplacement).both
    (Checked.entry es "separator" standard.separator checkSeparator)).map fun (r, s) => ⟨r, s⟩

/-- The header settings that entries give. -/
def checkHeaders (es : Entries) : Checked HeaderSettings :=
  let standard : HeaderSettings := {}
  (((Checked.entry es "timeout" standard.timeout (checkWithin 1 300)).both
      (Checked.entry es "user_agent" standard.userAgent checkText)).both
    ((Checked.entry es "allow_redirects" standard.allowRedirects checkTruth).both
      (Checked.entry es "mime_overrides" standard.mimeOverrides checkOverrides))).map
    fun ((t, u), (a, m)) => ⟨t, u, a, m⟩

/-- The names of the fields of all settings. -/
def fieldNames : List String := ["version", "templates", "paths", "headers", "verbose", "debug"]

/-- A section of templates. -/
def checkTemplateSection : Value → Checked TemplateSettings :=
  checkSection "TemplateConfig" checkTemplates

/-- A section of paths. -/
def checkPathSection : Value → Checked PathSettings := checkSection "PathConfig" checkPaths

/-- A section of headers. -/
def checkHeaderSection : Value → Checked HeaderSettings := checkSection "HeaderConfig" checkHeaders

/-- The fields that settings do not have are reported. -/
def checkKnown (es : Entries) : Checked Unit :=
  let unknown := es.filter fun (k, _) => !fieldNames.any fun n => k = .text n.toList
  if unknown.isEmpty then .ok ()
  else .error (unknown.map fun (k, v) => ⟨[.ofKey k], .knownField, v⟩)

/-- The settings that entries give: the fields in their order, then what is unknown. -/
def check (es : Entries) : Checked Settings :=
  let standard : Settings := {}
  (((Checked.entry es "version" standard.version checkText).both
      (Checked.entry es "templates" standard.templates checkTemplateSection)).both
    (((Checked.entry es "paths" standard.paths checkPathSection).both
      (Checked.entry es "headers" standard.headers checkHeaderSection)).both
    (((Checked.entry es "verbose" standard.verbose checkTruth).both
      (Checked.entry es "debug" standard.debug checkTruth)).both
    (checkKnown es)))).map
    fun ((version, templates), (paths, headers), (verbose, debug), ()) =>
      { version, templates, paths, headers, verbose, debug }

end DownloadNames.Settings
