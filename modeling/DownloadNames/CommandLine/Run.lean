import DownloadNames.CommandLine.Command
import DownloadNames.CommandLine.Session
import DownloadNames.CommandLine.Variables
import DownloadNames.Json.Writer
import DownloadNames.Path.Join
import DownloadNames.Settings.Report

/-
Carrying out commands.
The settings are loaded before a command reads what it is given, so bad settings are reported
even where the command would be wrong as well.  Wrong uses of options of the program and unknown
commands are noticed earlier still.
-/

namespace DownloadNames.CommandLine

open Session

/-! ## Settings -/

/-- The message of a failure is only the beginning of its report, so the line stays open. -/
def isOpenReport : Settings.LoadFailure → Bool
  | .unreadable .. | .invalid _ => true
  | _ => false

/-- Reports settings that cannot be loaded, and ends the run. -/
def reportFailure (failure : Settings.LoadFailure) : Session α :=
  match failure.draft? with
  | none => finish (.escape (.settings failure))
  | some draft => do
    let message := "Configuration error: ".toList ++ draft.subject.message.display
    discard <| styled (inStyle "red" (message ++ failure.details))
    write (← styled (opening "red" ++ message))
    unless isOpenReport failure do write ['\n']
    finish (.exit 1)

/-- Prints warnings about settings, if there are any. -/
def reportWarnings (warnings : List SettingsWarning) : Session Unit := do
  unless warnings.isEmpty do
    printStyled (inStyle "yellow" "Configuration warnings:".toList)
    warnings.forM fun w => printStyled ("  • ".toList ++ w.message)
    writeLine []

/-- The arguments that set fields. -/
def settingArguments (i : Invocation) : Entries :=
  let flag (b : Bool) : Value := if b then .bool true else .null
  [(.text "verbose".toList, flag i.verbose), (.text "debug".toList, flag i.debug)]

/-- Loads the settings of a run. -/
def loadSettings (world : World) (i : Invocation) : Session Settings := do
  let store := SettingsStore.new i.config world.places
  match (store.load { world.inputs with arguments := settingArguments i }).2 with
  | .error failure => reportFailure failure
  | .ok settings => do
    reportWarnings settings.warnings
    return settings

/-! ## Templates -/

/-- Prints the presets with their templates. -/
def printPresets (presets : Template.Presets) : Session Unit := do
  let rows ← presets.entries.mapM fun (name, template) => do
    return (← styled name) ++ '\t' :: Markup.visible template
  printBelow "Template presets".toList rows

/-- The template to work on: that of the preset, or else the one that is given. -/
def chosenTemplate (presets : Template.Presets) (preset template : Option Text) : Session Text :=
  match preset, template with
  | some (c :: cs), _ => match presets.get? (c :: cs) with
    | some t => pure t
    | none => do
      printStyled (inStyle "red" ("Unknown preset: ".toList ++ c :: cs))
      finish (.exit 1)
  | _, some t => pure t
  | _, none => finish .wrongUse

/-- Prints the problems of a template. -/
def checkTemplate (template : Text) : Session Unit := do
  match Template.problems template with
  | [] => printStyled (inStyle "green" "Template is valid".toList)
  | problems => do
    problems.forM fun p => printStyled (inStyle "yellow" ("• ".toList ++ p.message))
    finish (.exit 1)

/-- The table of variables given as texts. -/
def tableOf (values : List (Text × Text)) : Bindings :=
  .ofEntries (values.map fun (name, v) => (.text name, .text v))

/-- Prints what a template expands to, as a path if `render` is set. -/
def expandTemplate (settings : Settings) (template : Text) (assignments : List Text)
    (render : Bool) : Session Unit :=
  match readVariables assignments with
  | .error _ => finish .wrongUse
  | .ok values =>
    let table := tableOf values
    printLine (if render then Template.expandPath template table settings.paths.replacement
      else Template.expand template table)

/-! ## Downloads -/

/-- The probe that settings ask for. -/
def probeOf (headers : HeaderSettings) : Header.Probe :=
  { timeout := .int headers.timeout
    userAgent := .text headers.userAgent
    allowRedirects := .bool headers.allowRedirects }

/-- The message for the user about a fault on a context of its own. -/
def faultReport (freshId : Text) (draft : Fault.Draft) : Text :=
  match Fault.build freshId draft {} with
  | (ctx, .ok fault) => fault.report ctx
  | (_, .error _) => draft.subject.message.display

/-- The guess about a download from its headers. -/
def guessDownload (world : World) (headers : HeaderSettings) (url : Text) :
    Session Header.Guess := do
  let probe := probeOf headers
  let resolver : Header.Resolver :=
    { source := some ⟨fun url names => probe.fetch world.transport url names⟩
      overrides := headers.mimeOverrides
      codecs := world.codecs }
  let resolution := resolver.resolve url none
  modify fun t =>
    { t with requests := t.requests ++ resolution.questions.map (probe.request ·.url),
             closed := t.closed + 1, warnings := t.warnings ++ resolution.warnings }
  match resolution.outcome with
  | .ok guess => return guess
  | .error (.source (.foreign error)) => finish (.escape (.transport error))
  | .error (.undecodable error) => finish (.escape (.decoding error))
  | .error (.source (.fetch draft)) => do
    printBelow "Error".toList [← styled (faultReport world.freshId draft)]
    finish (.exit 1)
  | .error .noSource => finish (.exit 1)

/-- Prints a safe name for a download, or what its headers say. -/
def printGuess (settings : Settings) (url : Text) (suggest : Bool) (guess : Header.Guess) :
    Session Unit :=
  if suggest then
    match Address.path url with
    | .error error => finish (.escape (.address error))
    | .ok path =>
      printLine (guess.safeName (Path.name path) settings.paths.replacement)
  else printLine (Json.writeObject guess.fields)

/-! ## Commands -/

/-- The rows about a path. -/
def inspection (value : Text) : List (String × Text) :=
  let answer (b : Bool) : Text := if b then "yes".toList else "no".toList
  [("basename", Path.base value), ("filename", Path.name value),
    ("file part", Path.stem value), ("extension", Path.extension value),
    ("dirname", Path.folder value), ("valid path", answer (Path.isUsable value)),
    ("valid filename", answer (Path.namesFile value))]

/-- Prints what there is to know about a path. -/
def inspectPath (value : Text) : Session Unit :=
  printBelow (Markup.visible ("Path: ".toList ++ value))
    ((inspection value).map fun (name, v) => name.toList ++ '\t' :: Markup.visible v)

/-- Carries out a command under settings. -/
def Command.run (world : World) (settings : Settings) : Command → Session Unit
  | .template given assignments preset render check list =>
    if list then printPresets settings.presets
    else do
      let chosen ← chosenTemplate settings.presets preset given
      if check then checkTemplate chosen else expandTemplate settings chosen assignments render
  | .sanitize value asPath replacement =>
    let repl := replacement.getD settings.paths.replacement
    printLine (if asPath then Path.safePath value repl else Path.safeName value repl)
  | .inspect value => inspectPath value
  | .join parts separator => printLine (Path.join parts (separator.getD settings.paths.separator))
  | .resolve url suggest => do
    let guess ← guessDownload world settings.headers url
    printGuess settings url suggest guess

/-- The version of the program. -/
def version : Text := "0.3.0".toList

/-- Does what a command line that is not carried out asks for. -/
def stop : Stop → Session α
  | .wrongUse => finish .wrongUse
  | .help => finish .help
  | .version => do
    printStyled ("dlkit version ".toList ++ version)
    finish (.exit 0)

/-- Carries out a command line. -/
def session (world : World) (args : List Text) : Session Unit := do
  match Invocation.read args with
  | .error s => stop s
  | .ok invocation => do
    let settings ← loadSettings world invocation
    match invocation.command.read invocation.rest with
    | .error s => stop s
    | .ok command => command.run world settings

/-- Runs the program: what it leaves behind and how it ends. -/
def run (world : World) (args : List Text) : Trace × Ending :=
  match (session world args).run.run {} with
  | (.ok (), trace) => (trace, .exit 0)
  | (.error ending, trace) => (trace, ending)

end DownloadNames.CommandLine
