import DownloadNames.CommandLine.Run

/-
The command line program.
It reads the files that settings can come from, runs, writes what the run leaves behind, and ends
with the status of the run.  There is no transport for requests, so every request fails.
-/

open DownloadNames

namespace DownloadNames.CommandLine

/-- What stands at a path. -/
def nodeAt (path : Text) : IO (Option Settings.FileNode) := do
  try
    let bytes ← IO.FS.readBinFile (String.ofList path)
    return some (.file bytes.toList)
  catch
    | .noFileOrDirectory .. => return none
    | _ => return some .folder

/-- The variables that set fields, as far as they are there. -/
def environment (lead : Text) : IO (List (Text × Text)) :=
  Settings.Field.all.filterMapM fun f => do
    let name := f.variableName lead
    return (← IO.getEnv (String.ofList name)).map fun v => (name, v.toList)

/-- The value of a variable. -/
def variableOr (name standard : String) : IO Text := do
  return ((← IO.getEnv name).getD standard).toList

/-- The world as it is now, for a run with a given settings file. -/
def currentWorld (given : Option Text) : IO World := do
  let places := Settings.searchPlaces (← variableOr "PWD" ".") (← variableOr "HOME" "/")
    ((← IO.getEnv "XDG_CONFIG_HOME").map String.toList)
  let paths := (SettingsStore.new given places).given.toList ++ places
  let nodes ← paths.mapM fun p => do return (p, ← nodeAt p)
  let inputs : Settings.Inputs :=
    { files := fun p => (Assoc.find? p nodes).join, environment := [] }
  return { inputs := { inputs with environment := ← environment inputs.lead }
           places
           transport := fun _ => .failed ⟨"ConnectionError".toList, "no transport".toList⟩
           freshId := Text.hexDigits 8 ((← IO.monoNanosNow) % 0x100000000) }

/-- How the program is used. -/
def usage : String :=
  "Usage: dlkit [--config FILE] [--verbose] [--debug] [--version] COMMAND ...\n" ++
  "Commands:\n" ++
  "  template [TEMPLATE] [--var NAME=VALUE] [--preset NAME] [--render] [--check] [--list-presets]\n"
    ++
  "  sanitize VALUE [--path] [--replacement TEXT]\n" ++
  "  inspect PATH\n" ++
  "  join PARTS... [--separator TEXT]\n" ++
  "  resolve URL [--sanitize]"

/-- The wording for an error that a run does not handle. -/
def Escape.message : Escape → Text
  | .settings (.unreadable _ (.foreign error)) => error.message
  | .settings _ => "Settings cannot be read".toList
  | .markup error => error.message
  | .transport error => error.message
  | .decoding error => error.message
  | .address error => error.message

/-- Writes how a run has ended, and gives the status of the program. -/
def conclude : Ending → IO UInt32
  | .exit status => return status.toUInt32
  | .help => do
    IO.println usage
    return 0
  | .wrongUse => do
    IO.eprintln usage
    return 2
  | .escape error => do
    IO.eprintln (String.ofList error.message)
    return 1

end DownloadNames.CommandLine

open DownloadNames.CommandLine in
/-- Runs the program on the arguments that it is given. -/
def main (args : List String) : IO UInt32 := do
  let args := args.map String.toList
  let given := match Invocation.read args with
    | .ok i => i.config
    | .error _ => none
  let (trace, ending) := run (← currentWorld given) args
  IO.print (String.ofList trace.output)
  trace.warnings.forM fun w => IO.eprintln (String.ofList w.message)
  conclude ending
