import DownloadNames.CommandLine.Options

/-
The commands and how a command line names them.
A command line begins with options of the program; the first argument is the name of a command,
and what follows it is for the command to read.  A wrong use of options is noticed before
anything else; then the version or the help text may be asked for; missing and superfluous
arguments are noticed last.
-/

namespace DownloadNames.CommandLine

/-- Why a command line is not carried out: it is wrong, or only a text is asked for. -/
inductive Stop where
  | wrongUse
  | version
  | help
deriving DecidableEq, Repr

/-- The commands. -/
inductive CommandName where
  | template
  | sanitize
  | inspect
  | join
  | resolve
deriving DecidableEq, Repr

namespace CommandName

/-- All commands. -/
def all : List CommandName := [.template, .sanitize, .inspect, .join, .resolve]

/-- The word for a command. -/
def word : CommandName → String
  | template => "template"
  | sanitize => "sanitize"
  | inspect => "inspect"
  | join => "join"
  | resolve => "resolve"

/-- The command of a word. -/
def ofWord? (t : Text) : Option CommandName := all.find? fun c => c.word.toList = t

end CommandName

/-- A command with what it is given. -/
inductive Command where
  | template (template : Option Text) (assignments : List Text) (preset : Option Text)
      (render check listPresets : Bool)
  | sanitize (value : Text) (asPath : Bool) (replacement : Option Text)
  | inspect (value : Text)
  | join (parts : List Text) (separator : Option Text)
  | resolve (url : Text) (suggest : Bool)
deriving DecidableEq, Repr

/-! ## Options of the program -/

/-- The option for the help text. -/
def helpOption : OptionSpec := { name := "help", long := ["--help"], short := some 'h' }

/-- The option for the version. -/
def versionOption : OptionSpec := { name := "version", long := ["--version"] }

/-- The options of the program. -/
def programOptions : List OptionSpec :=
  [{ name := "config", long := ["--config"], short := some 'c', takesValue := true },
    { name := "verbose", long := ["--verbose"] }, { name := "debug", long := ["--debug"] },
    versionOption, helpOption]

/-- The text that the options ask for; of two the first counts. -/
def Parsed.stop? (p : Parsed) : Option Stop :=
  p.options.findSome? fun g =>
    if g.name = versionOption.name then some .version
    else if g.name = helpOption.name then some .help
    else none

/-- A command line up to the name of the command, and what is left for the command. -/
structure Invocation where
  config : Option Text
  verbose : Bool
  debug : Bool
  command : CommandName
  rest : List Text
deriving DecidableEq, Repr

/-- Reads a command line up to the name of the command. -/
def Invocation.read (args : List Text) : Except Stop Invocation :=
  match parseOptions programOptions false args with
  | none => .error .wrongUse
  | some p =>
    match p.stop?, p.arguments with
    | some stop, _ => .error stop
    | none, [] => .error .wrongUse
    | none, word :: rest =>
      match CommandName.ofWord? word with
      | none => .error .wrongUse
      | some command =>
        .ok { config := p.value? "config", verbose := p.has "verbose", debug := p.has "debug",
              command, rest }

/-! ## Commands -/

namespace CommandName

/-- The options of a command. -/
def options : CommandName → List OptionSpec
  | template =>
    [{ name := "var", long := ["--var"], short := some 'V', takesValue := true },
      { name := "preset", long := ["--preset"], short := some 'p', takesValue := true },
      { name := "render", long := ["--render"] }, { name := "check", long := ["--check"] },
      { name := "list-presets", long := ["--list-presets"] }, helpOption]
  | sanitize =>
    [{ name := "path", long := ["--path"] },
      { name := "replacement", long := ["--replacement"], short := some 'r', takesValue := true },
      helpOption]
  | inspect => [helpOption]
  | join =>
    [{ name := "separator", long := ["--separator"], short := some 's', takesValue := true },
      helpOption]
  | resolve => [{ name := "sanitize", long := ["--sanitize", "--suggest"] }, helpOption]

/-- The command that options and arguments make; `none` if the number of arguments is wrong. -/
def command? (name : CommandName) (p : Parsed) : Option Command :=
  match name, p.arguments with
  | template, [] => some (templateOf none)
  | template, [t] => some (templateOf (some t))
  | sanitize, [v] => some (.sanitize v (p.has "path") (p.value? "replacement"))
  | inspect, [v] => some (.inspect v)
  | join, v :: vs => some (.join (v :: vs) (p.value? "separator"))
  | resolve, [url] => some (.resolve url (p.has "sanitize"))
  | _, _ => none
where
  /-- The template command with or without a template. -/
  templateOf (t : Option Text) : Command :=
    .template t (p.values "var") (p.value? "preset") (p.has "render") (p.has "check")
      (p.has "list-presets")

/-- Reads what follows the name of a command. -/
def read (name : CommandName) (args : List Text) : Except Stop Command :=
  match parseOptions name.options true args with
  | none => .error .wrongUse
  | some p =>
    match p.stop?, name.command? p with
    | some stop, _ => .error stop
    | none, none => .error .wrongUse
    | none, some command => .ok command

end CommandName
end DownloadNames.CommandLine
