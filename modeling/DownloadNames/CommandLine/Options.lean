import DownloadNames.Text.Basic

/-
Options and arguments on a command line.
An option has long names, which follow two dashes, and perhaps a short one, which follows one
dash.  The value of a long option follows after `=` or as the next item, that of a short one
directly or as the next item.  Short options without values can be run together.  After `--`
nothing is an option any more.
-/

namespace DownloadNames.CommandLine

/-- An option: its names and whether it takes a value. -/
structure OptionSpec where
  name : String
  long : List String := []
  short : Option Char := none
  takesValue : Bool := false
deriving DecidableEq, Repr

/-- An option as it was given: its name, and its value if it takes one. -/
structure Given where
  name : String
  value : Option Text
deriving DecidableEq, Repr

/-- A command line taken apart: the options in order, and the arguments. -/
structure Parsed where
  options : List Given
  arguments : List Text
deriving DecidableEq, Repr

namespace Parsed

/-- The values of an option in order. -/
def values (p : Parsed) (name : String) : List Text :=
  p.options.filterMap fun g => if g.name = name then g.value else none

/-- The value of an option; of several the last counts. -/
def value? (p : Parsed) (name : String) : Option Text := (p.values name).getLast?

/-- The option was given. -/
def has (p : Parsed) (name : String) : Bool := p.options.any fun g => g.name == name

/-- An option put in front. -/
def addOption (g : Given) (p : Parsed) : Parsed := { p with options := g :: p.options }

/-- An argument put in front. -/
def addArgument (a : Text) (p : Parsed) : Parsed := { p with arguments := a :: p.arguments }

end Parsed

/-- The option of a long name, its dashes included. -/
def longOption? (specs : List OptionSpec) (name : Text) : Option OptionSpec :=
  specs.find? fun s => s.long.any fun l => l.toList = name

/-- The option of a short name. -/
def shortOption? (specs : List OptionSpec) (c : Char) : Option OptionSpec :=
  specs.find? fun s => s.short = some c

/-- A long name and the value attached to it. -/
def splitLong (arg : Text) : Text × Option Text :=
  match Text.cutAt? '=' arg with
  | some (name, v) => (name, some v)
  | none => (arg, none)

/-- What a run of short options gives, and whether the last of them takes the next item as its
value. -/
def shortRun (specs : List OptionSpec) : Text → Option (List Given × Option String)
  | [] => some ([], none)
  | c :: cs =>
    match shortOption? specs c with
    | none => none
    | some s =>
      if s.takesValue then
        if cs = [] then some ([], some s.name) else some ([⟨s.name, some cs⟩], none)
      else (shortRun specs cs).map fun (gs, last) => (⟨s.name, none⟩ :: gs, last)

/-- What one item that looks like an option gives: options, and perhaps one that takes the next
item as its value.  `none` stands for an item that is no known option. -/
def optionItem (specs : List OptionSpec) (arg : Text) : Option (List Given × Option String) :=
  let (name, attached) := splitLong arg
  match longOption? specs name with
  | some s =>
    if s.takesValue then
      match attached with
      | some v => some ([⟨s.name, some v⟩], none)
      | none => some ([], some s.name)
    else if attached.isSome then none
    else some ([⟨s.name, none⟩], none)
  | none =>
    match arg with
    | '-' :: '-' :: _ => none
    | '-' :: cs => shortRun specs cs
    | _ => none

/-- The item looks like an option. -/
def looksLikeOption : Text → Bool
  | '-' :: _ :: _ => true
  | _ => false

/-- Takes a command line apart; `pending` is an option that takes the next item as its value.
Unless options may be mixed with arguments, the first argument ends the options. -/
def parseFrom (specs : List OptionSpec) (mixed : Bool) :
    (pending : Option String) → List Text → Option Parsed
  | none, [] => some ⟨[], []⟩
  | some _, [] => none
  | some name, v :: rest =>
    (parseFrom specs mixed none rest).map (.addOption ⟨name, some v⟩)
  | none, arg :: rest =>
    if arg = ['-', '-'] then some ⟨[], rest⟩
    else if looksLikeOption arg then
      match optionItem specs arg with
      | none => none
      | some (given, pending) =>
        (parseFrom specs mixed pending rest).map fun p => given.foldr Parsed.addOption p
    else if mixed then (parseFrom specs mixed none rest).map (.addArgument arg)
    else some ⟨[], arg :: rest⟩

/-- Takes a command line apart; `none` is a wrong use of options. -/
def parseOptions (specs : List OptionSpec) (mixed : Bool) (args : List Text) : Option Parsed :=
  parseFrom specs mixed none args

end DownloadNames.CommandLine
