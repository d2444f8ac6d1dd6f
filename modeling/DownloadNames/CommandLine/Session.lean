import DownloadNames.Address.Path
import DownloadNames.CommandLine.Markup
import DownloadNames.Settings.Store
import DownloadNames.Header.Resolver

/-
A run of the program: what it finds in the world, what it leaves behind and how it ends.
Two kinds of output are told apart.  Plain output is written as it is, but for control sequences
of terminals.  Styled output is text with style tags, of which only the text is written; a tag
that is not well placed ends the run.
-/

namespace DownloadNames.CommandLine

/-- What a run finds: the sources of settings, the network, an id for a fault, and the names of
character sets. -/
structure World where
  inputs : Settings.Inputs
  places : List Text
  transport : Header.HeadRequest → Header.Reply
  freshId : Text
  codecs : Codecs := Codecs.standard

/-- An error that a run does not handle. -/
inductive Escape where
  | settings (failure : Settings.LoadFailure)
  | markup (error : Markup.BadTag)
  | transport (error : Fault.Cause)
  | decoding (error : Fault.Cause)
  | address (error : Address.BadAddress)

/-- How a run ends. -/
inductive Ending where
  | exit (status : Nat)
  | wrongUse
  | help
  | escape (error : Escape)

/-- What a run leaves behind: its output, the requests sent, how often a connection was closed,
and the warnings logged. -/
structure Trace where
  output : Text := []
  requests : List Header.HeadRequest := []
  closed : Nat := 0
  warnings : List Header.Warning := []

/-- A step of a run: it adds to the trace and may end the run. -/
abbrev Session := ExceptT Ending (StateM Trace)

namespace Session

/-- Ends the run. -/
def finish (ending : Ending) : Session α := throw ending

/-- Writes a text. -/
def write (s : Text) : Session Unit := modify fun t => { t with output := t.output ++ s }

/-- Writes a line. -/
def writeLine (s : Text) : Session Unit := write (s ++ ['\n'])

/-! ## Plain output -/

/-- A parameter of a control sequence. -/
def isParameter (c : Char) : Bool := c == ';' || c == '?' || c.isDigit

/-- What follows the control sequence with which a text begins. -/
def afterControl? : Text → Option Text
  | '\x1b' :: '[' :: s => match s.dropWhile isParameter with
    | c :: rest => if c.isAlpha then some rest else none
    | [] => none
  | _ => none

/-- A text without control sequences, of which the first `skip` characters are passed over. -/
def withoutControlsFrom : (skip : Nat) → Text → Text
  | _, [] => []
  | skip + 1, _ :: cs => withoutControlsFrom skip cs
  | 0, c :: cs => match afterControl? (c :: cs) with
    | some rest => withoutControlsFrom (cs.length - rest.length) cs
    | none => c :: withoutControlsFrom 0 cs

/-- Writes a line of plain output. -/
def printLine (s : Text) : Session Unit := writeLine (withoutControlsFrom 0 s)

/-! ## Styled output -/

/-- The text of styled output. -/
def styled (s : Text) : Session Text :=
  match Markup.plainText s with
  | .ok t => pure t
  | .error e => finish (.escape (.markup e))

/-- The tag that opens a style. -/
def opening (style : String) : Text := '[' :: style.toList ++ [']']

/-- A text between an opening and a closing tag. -/
def inStyle (style : String) (s : Text) : Text :=
  opening style ++ s ++ ('[' :: '/' :: style.toList ++ [']'])

/-- Writes a line of styled output. -/
def printStyled (s : Text) : Session Unit := do writeLine (← styled s)

/-- Writes a title and a text below it. -/
def printBelow (title : Text) (lines : List Text) : Session Unit := do
  writeLine ("== ".toList ++ title)
  lines.forM writeLine

end Session
end DownloadNames.CommandLine
