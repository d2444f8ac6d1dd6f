import DownloadNames.CommandLine.Handler
import DownloadNames.CommandLine.Pictogram
import DownloadNames.CommandLine.Style
import DownloadNames.Text.Pattern
import DownloadNames.Text.Quoted

/-
Text with style tags in brackets, as it reads without any style.
`[red]` opens a style, `[/red]` closes it, and `[/]` closes the one opened last.  A backslash in
front of a tag makes it plain text; brackets that cannot be a tag are plain text anyway.  Plain
text can name pictograms.
Closing a style that is not open is an error, and so is closing a tag whose handler has
parameters that cannot be read.
-/

namespace DownloadNames.CommandLine.Markup

/-- A part of a text: plain text, or a tag with its position. -/
inductive Piece where
  | plain (s : Text)
  | tag (position : Nat) (content : Text)
deriving DecidableEq, Repr

/-- Why a tag cannot be used: it closes nothing, it gives a colour by components one of which is
empty, or it closes a handler with bad parameters. -/
inductive BadTag where
  | notOpen (position : Nat) (content : Text)
  | nothingOpen (position : Nat)
  | emptyComponent
  | badParameters (parameters : Text) (fault : Literal.Fault)
deriving DecidableEq, Repr

/-- The wording for a bad tag. -/
def BadTag.message : BadTag → Text
  | .notOpen position content =>
    "closing tag '[".toList ++ content ++ "]' at position ".toList ++ Text.ofNat position
      ++ " doesn't match any open tag".toList
  | .nothingOpen position =>
    "closing tag '[/]' at position ".toList ++ Text.ofNat position
      ++ " has nothing to close".toList
  | .emptyComponent => "invalid literal for int() with base 10: ''".toList
  | .badParameters parameters fault =>
    let literal := Text.quoted (Handler.literal parameters) ++ " in ".toList
    "error parsing ".toList ++ (if fault.isFormal then literal else [])
      ++ Text.quoted parameters ++ "; ".toList ++ fault.message

/-! ## Pieces -/

/-- A character that a tag can begin with. -/
def startsTag (c : Char) : Bool := ('a' ≤ c && c ≤ 'z') || c == '#' || c == '/' || c == '@'

/-- The content of the tag that begins here. -/
def tag? : Text → Option Text
  | '[' :: c :: rest =>
    if startsTag c then
      let content := c :: rest.takeWhile fun d => d != '[' && d != ']'
      if (c :: rest)[content.length]? = some ']' then some content else none
    else none
  | _ => none

/-- The tag that follows a run of backslashes: the length of the run and the content. -/
def escapedTag? (s : Text) : Option (Nat × Text) :=
  let run := (s.takeWhile (· == '\\')).length
  (tag? (s.drop run)).map fun content => (run, content)

/-- The parts that backslashes and the tag after them stand for: every two backslashes are one,
and one that is left over makes the tag plain text. -/
def tagPieces (position run : Nat) (content : Text) : List Piece :=
  [.plain (List.replicate (run / 2) '\\'),
    if run % 2 = 1 then .plain ('[' :: content ++ [']']) else .tag (position + run) content]

/-- Text between tags, in which a backslash is not shown before a bracket. -/
def between (s : Text) : Piece := .plain (Text.replaceAll ['\\', '['] ['['] s)

/-- The parts of a text from a position on, after plain text that is given backwards; the first
`skip` characters belong to a tag and are passed over. -/
def piecesFrom (position : Nat) (before : Text) : (skip : Nat) → Text → List Piece
  | _, [] => [between before.reverse]
  | skip + 1, _ :: cs => piecesFrom (position + 1) before skip cs
  | 0, c :: cs => match escapedTag? (c :: cs) with
    | some (run, content) =>
      between before.reverse :: tagPieces position run content
        ++ piecesFrom (position + 1) [] (run + content.length + 1) cs
    | none => piecesFrom (position + 1) (c :: before) 0 cs

/-- The parts of a text. -/
def pieces (s : Text) : List Piece := piecesFrom 0 [] 0 s

/-! ## Open tags -/

/-- A tag that is open: its name in canonical form, and its parameters. -/
structure OpenTag where
  name : Text
  parameters : Option Text
deriving DecidableEq, Repr

/-- The canonical form of a name. -/
def canonical (name : Text) : Except BadTag Text :=
  (Style.canonical name).mapError fun _ => .emptyComponent

/-- The tag that a content opens. -/
def OpenTag.ofContent (content : Text) : Except BadTag OpenTag :=
  match Text.cutAt? '=' content with
  | some (name, parameters) => (canonical name).map fun n => ⟨n, some parameters⟩
  | none => (canonical content).map fun n => ⟨n, none⟩

/-- Checks a tag that is closed: the parameters of a handler must be readable. -/
def OpenTag.check (tag : OpenTag) : Except BadTag Unit :=
  match tag.name, tag.parameters with
  | '@' :: _, some (c :: cs) => match Handler.fault? (c :: cs) with
    | some fault => .error (.badParameters (c :: cs) fault)
    | none => .ok ()
  | _, _ => .ok ()

/-- The tag of a name that was opened last, and the others. -/
def take? (name : Text) : List OpenTag → Option (OpenTag × List OpenTag)
  | [] => none
  | t :: ts =>
    if t.name = name then some (t, ts) else (take? name ts).map fun (u, us) => (u, t :: us)

/-- The tag that a closing tag closes, and the others; without a name it is the last one. -/
def closed (position : Nat) (content name : Text) (tags : List OpenTag) :
    Except BadTag (OpenTag × List OpenTag) :=
  if Text.trim name = [] then
    match tags with
    | [] => .error (.nothingOpen position)
    | t :: ts => .ok (t, ts)
  else do
    match take? (← canonical (Text.trim name)) tags with
    | some found => return found
    | none => throw (.notOpen position content)

/-- The tags that are open after a tag. -/
def afterTag (position : Nat) (content : Text) (tags : List OpenTag) :
    Except BadTag (List OpenTag) :=
  match content.takeWhile (· != '=') with
  | '/' :: name => do
    let (tag, rest) ← closed position content name tags
    tag.check
    return rest
  | _ => (OpenTag.ofContent content).map (· :: tags)

/-! ## Plain text -/

/-- The plain text of pieces, given the tags that are open. -/
def join (tags : List OpenTag) : List Piece → Except BadTag Text
  | [] => .ok []
  | .plain s :: rest => (join tags rest).map (Pictogram.draw s ++ ·)
  | .tag position content :: rest => do
    let tags ← afterTag position content tags
    join tags rest

/-- A control character that is not shown. -/
def isHidden (c : Char) : Bool := [7, 8, 11, 12, 13].contains c.toNat

/-- A text without the control characters that are not shown. -/
def visible (s : Text) : Text := s.filter (!isHidden ·)

/-- A text with tags as it reads without any style. -/
def plainText (s : Text) : Except BadTag Text := (join [] (pieces s)).map visible

end DownloadNames.CommandLine.Markup
