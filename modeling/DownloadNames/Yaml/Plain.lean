import DownloadNames.Yaml.Cursor

/-
Plain scalars, which stand without quotes.
A plain scalar ends before a comment, before a colon that is followed by spacing, and inside
brackets also before a comma, a bracket or a question mark.  It may go on over further lines
that are indented more deeply than the block around it.
-/

namespace DownloadNames.Yaml.Plain

/-- One of the brackets and the comma. -/
def isFlowMark (c : Char) : Bool :=
  c == ',' || c == '[' || c == ']' || c == '\x7b' || c == '\x7d'

/-- A plain scalar can begin with the rest; `inFlow` says whether brackets are open. -/
def startsPlain (inFlow : Bool) : Text → Bool
  | [] => false
  | c :: rest =>
    let reserved := isSpacing c || isFlowMark c
      || ['-', '?', ':', '#', '&', '*', '!', '|', '>', '\'', '"', '%', '@', '\x60'].contains c
    !reserved || (!startsSpaced rest && (c == '-' || (!inFlow && (c == '?' || c == ':'))))

/-- The scalar cannot go on with the rest. -/
def endsBefore (inFlow : Bool) : Text → Bool
  | [] => true
  | c :: rest =>
    isSpacing c
      || (c == ':' && (startsSpaced rest || (inFlow && rest.head?.any isFlowMark)))
      || (inFlow && (isFlowMark c || c == '?'))

/-- The length of the run of characters that belong to the scalar. -/
def runLength (inFlow : Bool) : Text → Nat
  | [] => 0
  | c :: rest => if endsBefore inFlow (c :: rest) then 0 else runLength inFlow rest + 1

/-- The empty lines after a line end; `none` where a document marker follows. -/
def emptyLines : (fuel : Nat) → Cursor → Option (Text × Cursor)
  | 0, c => some ([], c)
  | fuel + 1, c =>
    match c.rest with
    | ' ' :: _ => emptyLines fuel c.next
    | _ =>
      match c.lineBreak? with
      | some (b, c) =>
        if startsDocument c.rest then none
        else (emptyLines fuel c).map fun (bs, c) => (b ++ bs, c)
      | none => some ([], c)

/-- The spacing after a run. -/
structure Gap where
  text : Text
  after : Cursor
  crossedLine : Bool

/-- What the spacing after a run stands for; a document marker ends the scalar. -/
def gap (fuel : Nat) (c : Cursor) : Gap :=
  let (spaces, c) := c.takeWhile (· == ' ')
  match c.lineBreak? with
  | none => ⟨spaces, c, false⟩
  | some (b, c) =>
    if startsDocument c.rest then ⟨[], c, true⟩
    else match emptyLines fuel c with
      | none => ⟨[], c.dropWhile fun ch => ch == ' ' || isBreak ch, true⟩
      | some (bs, c) =>
        ⟨(if b ≠ ['\n'] then b else if bs = [] then [' '] else []) ++ bs, c, true⟩

/-- The scalar from here on, the place after it, and whether a new line has been begun. -/
def body (inFlow : Bool) (least : Int) : (fuel : Nat) → Cursor → Text × Cursor × Bool
  | 0, c => ([], c, false)
  | fuel + 1, c =>
    let n := runLength inFlow c.rest
    if c.rest.head? = some '#' ∨ n = 0 then ([], c, false)
    else
      let run := c.rest.take n
      let g := gap fuel (c.skip n)
      if g.text = [] ∨ g.after.rest.head? = some '#'
          ∨ (!inFlow ∧ (g.after.column : Int) < least) then (run, g.after, g.crossedLine)
      else match body inFlow least fuel g.after with
        | ([], c, _) => (run, c, g.crossedLine)
        | (text, c, crossed) => (run ++ g.text ++ text, c, crossed)

/-- The plain scalar that begins here, the place after it, and whether that is on a new line.
Lines that go on must be indented by at least `least`, unless brackets are open. -/
def read (inFlow : Bool) (least : Int) (c : Cursor) : Text × Cursor × Bool :=
  body inFlow least (c.rest.length + 1) c

end DownloadNames.Yaml.Plain
