import DownloadNames.Yaml.Cursor
import DownloadNames.Text.Digit

/-
Block scalars, which follow `|` or `>`.
The text is what stands on the following lines from the indentation on.  After `>` a single
line end between two lines that begin with other characters than spacing is a space.  The last
line end is kept once, unless `-` drops it; after `+` the empty lines that follow are kept too.
-/

namespace DownloadNames.Yaml.Block

/-- What becomes of the line ends after the last line. -/
inductive Chomping where
  | clip
  | strip
  | keep
deriving DecidableEq, Repr

/-- The head of a block scalar: its chomping, and its indentation if that is given. -/
structure Head where
  chomping : Chomping
  indentation : Option Nat
deriving DecidableEq, Repr

/-- The sign that asks for a chomping. -/
def chomping? : Text → Option Chomping
  | '+' :: _ => some .keep
  | '-' :: _ => some .strip
  | _ => none

/-- A digit other than zero; `none` inside means that a zero stands here. -/
def indentation? : Text → Option (Option Nat)
  | c :: _ => (Text.asciiDigit? c).map fun n => if n = 0 then none else some n
  | [] => none

/-- The head after the sign of the block scalar; a sign and a digit in either order. -/
def head? (c : Cursor) : Option (Head × Cursor) :=
  let done (h : Head) (c : Cursor) : Option (Head × Cursor) :=
    if startsBlank c.rest then some (h, c) else none
  match chomping? c.rest, indentation? c.rest with
  | some chomping, _ =>
    match indentation? c.next.rest with
    | some none => none
    | some (some n) => done ⟨chomping, some n⟩ c.next.next
    | none => done ⟨chomping, none⟩ c.next
  | none, some none => none
  | none, some (some n) =>
    match chomping? c.next.rest with
    | some chomping => done ⟨chomping, some n⟩ c.next.next
    | none => done ⟨.clip, some n⟩ c.next
  | none, none => done ⟨.clip, none⟩ c

/-- The line ends and the deepest indentation of the leading lines that hold spaces only. -/
def measure : (fuel : Nat) → (deepest : Nat) → Cursor → Text × Nat × Cursor
  | 0, deepest, c => ([], deepest, c)
  | fuel + 1, deepest, c =>
    match c.lineBreak? with
    | some (b, c) =>
      let (bs, deepest, c) := measure fuel deepest c
      (b ++ bs, deepest, c)
    | none =>
      match c.rest with
      | ' ' :: _ => measure fuel (max deepest c.next.column) c.next
      | _ => ([], deepest, c)

/-- Past at most as many spaces as the indentation asks for. -/
def indent (column : Nat) (c : Cursor) : Cursor :=
  let spaces := (c.rest.takeWhile (· == ' ')).length
  c.skip (min spaces (column - c.column))

/-- The line ends of empty lines, and the place where the next line begins. -/
def emptyLines : (fuel : Nat) → (column : Nat) → Cursor → Text × Cursor
  | 0, _, c => ([], c)
  | fuel + 1, column, c =>
    let c := indent column c
    match c.lineBreak? with
    | some (b, c) =>
      let (bs, c) := emptyLines fuel column c
      (b ++ bs, c)
    | none => ([], c)

/-- The line begins with a space or a tab. -/
def startsIndented : Text → Bool
  | c :: _ => c == ' ' || c == '\t'
  | [] => false

/-- What stands between two lines: the line end and the empty lines, or a space in their
place. -/
def between (folded indented : Bool) (lineEnd empty next : Text) : Text :=
  if folded && lineEnd == ['\n'] && !indented && !startsIndented next then
    if empty = [] then [' '] else empty
  else lineEnd ++ empty

/-- The lines at the given column, the last line end and the empty lines after it. -/
def lines (folded : Bool) (column : Nat) : (fuel : Nat) → Cursor → Text × Text × Text × Cursor
  | 0, c => ([], [], [], c)
  | fuel + 1, c =>
    let indented := startsIndented c.rest
    let (line, c) := c.takeWhile (!isBreak ·)
    let (lineEnd, c) := (c.lineBreak?).getD ([], c)
    let (empty, c) := emptyLines fuel column c
    if c.column = column ∧ c.rest ≠ [] then
      let (text, last, empties, after) := lines folded column fuel c
      (line ++ between folded indented lineEnd empty c.rest ++ text, last, empties, after)
    else (line, lineEnd, empty, c)

/-- The text of a block scalar in a block of the given indentation, from the place after its
sign. -/
def read? (folded : Bool) (outer : Nat) (c : Cursor) : Option (Text × Cursor) := do
  let fuel := c.rest.length + 2
  let (head, c) ← head? c
  let c ← c.dropRestOfLine?
  let least := max outer 1
  let (lead, column, c) : Text × Nat × Cursor := match head.indentation with
    | none =>
      let (bs, deepest, c) := measure fuel 0 c
      (bs, max least deepest, c)
    | some n =>
      let column := least + n - 1
      let (bs, c) := emptyLines fuel column c
      (bs, column, c)
  let (text, lineEnd, empty, c) := if c.column = column ∧ c.rest ≠ [] then
      let (text, lineEnd, empty, c) := lines folded column fuel c
      (lead ++ text, lineEnd, empty, c)
    else ([], [], lead, c)
  return match head.chomping with
    | .strip => (text, c)
    | .clip => (text ++ lineEnd, c)
    | .keep => (text ++ lineEnd ++ empty, c)

end DownloadNames.Yaml.Block
