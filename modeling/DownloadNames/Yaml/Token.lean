import DownloadNames.Yaml.Quoted
import DownloadNames.Yaml.Block
import DownloadNames.Yaml.Plain
import DownloadNames.Assoc
import DownloadNames.Charset.Utf8

/-
The tokens of a YAML text.
Indentation opens and closes block collections, so the tokens bracket everything and the
grammar over them needs no columns.  A mapping key in front of a colon is recognised only at
the colon: until then the place where it would begin is remembered for each level of brackets,
and the key token is inserted there.  Such a key must stand on one line and within 1024
characters.  All tokens are read before the grammar over them is looked at, so an error inside a
quoted scalar comes before any error of the grammar.
-/

namespace DownloadNames.Yaml

/-- The name of a tag: its handle, if it has one, and what follows. -/
structure TagName where
  handle : Option Text
  suffix : Text
deriving DecidableEq, Repr

/-- A directive in front of a document. -/
inductive Directive where
  | version (major minor : Nat)
  | tag (handle lead : Text)
  | other
deriving DecidableEq, Repr

/-- The tokens of a YAML text. -/
inductive Token where
  | directive (d : Directive)
  | documentStart
  | documentEnd
  | blockSequence
  | blockMapping
  | blockEnd
  | flowSequence
  | flowSequenceEnd
  | flowMapping
  | flowMappingEnd
  | blockEntry
  | flowEntry
  | key
  | value
  | alias (name : Text)
  | anchor (name : Text)
  | tag (name : TagName)
  | scalar (plain : Bool) (text : Text)
deriving DecidableEq, Repr

/-! ## Words -/

/-- A non-empty name. -/
def name? (c : Cursor) : Option (Text × Cursor) :=
  match c.takeWhile isNameChar with
  | ([], _) => none
  | (name, c) => some (name, c)

/-- The name of an anchor or alias, from its sign on. -/
def anchorName? (c : Cursor) : Option (Text × Cursor) := do
  let (name, c) ← name? c.next
  let ends := match c.rest with
    | [] => true
    | ch :: _ => isSpacing ch || ['?', ':', ',', ']', '\x7d', '%', '@', '\x60'].contains ch
  if ends then some (name, c) else none

/-- A handle of tags: `!`, `!!` or `!name!`. -/
def tagHandle? (c : Cursor) : Option (Text × Cursor) := do
  let c ← c.expect? '!'
  if c.rest.head? = some ' ' then return (['!'], c)
  let (name, after) := c.takeWhile isNameChar
  match after.rest with
  | '!' :: _ => return ('!' :: name ++ ['!'], after.next)
  | _ => none

/-- A character of the name of a tag. -/
def isTagChar (c : Char) : Bool :=
  c.isAlphanum || "-;/?:@&=+$,_.!~*'()[]%".toList.contains c

/-- A name with its percent-escapes resolved; each run of them must be the UTF-8 form of a text, and
`held` are the bytes of a run so far. -/
def unescaped? : (held : List UInt8) → Text → Option Text
  | held, [] => Utf8.decode? held
  | held, '%' :: a :: b :: cs => do
    let high ← Text.hexDigit? a
    let low ← Text.hexDigit? b
    unescaped? (held ++ [UInt8.ofNat (16 * high + low)]) cs
  | held, c :: cs =>
    if c = '%' then none
    else do return (← Utf8.decode? held) ++ c :: (← unescaped? [] cs)

/-- The name of a tag. -/
def tagWord? (c : Cursor) : Option (Text × Cursor) :=
  match c.takeWhile isTagChar with
  | ([], _) => none
  | (word, c) => (unescaped? [] word).map fun name => (name, c)

/-- A tag, from its sign on. -/
def tagName? (c : Cursor) : Option (TagName × Cursor) := do
  let (name, c) ← match c.next.rest with
    | '<' :: _ => do
      let (word, c) ← tagWord? (c.skip 2)
      return (⟨none, word⟩, ← c.expect? '>')
    | rest =>
      if startsSpaced rest then some (⟨none, ['!']⟩, c.next)
      else if (rest.takeWhile fun ch => !(ch == ' ' || isBreak ch)).contains '!' then do
        let (handle, c) ← tagHandle? c
        let (word, c) ← tagWord? c
        return (⟨some handle, word⟩, c)
      else do
        let (word, c) ← tagWord? c.next
        return (⟨some ['!'], word⟩, c)
  if startsBlank c.rest then some (name, c) else none

/-- A number of a version. -/
def versionNumber? (c : Cursor) : Option (Nat × Cursor) :=
  match c.takeWhile Char.isDigit with
  | ([], _) => none
  | (ds, c) => some (Text.ofDigits 10 (ds.filterMap Text.asciiDigit?), c)

/-- What the directive of a name says. -/
def directiveBody? (name : Text) (c : Cursor) : Option (Directive × Cursor) :=
  if name = ['Y', 'A', 'M', 'L'] then do
    let (major, c) ← versionNumber? c.dropSpaces
    let c ← c.expect? '.'
    let (minor, c) ← versionNumber? c
    if startsBlank c.rest then some (.version major minor, c) else none
  else if name = ['T', 'A', 'G'] then do
    let (handle, c) ← tagHandle? c.dropSpaces
    let c ← c.expect? ' '
    let (lead, c) ← tagWord? c.dropSpaces
    if startsBlank c.rest then some (.tag handle lead, c) else none
  else some (.other, c.dropWhile (!isBreak ·))

/-- A directive, from its sign on. -/
def directive? (c : Cursor) : Option (Directive × Cursor) := do
  let (name, c) ← name? c.next
  if startsBlank c.rest then
    let (d, c) ← directiveBody? name c
    return (d, ← c.dropRestOfLine?)
  else none

/-! ## The state of reading -/

/-- A place where a key may turn out to begin. -/
structure KeyPlace where
  position : Nat
  required : Bool
  index : Nat
  line : Nat
  column : Nat
deriving Repr

/-- What has been read: the tokens so far, the open brackets and block collections, and the
places where keys may begin, by level of brackets. -/
structure Reading where
  cursor : Cursor
  tokens : List Token := []
  flow : Nat := 0
  indent : Int := -1
  indents : List Int := []
  keyAllowed : Bool := true
  keys : List (Nat × KeyPlace) := []
deriving Repr

namespace Reading

/-- No brackets are open. -/
def inBlock (r : Reading) : Bool := r.flow == 0

/-- The column as it is compared with indentations. -/
def column (r : Reading) : Int := r.cursor.column

/-- Adds a token at the end. -/
def emit (t : Token) (r : Reading) : Reading := { r with tokens := r.tokens ++ [t] }

/-- Adds a token at a position. -/
def emitAt (position : Nat) (t : Token) (r : Reading) : Reading :=
  { r with tokens := r.tokens.take position ++ t :: r.tokens.drop position }

/-- Goes on at another place. -/
def goTo (c : Cursor) (r : Reading) : Reading := { r with cursor := c }

/-- Sets whether a key may begin next. -/
def allowKey (b : Bool) (r : Reading) : Reading := { r with keyAllowed := b }

/-- Past the space between tokens; outside brackets a new line may begin with a key. -/
def skipSpace : (fuel : Nat) → Reading → Reading
  | 0, r => r
  | fuel + 1, r =>
    let c := r.cursor.dropSpaces.dropComment
    match c.lineBreak? with
    | some (_, c) => skipSpace fuel ((r.goTo c).allowKey (r.keyAllowed || r.inBlock))
    | none => r.goTo c

/-- Forgets the places that are too far back for a key; one where a key must stand is an
error. -/
def dropStale (r : Reading) : Option Reading :=
  let isStale (k : KeyPlace) : Bool :=
    k.line != r.cursor.line || r.cursor.index - k.index > 1024
  if r.keys.any fun (_, k) => isStale k && k.required then none
  else some { r with keys := r.keys.filter fun (_, k) => !isStale k }

/-- Forgets the place on the current level; one where a key must stand is an error. -/
def dropKey (r : Reading) : Option Reading :=
  match Assoc.find? r.flow r.keys with
  | some k =>
    if k.required then none
    else some { r with keys := r.keys.filter fun (level, _) => level ≠ r.flow }
  | none => some r

/-- Remembers that a key may begin here. -/
def saveKey (r : Reading) : Option Reading :=
  if r.keyAllowed then do
    let place : KeyPlace :=
      { position := r.tokens.length
        required := r.inBlock && r.indent == r.column
        index := r.cursor.index
        line := r.cursor.line
        column := r.cursor.column }
    let r ← r.dropKey
    return { r with keys := (r.flow, place) :: r.keys }
  else some r

/-- Closes the block collections that are indented more deeply than the column. -/
def closeBlocks (column : Int) (r : Reading) : Reading :=
  if r.inBlock then
    let stack := r.indent :: r.indents
    let closed := stack.takeWhile (· > column)
    let left := stack.drop closed.length
    { r with
      tokens := r.tokens ++ closed.map fun _ => Token.blockEnd
      indent := left.headD (-1)
      indents := left.drop 1 }
  else r

/-- Opens a block collection at a column deeper than the current one. -/
def deepen (column : Int) (r : Reading) : Option Reading :=
  if r.indent < column then
    some { r with indents := r.indent :: r.indents, indent := column }
  else none

/-- Opens a block collection here, unless one is open at this column. -/
def openBlock (t : Token) (r : Reading) : Reading :=
  match r.deepen r.column with
  | some r => r.emit t
  | none => r

/-! ## One token -/

/-- A document marker. -/
def marker (t : Token) (r : Reading) : Option Reading := do
  let r ← (r.closeBlocks (-1)).dropKey
  return ((r.emit t).goTo (r.cursor.skip 3)).allowKey false

/-- A directive. -/
def takeDirective (r : Reading) : Option Reading := do
  let r ← (r.closeBlocks (-1)).dropKey
  let (d, c) ← directive? r.cursor
  return ((r.emit (.directive d)).goTo c).allowKey false

/-- An opening bracket. -/
def openFlow (t : Token) (r : Reading) : Option Reading := do
  let r ← r.saveKey
  let r := (r.emit t).goTo r.cursor.next
  return { r with flow := r.flow + 1, keyAllowed := true }

/-- A closing bracket. -/
def closeFlow (t : Token) (r : Reading) : Option Reading := do
  let r ← r.dropKey
  let r := (r.emit t).goTo r.cursor.next
  return { r with flow := r.flow - 1, keyAllowed := false }

/-- A comma. -/
def flowEntry (r : Reading) : Option Reading := do
  let r ← r.dropKey
  return ((r.emit .flowEntry).goTo r.cursor.next).allowKey true

/-- The dash of a list item. -/
def blockEntry (r : Reading) : Option Reading := do
  let r ← if r.inBlock then
      if r.keyAllowed then some (r.openBlock .blockSequence) else none
    else some r
  let r ← r.dropKey
  return ((r.emit .blockEntry).goTo r.cursor.next).allowKey true

/-- The question mark in front of a key. -/
def explicitKey (r : Reading) : Option Reading := do
  let r ← if r.inBlock then
      if r.keyAllowed then some (r.openBlock .blockMapping) else none
    else some r
  let r ← r.dropKey
  return ((r.emit .key).goTo r.cursor.next).allowKey r.inBlock

/-- The colon after a key that turns out to have begun at a remembered place. -/
def valueAfter (k : KeyPlace) (r : Reading) : Reading :=
  let r := { r with keys := r.keys.filter fun (level, _) => level ≠ r.flow }
  let r := r.emitAt k.position .key
  if r.inBlock then
    match r.deepen k.column with
    | some r => r.emitAt k.position .blockMapping
    | none => r
  else r

/-- A colon. -/
def takeValue (r : Reading) : Option Reading :=
  match Assoc.find? r.flow r.keys with
  | some k =>
    let r := r.valueAfter k
    some (((r.emit .value).goTo r.cursor.next).allowKey false)
  | none => do
    let r ← if r.inBlock then
        if r.keyAllowed then some (r.openBlock .blockMapping) else none
      else some r
    let r ← r.dropKey
    return ((r.emit .value).goTo r.cursor.next).allowKey r.inBlock

/-- A token that may be, or belong to, a key. -/
def takeWord (read : Cursor → Option (Token × Cursor)) (r : Reading) : Option Reading := do
  let r ← r.saveKey
  let (t, c) ← read r.cursor
  return ((r.emit t).goTo c).allowKey false

/-- A scalar between quotes, which may be a key. -/
def takeQuoted (style : Quoted.Style) (r : Reading) : Except DocumentError Reading := do
  let r ← DocumentError.orMalformed r.saveKey
  let (text, c) ← Quoted.read style r.cursor
  return ((r.emit (.scalar false text)).goTo c).allowKey false

/-- A block scalar. -/
def takeBlock (folded : Bool) (r : Reading) : Option Reading := do
  let r ← r.dropKey
  let (text, c) ← Block.read? folded (r.indent + 1).toNat r.cursor.next
  return ((r.emit (.scalar false text)).goTo c).allowKey true

/-- A plain scalar. -/
def takePlain (r : Reading) : Option Reading := do
  let r ← r.saveKey
  let (text, c, crossed) := Plain.read (!r.inBlock) (r.indent + 1) r.cursor
  return ((r.emit (.scalar true text)).goTo c).allowKey crossed

/-- The token that begins with the given character, which is no quote. -/
def takeUnquoted (ch : Char) (rest : Text) (r : Reading) : Option Reading :=
  let atMargin := r.cursor.column == 0
  let plain : Option Reading :=
    if Plain.startsPlain (!r.inBlock) (ch :: rest) then r.takePlain else none
  if ch = '%' ∧ atMargin then r.takeDirective
  else if atMargin ∧ startsMarker '-' (ch :: rest) then r.marker .documentStart
  else if atMargin ∧ startsMarker '.' (ch :: rest) then r.marker .documentEnd
  else match ch with
    | '[' => r.openFlow .flowSequence
    | '\x7b' => r.openFlow .flowMapping
    | ']' => r.closeFlow .flowSequenceEnd
    | '\x7d' => r.closeFlow .flowMappingEnd
    | ',' => r.flowEntry
    | '-' => if startsSpaced rest then r.blockEntry else plain
    | '?' => if !r.inBlock || startsSpaced rest then r.explicitKey else plain
    | ':' => if !r.inBlock || startsSpaced rest then r.takeValue else plain
    | '*' => r.takeWord fun c => (anchorName? c).map fun (name, c) => (.alias name, c)
    | '&' => r.takeWord fun c => (anchorName? c).map fun (name, c) => (.anchor name, c)
    | '!' => r.takeWord fun c => (tagName? c).map fun (name, c) => (.tag name, c)
    | '|' => if r.inBlock then r.takeBlock false else none
    | '>' => if r.inBlock then r.takeBlock true else none
    | _ => plain

/-- The token that begins with the given character. -/
def takeAt (ch : Char) (rest : Text) (r : Reading) : Except DocumentError Reading :=
  match ch with
  | '\'' => r.takeQuoted .single
  | '"' => r.takeQuoted .double
  | _ => DocumentError.orMalformed (r.takeUnquoted ch rest)

/-- All tokens from here on. -/
def run : (fuel : Nat) → Reading → Except DocumentError (List Token)
  | 0, _ => .error .malformed
  | fuel + 1, r =>
    match (r.skipSpace (r.cursor.rest.length + 1)).dropStale with
    | none => .error .malformed
    | some r =>
      let r := r.closeBlocks r.column
      match r.cursor.rest with
      | [] => DocumentError.orMalformed (((r.closeBlocks (-1)).dropKey).map (·.tokens))
      | ch :: rest => (r.takeAt ch rest).bind (run fuel)

end Reading

/-- The text without a byte order mark at its start. -/
def withoutMark : Text → Text
  | '\ufeff' :: s => s
  | s => s

/-- The tokens of a text. -/
def tokens (s : Text) : Except DocumentError (List Token) :=
  if s.all isAllowed then
    let s := withoutMark s
    Reading.run (s.length + 1) { cursor := { rest := s } }
  else .error .malformed

end DownloadNames.Yaml
