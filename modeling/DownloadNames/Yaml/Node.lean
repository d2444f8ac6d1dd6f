import DownloadNames.Yaml.Token

/-
The nodes of a YAML document, read off its tokens.
A node is a scalar, a list or a mapping, with the tag that was written in front of it.  Anchors
and aliases are gone: an alias is replaced by the node that carries the anchor, which must
have been finished before, and no two nodes of a document carry the same anchor.
-/

namespace DownloadNames.Yaml

/-- A node of a document. -/
inductive Node where
  | scalar (tag : Option Text) (plain : Bool) (text : Text)
  | list (tag : Option Text) (items : List Node)
  | map (tag : Option Text) (entries : List (Node × Node))
deriving Repr

namespace Node

/-- A node that was left out. -/
def empty (tag : Option Text) : Node := .scalar tag (tag.isNone) []

/-- The directives of a document: the tags that handles stand for. -/
abbrev Handles := List (Text × Text)

/-- The handles that need no directive. -/
def standardHandles : Handles :=
  [(['!'], ['!']), (['!', '!'], "tag:yaml.org,2002:".toList)]

/-- What is left to read, and the nodes that have an anchor. -/
structure Source where
  tokens : List Token
  handles : Handles
  anchors : List (Text × Node) := []

/-- A reader of a part of the tokens. -/
abbrev Reader (α : Type) := Source → Option (α × Source)

namespace Source

/-- The next token. -/
def head? (s : Source) : Option Token := s.tokens.head?

/-- Past one token. -/
def next (s : Source) : Source := { s with tokens := s.tokens.drop 1 }

/-- The next token is one of those given. -/
def startsWith (ts : List Token) (s : Source) : Bool :=
  match s.head? with
  | some t => ts.contains t
  | none => false

/-- Past the token that must come next. -/
def expect (t : Token) (s : Source) : Option Source :=
  if s.head? = some t then some s.next else none

/-- The tag that a tag name stands for. -/
def resolveTag (s : Source) (name : TagName) : Option Text :=
  match name.handle with
  | none => some name.suffix
  | some handle => (Assoc.find? handle s.handles).map (· ++ name.suffix)

/-- The anchor and the tag in front of a node, in either order. -/
def properties (s : Source) : Option ((Option Text × Option Text) × Source) :=
  match s.tokens with
  | .anchor a :: .tag t :: rest =>
    (s.resolveTag t).map fun tag => ((some a, some tag), { s with tokens := rest })
  | .tag t :: .anchor a :: rest =>
    (s.resolveTag t).map fun tag => ((some a, some tag), { s with tokens := rest })
  | .anchor a :: rest => some ((some a, none), { s with tokens := rest })
  | .tag t :: rest =>
    (s.resolveTag t).map fun tag => ((none, some tag), { s with tokens := rest })
  | _ => some ((none, none), s)

/-- Keeps a node under its anchor. -/
def keep (anchor : Option Text) (n : Node) (s : Source) : Option (Node × Source) :=
  match anchor with
  | none => some (n, s)
  | some a =>
    if Assoc.has a s.anchors then none else some (n, { s with anchors := (a, n) :: s.anchors })

end Source

/-! ## Collections -/

/-- Items of a block list, each after its dash; `ends` are the tokens before which an item is
empty.  The list stops at the first other token. -/
def blockItems (node : Reader Node) (ends : List Token) : (fuel : Nat) → Reader (List Node)
  | 0, _ => none
  | fuel + 1, s =>
    match s.head? with
    | some .blockEntry => do
      let s := s.next
      let (item, s) ← if s.startsWith ends then some (Node.empty none, s) else node s
      let (items, s) ← blockItems node ends fuel s
      return (item :: items, s)
    | _ => some ([], s)

/-- A key or a value after its sign, empty before one of the tokens given. -/
def part (node : Reader Node) (ends : List Token) (s : Source) : Option (Node × Source) :=
  if s.startsWith ends then some (Node.empty none, s) else node s

/-- The value after a key: empty where there is no colon. -/
def valuePart (node : Reader Node) (ends : List Token) (s : Source) : Option (Node × Source) :=
  match s.head? with
  | some .value => part node ends s.next
  | _ => some (Node.empty none, s)

/-- The entries of a block mapping up to its end. -/
def blockEntries (node : Reader Node) : (fuel : Nat) → Reader (List (Node × Node))
  | 0, _ => none
  | fuel + 1, s =>
    match s.head? with
    | some .key => do
      let ends := [Token.key, .value, .blockEnd]
      let (k, s) ← part node ends s.next
      let (v, s) ← valuePart node ends s
      let (es, s) ← blockEntries node fuel s
      return ((k, v) :: es, s)
    | some .blockEnd => some ([], s.next)
    | _ => none

/-- An item of a bracketed list: a node, or a single pair. -/
def flowItem (node : Reader Node) (s : Source) : Option (Node × Source) :=
  match s.head? with
  | some .key => do
    let (k, s) ← part node [.value, .flowEntry, .flowSequenceEnd] s.next
    let (v, s) ← valuePart node [.flowEntry, .flowSequenceEnd] s
    return (.map none [(k, v)], s)
  | _ => node s

/-- The items of a bracketed list up to its closing bracket. -/
def flowItems (node : Reader Node) : (fuel : Nat) → (first : Bool) → Reader (List Node)
  | 0, _, _ => none
  | fuel + 1, first, s =>
    if s.head? = some .flowSequenceEnd then some ([], s.next)
    else do
      let s ← if first then some s else s.expect .flowEntry
      if s.head? = some .flowSequenceEnd then return ([], s.next)
      let (item, s) ← flowItem node s
      let (items, s) ← flowItems node fuel false s
      return (item :: items, s)

/-- An entry of a mapping in braces: a pair, or a key alone. -/
def flowPair (node : Reader Node) (s : Source) : Option ((Node × Node) × Source) :=
  match s.head? with
  | some .key => do
    let (k, s) ← part node [.value, .flowEntry, .flowMappingEnd] s.next
    let (v, s) ← valuePart node [.flowEntry, .flowMappingEnd] s
    return ((k, v), s)
  | _ => (node s).map fun (k, s) => ((k, Node.empty none), s)

/-- The entries of a mapping in braces up to the closing brace. -/
def flowEntries (node : Reader Node) :
    (fuel : Nat) → (first : Bool) → Reader (List (Node × Node))
  | 0, _, _ => none
  | fuel + 1, first, s =>
    if s.head? = some .flowMappingEnd then some ([], s.next)
    else do
      let s ← if first then some s else s.expect .flowEntry
      if s.head? = some .flowMappingEnd then return ([], s.next)
      let (entry, s) ← flowPair node s
      let (entries, s) ← flowEntries node fuel false s
      return (entry :: entries, s)

/-! ## Nodes -/

/-- Where a node stands, which decides on the collections that it can be. -/
inductive Place where
  | flow
  | block
  | underKey
deriving DecidableEq, Repr

/-- The content of a node with the given tag.  Under a key a list may begin without being
indented. -/
def content (node : Place → Reader Node) (fuel : Nat) (place : Place) (anchor tag : Option Text)
    (s : Source) : Option (Node × Source) :=
  match s.head? with
  | some (.scalar plain text) => some (.scalar tag plain text, s.next)
  | some .flowSequence =>
    (flowItems (node .flow) fuel true s.next).map fun (items, s) => (.list tag items, s)
  | some .flowMapping =>
    (flowEntries (node .flow) fuel true s.next).map fun (es, s) => (.map tag es, s)
  | some .blockSequence =>
    if place = .flow then none
    else do
      let (items, s) ← blockItems (node .block) [.blockEntry, .blockEnd] fuel s.next
      return (.list tag items, ← s.expect .blockEnd)
  | some .blockMapping =>
    if place = .flow then none
    else (blockEntries (node .underKey) fuel s.next).map fun (es, s) => (.map tag es, s)
  | some .blockEntry =>
    if place = .underKey then
      (blockItems (node .block) [.blockEntry, .key, .value, .blockEnd] fuel s).map
        fun (items, s) => (.list tag items, s)
    else if anchor.isSome || tag.isSome then some (Node.empty tag, s)
    else none
  | _ => if anchor.isSome || tag.isSome then some (Node.empty tag, s) else none

/-- A node: an alias, or content with an anchor and a tag in front. -/
def read : (fuel : Nat) → Place → Reader Node
  | 0, _, _ => none
  | fuel + 1, place, s =>
    match s.head? with
    | some (.alias name) => (Assoc.find? name s.anchors).map fun n => (n, s.next)
    | _ => do
      let ((anchor, tag), s) ← s.properties
      let (n, s) ← content (read fuel) fuel place anchor tag s
      s.keep anchor n

/-! ## Documents -/

/-- The directives in front of a document; a version is given at most once and is of the first
kind, and a handle is given at most once. -/
def directives : (versionGiven : Bool) → Handles → List Token → Option (Handles × List Token)
  | given, handles, .directive d :: ts =>
    match d with
    | .version major _ => if given || major != 1 then none else directives true handles ts
    | .tag handle lead =>
      if Assoc.has handle handles then none
      else directives given ((handle, lead) :: handles) ts
    | .other => directives given handles ts
  | _, handles, ts => some (handles ++ standardHandles, ts)

/-- The tokens after the markers that end a document. -/
def dropEnds : List Token → List Token
  | .documentEnd :: ts => dropEnds ts
  | ts => ts

/-- The node of a document that begins here, and the tokens after it. -/
def document (handles : Handles) (ts : List Token) : Option (Node × List Token) :=
  (read (ts.length + 1) .block { tokens := ts, handles }).map fun (n, s) => (n, s.tokens)

/-- The node of a document after its marker; the document may be empty. -/
def markedDocument (handles : Handles) : List Token → Option (Node × List Token)
  | [] => some (Node.empty none, [])
  | t :: ts =>
    match t with
    | .directive _ | .documentStart | .documentEnd => some (Node.empty none, t :: ts)
    | _ => document handles (t :: ts)

/-- The document that a stream begins with, and the tokens after it. -/
def firstDocument (ts : List Token) : Option (Node × List Token) := do
  match ts with
  | .directive _ :: _ | .documentStart :: _ =>
    let (handles, ts) ← directives false [] ts
    match ts with
    | .documentStart :: ts => markedDocument handles ts
    | _ => none
  | ts => document standardHandles ts

/-- The node of the only document of a stream; a stream may have no document. -/
def ofTokens? (ts : List Token) : Option (Option Node) :=
  if ts = [] then some none
  else do
    let (n, ts) ← firstDocument ts
    if dropEnds ts = [] then some (some n) else none

end Node
end DownloadNames.Yaml
