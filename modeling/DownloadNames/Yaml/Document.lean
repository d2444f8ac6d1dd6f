import DownloadNames.Yaml.Node
import DownloadNames.Yaml.Tag

/-
The value of a YAML document.

A value is built from the outside in: what stands in a collection is built after everything that
stands beside the collection.  So of two errors the one that is less deep is met first, and of two
that are equally deep the one further ahead.

Keys must be scalars.  Under the key `<<` a mapping, or a list of mappings, supplies entries that
the mapping itself does not have; they are collected before anything is built of the mapping.  Under
the key `=` a mapping holds the text that it has where a scalar is asked for.

Sets, ordered mappings and lists of pairs are lists here.  A collection that contains itself has no
value here, and there is no bound on how deep collections are nested.
-/

namespace DownloadNames.Yaml

/-! ## What has been built -/

/-- An error of building a value, and how deep inside the value it is met. -/
structure Misfit where
  depth : Nat
  error : DocumentError
deriving DecidableEq, Repr

/-- What has been built, or the error that is met first. -/
abbrev Built (α : Type) := Except Misfit α

namespace Built

/-- What has been read without going into a collection. -/
def ofRead (read : Except DocumentError α) : Built α := read.mapError fun e => ⟨0, e⟩

/-- What has been built inside a collection. -/
def inside (b : Built α) : Built α := b.mapError fun m => { m with depth := m.depth + 1 }

/-- Both results, or the error that is met first. -/
def both (a : Built α) (b : Built β) : Built (α × β) :=
  match a, b with
  | .ok a, .ok b => .ok (a, b)
  | .error m, .ok _ => .error m
  | .ok _, .error m => .error m
  | .error m, .error n => .error (if n.depth < m.depth then n else m)

/-- A list with further elements at its end. -/
def append (a b : Built (List α)) : Built (List α) := (a.both b).map fun (as, bs) => as ++ bs

/-- A list with a further element at its front. -/
def cons (a : Built α) (as : Built (List α)) : Built (List α) :=
  (a.both as).map fun (a, as) => a :: as

end Built

/-! ## Nodes -/

namespace Node

/-- The tag that is written, unless it leaves the choice to the form. -/
def tagOr (form : Tag) : Option Text → Tag
  | none => form
  | some name => if Tag.isOpen name then form else .ofName name

/-- The tag of a node. -/
def tag : Node → Tag
  | .scalar none false _ => .text
  | .scalar name _ s => tagOr (.ofForm s) name
  | .list name _ => tagOr .list name
  | .map name _ => tagOr .map name

mutual

/-- The text that a node has where a scalar is asked for. -/
def text? : Node → Option Text
  | .scalar _ _ s => some s
  | .list .. => none
  | .map _ entries => signedText? entries

/-- The text under the first sign `=`. -/
def signedText? : List (Node × Node) → Option Text
  | [] => none
  | (k, v) :: rest => if k.tag = .value then text? v else signedText? rest

end

/-- The scalar that a node is read as under its tag; a moment must be written in the node itself. -/
def toScalar (n : Node) : Except DocumentError Scalar :=
  match n, n.text? with
  | _, none => .error .malformed
  | .scalar .., some s => Tag.readText s n.tag
  | _, some s =>
    if n.tag = .timestamp then .error (.raised "TypeError" "expected string, got list".toList)
    else Tag.readText s n.tag

/-- The key that a node stands for; the sign `=` stands for itself. -/
def toKey (n : Node) : Except DocumentError Scalar :=
  if n.tag = .value then DocumentError.orMalformed (n.text?.map .text) else n.toScalar

/-- The entries of a mapping, unless the entries to take over cannot be collected. -/
def entriesOf (parts : Option (Built Entries × Built Entries)) : Built Entries :=
  match parts with
  | some (taken, own) => (taken.append own).map Value.ofEntries
  | none => .error ⟨0, .malformed⟩

/-- The keys of entries as a list. -/
def keyList (entries : Entries) : Value := .list (entries.map fun (k, _) => .scalar k)

/-- The value of a node of which no collection is built.  Where the tag of a collection does not fit
the node, this is noticed inside the collection. -/
def toAtom (n : Node) : Built Value :=
  if n.tag.isCollection then Built.inside (.error ⟨0, .malformed⟩)
  else Built.ofRead (n.toScalar.map .scalar)

mutual

/-- The value of a node. -/
def toValue : Node → Built Value
  | .scalar name plain s => toAtom (.scalar name plain s)
  | .list name items => match tagOr .list name with
    | .list => Built.inside ((toValues items).map .list)
    | .pairs => Built.inside ((toPairs items).map .list)
    | _ => toAtom (.list name items)
  | .map name entries => match tagOr .map name with
    | .map => Built.inside ((entriesOf (toEntries entries)).map .map)
    | .set => Built.inside ((entriesOf (toEntries entries)).map keyList)
    | _ => toAtom (.map name entries)

/-- The values of nodes. -/
def toValues : List Node → Built (List Value)
  | [] => .ok []
  | n :: ns => Built.cons (toValue n) (toValues ns)

/-- The values of mappings with one entry each, as pairs. -/
def toPairs : List Node → Built (List Value)
  | [] => .ok []
  | .map _ [(k, v)] :: ns =>
    Built.cons (((toValue k).both (toValue v)).map fun (k, v) => .list [k, v]) (toPairs ns)
  | _ :: _ => .error ⟨0, .malformed⟩

/-- The entries that a mapping takes over, and its own; `none` where it cannot take over what stands
under the merge sign. -/
def toEntries : List (Node × Node) → Option (Built Entries × Built Entries)
  | [] => some (.ok [], .ok [])
  | (k, v) :: rest =>
    if k.tag = .merge then do
      let new ← takenFrom v
      let (taken, own) ← toEntries rest
      return (Built.append new taken, own)
    else do
      let (taken, own) ← toEntries rest
      return (taken, Built.cons ((Built.ofRead k.toKey).both (toValue v)) own)

/-- The entries that a node under the merge sign supplies. -/
def takenFrom : Node → Option (Built Entries)
  | .map _ entries => (toEntries entries).map fun (taken, own) => Built.append taken own
  | .list _ items => takenFromItems items
  | .scalar .. => none

/-- The entries that mappings supply; of two the earlier one prevails, so it comes last. -/
def takenFromItems : List Node → Option (Built Entries)
  | [] => some (.ok [])
  | .map _ entries :: rest => do
    let (taken, own) ← toEntries entries
    return Built.append (← takenFromItems rest) (Built.append taken own)
  | _ :: _ => none

end

end Node

/-- The value of a YAML text; a text without a document is `null`. -/
def read (s : Text) : Except DocumentError Value := do
  match ← DocumentError.orMalformed (Node.ofTokens? (← tokens s)) with
  | none => return .null
  | some n => n.toValue.mapError (·.error)

end DownloadNames.Yaml
