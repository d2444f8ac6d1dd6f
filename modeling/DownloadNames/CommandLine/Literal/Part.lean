import DownloadNames.CommandLine.Literal.Fault

/-
Parts of expressions: what they are, their values where they are literals, and whether something
else can be given to them.
-/

namespace DownloadNames.CommandLine.Literal

/-- The nature of the value of a literal; a collection that may not be in a set tells why. -/
inductive Nature where
  | number (signed : Bool) (imaginary : Bool)
  | plain
  | collection (blocked : Option Noun)
deriving DecidableEq, Repr

/-- Whether a part can stand where values are given out; if not, the part of it that is to blame,
where it has a name. -/
inductive Assignable where
  | yes
  | no (culprit : Option Noun)
deriving DecidableEq, Repr

/-- A part of an expression, its value where it is a literal, and whether it can be given one. -/
structure Part where
  noun : Noun
  value : Except Fault Nature
  assignable : Assignable

/-- A noun of which every part can be given a value, or none. -/
def Noun.assignable : Noun → Assignable
  | .name _ | .attribute => .yes
  | noun => .no (some noun)

/-- A part with a value. -/
def Part.known (noun : Noun) (value : Except Fault Nature) : Part := ⟨noun, value, noun.assignable⟩

/-- A part without a value. -/
def Part.unknown (noun : Noun) : Part := .known noun (.error .notLiteral)

/-- Parts that are given values together: the first culprit with a name is to blame. -/
def assignableAll (parts : List Part) : Assignable :=
  let refusals := parts.filterMap fun p => match p.assignable with
    | .yes => none
    | .no culprit => some culprit
  match refusals with
  | [] => .yes
  | _ => .no (refusals.findSome? id)

/-! ## Values of literals -/

/-- What keeps a value out of sets. -/
def Nature.blocked? : Nature → Option Noun
  | .collection blocked => blocked
  | _ => none

/-- The value of a tuple. -/
def tupleValue (parts : List Part) : Except Fault Nature :=
  (parts.mapM Part.value).map fun natures => .collection (natures.findSome? Nature.blocked?)

/-- The value of a list. -/
def listValue (parts : List Part) : Except Fault Nature :=
  (parts.mapM Part.value).map fun _ => .collection (some .list)

/-- A value that can be in a set. -/
def canBeElement (nature : Nature) : Except Fault Unit :=
  match nature.blocked? with
  | some noun => .error (.notElement noun)
  | none => .ok ()

/-- The value of a set. -/
def setValue (parts : List Part) : Except Fault Nature := do
  parts.forM fun p => do canBeElement (← p.value)
  return .collection (some .set)

/-- The value of a mapping; an entry without a key takes in another mapping. -/
def mappingValue (entries : List (Option Part × Part)) : Except Fault Nature := do
  entries.forM fun (key, value) => do
    match key with
    | none => throw .unpacked
    | some key =>
      let nature ← key.value
      discard <| value.value
      canBeElement nature
  return .collection (some .mapping)

/-- The value of a part with a sign before it. -/
def signedValue (sign : String) (part : Part) : Except Fault Nature := do
  match ← part.value with
  | .number false imaginary => if sign = "~" then throw .notLiteral else
    return .number true imaginary
  | _ => throw .notLiteral

/-- The value of a sum: only an imaginary number may be added, and only to a real one. -/
def sumValue (left : Part) (sign : String) (right : Part) : Except Fault Nature := do
  match ← left.value, ← right.value with
  | .number _ false, .number false true =>
    if sign = "+" || sign = "-" then return .plain else throw .notLiteral
  | _, _ => throw .notLiteral

/-! ## Kinds of parts -/

/-- A tuple of parts. -/
def Part.tuple (parts : List Part) : Part := ⟨.tuple, tupleValue parts, assignableAll parts⟩

/-- A list of parts. -/
def Part.list (parts : List Part) : Part := ⟨.list, listValue parts, assignableAll parts⟩

/-- A part with a star before it. -/
def Part.starred (part : Part) : Part := ⟨.starred, .error .notLiteral, part.assignable⟩

/-- A comparison that begins with a part: it can be taken for what a loop gives values to, up to
the word `in`, if that is how it goes on. -/
def Part.compared (left : Part) (byIn : Bool) : Part :=
  let culprit := match left.assignable with
    | .no culprit => if byIn then culprit else none
    | .yes => none
  ⟨.comparison, .error .notLiteral, .no culprit⟩

end DownloadNames.CommandLine.Literal
