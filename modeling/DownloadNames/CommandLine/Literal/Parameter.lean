import DownloadNames.CommandLine.Literal.Reading

/-
The parameters of a function without a name.
They are names with commas between them, some with a value to fall back on, which `value` reads.
A slash may follow the first ones.  A star stands before the name for all further values, or on
its own before names that have to be given; two stars stand before the name for all further names.
With `hints` the usual slips are named.
-/

namespace DownloadNames.CommandLine.Literal

/-- Whether parameters come with a value to fall back on. -/
inductive Fallback where
  | without
  | given
  | either
deriving DecidableEq, Repr

/-- A slip among parameters. -/
def misplaced (fault : BadParameters) : Except Halt α := .error (.fault (.parameters fault))

section

variable (hints : Bool) (value : List Token → Reading)

/-- What follows a parameter and the comma after it; a colon may stand there as well. -/
def parameter (fallback : Fallback) (ts : List Token) : Except Halt (List Token) := do
  let past (rest : List Token) : Except Halt (List Token) :=
    if atSign "," rest then .ok (rest.drop 1) else if atSign ":" rest then .ok rest else stuck rest
  match ts with
  | ⟨.name n, _, _⟩ :: rest =>
    if reservedWords.contains n then stuck ts
    else if atSign "=" rest then
      if fallback = .without then stuck rest
      else match ← attempt (value (rest.drop 1)) with
        | some (_, rest) => past rest
        | none =>
          if hints && (atSign ")" (rest.drop 1) || atSign "," (rest.drop 1)) then
            misplaced .missingDefault
          stuck (rest.drop 1)
    else if fallback = .given then stuck rest
    else past rest
  | _ => stuck ts

/-- The number of parameters that follow each other, and what comes after them. -/
def parameterRun (fallback : Fallback) : (limit : Nat) → List Token →
    Except Halt (Nat × List Token)
  | 0, ts => .ok (0, ts)
  | limit + 1, ts => do
    match ← attempt (parameter hints value fallback ts) with
    | some rest =>
      let (n, rest) ← parameterRun fallback limit rest
      return (n + 1, rest)
    | none => return (0, ts)

/-- All parameters of one kind with which tokens begin. -/
def parametersOf (fallback : Fallback) (ts : List Token) : Except Halt (Nat × List Token) :=
  parameterRun hints value fallback ts.length ts

/-- What follows a slash and the comma after it; a colon may stand there as well. -/
def afterSlash? (ts : List Token) : Option (List Token) :=
  if !atSign "/" ts then none
  else if atSign "," (ts.drop 1) then some (ts.drop 2)
  else if atSign ":" (ts.drop 1) then some (ts.drop 1)
  else none

/-- What follows the parameters before a slash, and whether the last one has a value to fall back
on. -/
def slashed? (ts : List Token) : Except Halt (Option (Bool × List Token)) := do
  let (plain, rest) ← parametersOf hints value .without ts
  match afterSlash? rest with
  | some rest => if plain > 0 then return some (false, rest) else return none
  | none =>
    let (given, rest) ← parametersOf hints value .given rest
    return if given > 0 then (afterSlash? rest).map (true, ·) else none

/-- Names with commas between them, and the parenthesis after them. -/
def enclosedNames : (limit : Nat) → List Token → Except Halt Bool
  | 0, _ => .ok false
  | limit + 1, ts => do
    goOn ts
    match ts with
    | ⟨.name n, _, _⟩ :: rest =>
      if reservedWords.contains n then return false
      goOn rest
      if atSign ")" rest then return true
      if !atSign "," rest then return false
      if atSign ")" (rest.drop 1) then return true
      enclosedNames limit (rest.drop 1)
    | _ => return false

/-- What follows a star and its name or a comma. -/
def afterStar? (ts : List Token) : Except Halt (Option (List Token)) :=
  if !atSign "*" ts then .ok none
  else if atSign "," (ts.drop 1) then .ok (some (ts.drop 2))
  else attempt (parameter hints value .without (ts.drop 1))

/-- Looks for the usual slips among parameters. -/
def parameterSlip (ts : List Token) : Except Halt Unit := do
  let (_, rest) ← parametersOf hints value .without ts
  let (given, left) ← parametersOf hints value .given rest
  if given > 0 then
    let left := (afterSlash? left).getD left
    if (← attempt (parameter hints value .without left)).isSome then misplaced .plainAfterDefault
  if atSign "(" rest then
    if ← enclosedNames rest.length (rest.drop 1) then misplaced .parenthesized
  if atSign "/" ts && atSign "," (ts.drop 1) then misplaced .nothingBeforeSlash
  let slashed ← slashed? hints value ts
  if let some (_, rest) := slashed then
    let (_, rest) ← parametersOf hints value .either rest
    if atSign "/" rest then misplaced .slashTwice
  let start := (slashed.map Prod.snd).getD ts
  let (_, rest) ← parametersOf hints value .either start
  if let some rest ← afterStar? hints value rest then
    let (_, rest) ← parametersOf hints value .either rest
    if atSign "/" rest then misplaced .slashAfterStar
  let (count, rest) ← parametersOf hints value .either ts
  if count > 0 && atSign "/" rest && atSign "*" (rest.drop 1) then misplaced .noCommaAfterSlash

/-- What follows two stars and a name, if they are there. -/
def mapParameter (ts : List Token) : Except Halt (List Token) := do
  if !atSign "**" ts then return ts
  if hints && atNamed "=" (ts.drop 1) then misplaced .mapDefault
  if hints && atNamed "," (ts.drop 1) then
    let rest := ts.drop 3
    let isName := match rest with
      | ⟨.name n, _, _⟩ :: _ => !reservedWords.contains n
      | _ => false
    if isName || atSign "*" rest || atSign "**" rest || atSign "/" rest then misplaced .afterMap
  parameter hints value .without (ts.drop 1)

/-- What follows the parameters from a star or two on, if they are there. -/
def starParameters (ts : List Token) : Except Halt (List Token) := do
  if !atSign "*" ts then mapParameter hints value ts
  else
    let rest := ts.drop 1
    if hints then
      let bare := atSign "," rest && (atSign ":" (rest.drop 1) || atSign "**" (rest.drop 1))
      if atSign ":" rest || bare then misplaced .nothingAfterStar
      if atNamed "=" rest then misplaced .starDefault
      if let some rest ← afterStar? hints value ts then
        let (_, rest) ← parametersOf hints value .either rest
        if (← afterStar? hints value rest).isSome then misplaced .starTwice
    match ← afterStar? hints value ts with
    | some after =>
      let (count, left) ← parametersOf hints value .either after
      if atSign "," rest && count = 0 then stuck after
      mapParameter hints value left
    | none => stuck rest

/-- What follows the parameters and the colon after them. -/
def parameters (ts : List Token) : Except Halt (List Token) := do
  if atSign ":" ts then return ts.drop 1
  if hints then parameterSlip hints value ts
  let rest ← match ← slashed? hints value ts with
    | some (true, rest) => pure rest
    | some (false, rest) => (parametersOf hints value .without rest).map Prod.snd
    | none => (parametersOf hints value .without ts).map Prod.snd
  let (_, rest) ← parametersOf hints value .given rest
  pass ":" (← starParameters hints value rest)

end

end DownloadNames.CommandLine.Literal
