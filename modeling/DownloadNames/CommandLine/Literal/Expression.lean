import DownloadNames.CommandLine.Literal.Parameter

/-
Expressions, and which of them are literals.
A literal is a number, a text, one of a few constants, or a collection of literals.  An
expression that is none is read all the same, since what is wrong with a text is told by the
token at which no expression goes on.  With `hints` the reader also looks for the usual slips,
a comma or a colon left out or a single `=` for a comparison, and names the first one.
-/

namespace DownloadNames.CommandLine.Literal

/-! ## Expressions -/

mutual

/-- A conditional expression, a function without a name, or a single one. -/
def expression (hints : Bool) : (fuel : Nat) → List Token → Reading
  | 0, ts => .error (.stuck ts)
  | fuel + 1, ts => expressionOf hints hints fuel ts

/-- An expression; `inner` says whether slips are looked for in its parts. -/
def expressionOf (hints inner : Bool) : (fuel : Nat) → List Token → Reading
  | 0, ts => .error (.stuck ts)
  | fuel + 1, ts => do
    if atWord "lambda" ts then
      let value (ts : List Token) : Reading := expression inner fuel ts
      let rest ← parameters hints value (ts.drop 1)
      let (_, rest) ← expression inner fuel rest
      return (.unknown .lambda, rest)
    let (part, rest) ← disjunction inner fuel ts
    if hints && !hidesComma ts then missingComma fuel part rest
    let condition ← if atWord "if" rest then attempt (disjunction inner fuel (rest.drop 1))
      else pure none
    let after? := condition.map Prod.snd
    if hints then
      if after?.any fun after => !atWord "else" after && !atSign ":" after then
        throw (.fault .missingElse)
      missingParentheses fuel ts
    match after? with
    | some after =>
      if !atWord "else" after then return (part, rest)
      orBefore (part, rest) <| (expression inner fuel (after.drop 1)).map fun (_, rest) =>
        (.unknown .conditional, rest)
    | none => return (part, rest)

/-- Looks for another expression in brackets right after a part. -/
def missingComma : (fuel : Nat) → Part → (rest : List Token) → Except Halt Unit
  | 0, _, _ => .ok ()
  | fuel + 1, part, rest => do
    match ← attempt (expression false fuel rest) with
    | some (_, after) =>
      if (oldCommand? part).isNone && (lastTaken? rest after).any (·.depth ≠ 0) then
        .error (.fault .missingComma)
    | none => return ()

/-- Looks for a name and what it is used on without parentheses.  Where a comma was looked for
between the two, the parts of what follows were read without hints. -/
def missingParentheses : (fuel : Nat) → List Token → Except Halt Unit
  | 0, _ => .ok ()
  | fuel + 1, ts => do
    match ts with
    | ⟨.name n, _, _⟩ :: rest =>
      if !reservedWords.contains n && !atSign "(" rest then
        if (← attempt (choice true (hidesComma ts) fuel rest)).isSome then
          if (oldCommand? (.unknown (.name n))).isSome then
            .error (.fault (.missingParentheses n))
    | _ => return ()

/-- Parts with `or` and `and` between them. -/
def disjunction (hints : Bool) : (fuel : Nat) → List Token → Reading
  | 0, ts => .error (.stuck ts)
  | fuel + 1, ts => do
    let (part, rest) ← inversion hints fuel ts
    if atWord "or" rest || atWord "and" rest then
      orBefore (part, rest) <| (disjunction hints fuel (rest.drop 1)).map fun (_, rest) =>
        (.unknown .operation, rest)
    else return (part, rest)

/-- A comparison, perhaps after `not`. -/
def inversion (hints : Bool) : (fuel : Nat) → List Token → Reading
  | 0, ts => .error (.stuck ts)
  | fuel + 1, ts =>
    if atWord "not" ts then do
      let (_, rest) ← inversion hints fuel (ts.drop 1)
      return (.unknown .operation, rest)
    else comparison hints fuel ts

/-- Parts that are compared. -/
def comparison (hints : Bool) : (fuel : Nat) → List Token → Reading
  | 0, ts => .error (.stuck ts)
  | fuel + 1, ts => do
    let (part, rest) ← arithmetic hints fuel ts
    match comparison? rest with
    | some after => orBefore (part, rest) <| (comparison hints fuel after).map fun (_, left) =>
      (part.compared (atWord "in" rest), left)
    | none =>
      if atWord "not" rest then goOn (rest.drop 1)
      return (part, rest)

/-- Operands with signs between them. -/
def arithmetic (hints : Bool) : (fuel : Nat) → List Token → Reading
  | 0, ts => .error (.stuck ts)
  | fuel + 1, ts => do
    let (left, rest) ← operand hints fuel ts
    match arithmeticSign? rest with
    | some (sign, after) =>
      orBefore (left, rest) <| (arithmetic hints fuel after).map fun (right, rest) =>
        (.known .operation (sumValue left sign right), rest)
    | none => return (left, rest)

/-- A part with signs before it. -/
def operand (hints : Bool) : (fuel : Nat) → List Token → Reading
  | 0, ts => .error (.stuck ts)
  | fuel + 1, ts =>
    match ts with
    | ⟨.sign s, _, _⟩ :: rest =>
      if s == "+" || s == "-" || s == "~" then do
        let (part, rest) ← operand hints fuel rest
        return (.known .operation (signedValue s part), rest)
      else primary hints fuel ts
    | _ =>
      if atWord "await" ts then do
        let (_, rest) ← primary hints fuel (ts.drop 1)
        return (.unknown .awaited, rest)
      else primary hints fuel ts

/-- A part with what is attached to it. -/
def primary (hints : Bool) : (fuel : Nat) → List Token → Reading
  | 0, ts => .error (.stuck ts)
  | fuel + 1, ts => do
    let (part, rest) ← atom hints fuel ts
    trailers hints fuel part rest

/-- A part with attributes and calls after it. -/
def trailers (hints : Bool) : (fuel : Nat) → Part → List Token → Reading
  | 0, _, ts => .error (.stuck ts)
  | fuel + 1, part, ts => do
    goOn ts
    match ts with
    | ⟨.sign ".", _, _⟩ :: ⟨.name n, _, _⟩ :: rest =>
      if reservedWords.contains n then return (part, ts)
      else trailers hints fuel (.unknown .attribute) rest
    | ⟨.sign ".", _, _⟩ :: rest => do
      goOn rest
      return (part, ts)
    | ⟨.sign "(", _, _⟩ :: ⟨.sign ")", _, _⟩ :: rest =>
      let value := if part.noun = .name "set" then .ok (.collection (some .set))
        else .error .notLiteral
      trailers hints fuel (.known .call value) rest
    | ⟨.sign "(", _, _⟩ :: rest =>
      match ← attempt (call hints fuel rest) with
      | some rest => trailers hints fuel (.unknown .call) rest
      | none => return (part, ts)
    | ⟨.sign s, _, _⟩ :: rest =>
      if hints && (s == "[" || s == "\x7b") then looseComprehension fuel rest
      return (part, ts)
    | _ => return (part, ts)

/-- A part in brackets, or a single token. -/
def atom (hints : Bool) : (fuel : Nat) → List Token → Reading
  | 0, ts => .error (.stuck ts)
  | fuel + 1, ts =>
    match ts with
    | ⟨.name n, _, _⟩ :: rest =>
      if n == "True" || n == "False" || n == "None" then
        return (.known (.constant n) (.ok .plain), rest)
      else if reservedWords.contains n then stuck ts
      else return (.unknown (.name n), rest)
    | ⟨.number imaginary, _, _⟩ :: rest =>
      return (.known .literal (.ok (.number false imaginary)), rest)
    | ⟨.quotation _, _, _⟩ :: _ => do
      let (found, rest) := quotations ts
      goOn rest
      let isPattern ← joined fuel none found
      return (if isPattern then .unknown .pattern else .known .literal (.ok .plain), rest)
    | ⟨.sign "...", _, _⟩ :: rest => return (.known .ellipsis (.ok .plain), rest)
    | ⟨.sign "(", _, _⟩ :: ⟨.sign ")", _, _⟩ :: rest => return (.tuple [], rest)
    | ⟨.sign "(", _, _⟩ :: rest => do
      match group hints fuel rest with
      | .error (.stuck left) =>
        if hints then starredSlip true fuel rest
        stuck left
      | r => r
    | ⟨.sign "[", _, _⟩ :: ⟨.sign "]", _, _⟩ :: rest => return (.list [], rest)
    | ⟨.sign "[", _, _⟩ :: rest => do
      let (parts, left) ← elements hints fuel "]" rest
      return (.list parts, left)
    | ⟨.sign "\x7b", _, _⟩ :: ⟨.sign "\x7d", _, _⟩ :: rest =>
      return (.known .mapping (mappingValue []), rest)
    | ⟨.sign "\x7b", _, _⟩ :: rest => do
      match braces hints fuel rest with
      | .error (.stuck left) =>
        if hints then starredSlip false fuel rest
        stuck left
      | r => r
    | _ => stuck ts

/-- Texts in quotes, after some that are all of characters or all of bytes, are one text; whether
it has parts to be filled in. -/
def joined : (fuel : Nat) → (before : Option Bool) → List Quotation → Except Halt Bool
  | 0, _, _ => .ok false
  | _ + 1, _, [] => .ok false
  | fuel + 1, before, q :: qs => do
    if let .bad fault := q then throw (.fault (.badQuotation fault))
    let bytes := q == .bytes
    if before.any (· != bytes) then throw (.fault .mixedText)
    match q with
    | .pattern raw content =>
      filled fuel (demands raw content)
      discard <| joined fuel (some bytes) qs
      return true
    | _ => joined fuel (some bytes) qs

/-- Reads what the parts of a text have to be. -/
def filled : (fuel : Nat) → List Demand → Except Halt Unit
  | 0, _ => .ok ()
  | _ + 1, [] => .ok ()
  | fuel + 1, demand :: more => do
    match demand with
    | .never fault => throw (.fault (.pattern fault))
    | .escapes p =>
      if let some fault := badEscape? 0 0 p then throw (.fault (.badQuotation fault))
    | .expression p =>
      let ts := tokens ('(' :: p ++ [')'])
      match badToken? ts with
      | some fault => throw (.fault (.token fault))
      | none =>
        match expression false fuel ts with
        | .ok _ => pure ()
        | .error (.fault fault) => throw (.fault (.inPattern fault))
        | .error (.stuck left) =>
          let fault := match expression true fuel ts with
            | .error (.fault fault) => fault
            | _ => .invalid
          throw (.fault (.inPattern (slipOf left (unclosed? ts) fault)))
    filled fuel more

/-- What stands in parentheses, which are passed: a single part, a tuple or a comprehension. -/
def group (hints : Bool) : (fuel : Nat) → List Token → Reading
  | 0, ts => .error (.stuck ts)
  | fuel + 1, ts => do
    if atWord "yield" ts then
      let rest ← pass ")" (← yielded hints fuel (ts.drop 1))
      return (.unknown .yielded, rest)
    let (first, rest) ← element hints fuel ts
    if atSign "," rest then
      let (more, rest) ← moreElements hints fuel ")" rest
      return (.tuple (first :: more), rest)
    else if first.noun = .starred then stuck rest
    else if ← loopFollows rest then
      let rest ← pass ")" (← loops hints fuel rest)
      return (.unknown .generator, rest)
    else
      let rest ← pass ")" rest
      return (first, rest)

/-- Looks for what is wrong with a part that has a star, or two of them in parentheses: it stands
alone in parentheses, or it begins a comprehension. -/
def starredSlip (inGroup : Bool) : (fuel : Nat) → List Token → Except Halt Unit
  | 0, _ => .ok ()
  | fuel + 1, ts => do
    let rest := ts.drop 1
    if atSign "*" ts || (inGroup && atSign "**" ts) then
      let begins ← if atSign "**" ts || atWord "not" rest || atWord "lambda" rest then pure true
        else (attempt (arithmetic false fuel rest)).map Option.isSome
      if begins then
        if let some (_, rest) ← attempt (expression true fuel rest) then
          if inGroup && atSign ")" rest then
            throw (.fault (if atSign "*" ts then .starInGroup else .doubleStarInGroup))
          if atSign "*" ts then
            if ← hasLoops fuel rest then throw (.fault .starredComprehension)

/-- Looks for a comprehension of elements with a star among the arguments of a call. -/
def starredArguments : (fuel : Nat) → List Token → Except Halt Unit
  | 0, _ => .ok ()
  | fuel + 1, ts => do
    if atSign "*" ts then
      if let some (_, rest) ← attempt (expression false fuel (ts.drop 1)) then
        if ← loopFollows rest then
          discard <| expression true fuel (ts.drop 1)
          if ← hasLoops fuel rest then throw (.fault .starredComprehension)

/-- What follows `yield`. -/
def yielded (hints : Bool) : (fuel : Nat) → List Token → Except Halt (List Token)
  | 0, ts => .error (.stuck ts)
  | fuel + 1, ts => do
    if atWord "from" ts then
      let (_, rest) ← expression hints fuel (ts.drop 1)
      return rest
    else return ((← attempt (choice hints hints fuel ts)).map Prod.snd).getD ts

/-- Expressions with commas between them, each perhaps with a star before it; `inner` says whether
slips are looked for in the parts of the first one. -/
def choice (hints inner : Bool) : (fuel : Nat) → List Token → Reading
  | 0, ts => .error (.stuck ts)
  | fuel + 1, ts => do
    let (part, rest) ← if atSign "*" ts then do
        let (part, rest) ← arithmetic inner fuel (ts.drop 1)
        pure (part.starred, rest)
      else expressionOf hints inner fuel ts
    if atSign "," rest then
      match ← attempt (choice hints hints fuel (rest.drop 1)) with
      | some (more, rest) => return (.tuple [part, more], rest)
      | none => return (.tuple [part], rest.drop 1)
    else return (part, rest)

/-- The loops of a comprehension, each with its conditions. -/
def loops (hints : Bool) : (fuel : Nat) → List Token → Except Halt (List Token)
  | 0, ts => .error (.stuck ts)
  | fuel + 1, ts => do
    let ts := (if atWord "async" ts then ts.drop 1 else ts).drop 1
    let left ← match ← attempt (targets hints fuel ts) with
      | some rest => if atWord "in" rest then pure rest else badTarget hints fuel ts rest
      | none => badTarget hints fuel ts ts
    let (_, rest) ← disjunction hints fuel (left.drop 1)
    let rest ← conditions hints fuel rest
    if ← loopFollows rest then orBefore rest (loops hints fuel rest) else return rest

/-- Whether loops of a comprehension follow. -/
def hasLoops : (fuel : Nat) → List Token → Except Halt Bool
  | 0, _ => .ok false
  | fuel + 1, ts =>
    if atLoop ts then (attempt (loops true fuel ts)).map Option.isSome else .ok false

/-- Looks for what is to blame among things that a loop would give values to. -/
def badTarget (hints : Bool) : (fuel : Nat) → (ts left : List Token) → Except Halt (List Token)
  | 0, _, left => .error (.stuck left)
  | fuel + 1, ts, left => do
    if hints then
      match ← attempt (choice true true fuel ts) with
      | some (⟨_, _, .no (some culprit)⟩, _) => throw (.fault (.notTarget culprit))
      | _ => pure ()
    stuck left

/-- The conditions of a loop. -/
def conditions (hints : Bool) : (fuel : Nat) → List Token → Except Halt (List Token)
  | 0, ts => .ok ts
  | fuel + 1, ts => do
    if atWord "if" ts then
      match ← attempt (disjunction hints fuel (ts.drop 1)) with
      | some (_, rest) => conditions hints fuel rest
      | none => return ts
    else return ts

/-- What a loop gives values to. -/
def targets (hints : Bool) : (fuel : Nat) → List Token → Except Halt (List Token)
  | 0, ts => .error (.stuck ts)
  | fuel + 1, ts => do
    let (part, rest) ← primary hints fuel (if atSign "*" ts then ts.drop 1 else ts)
    if part.assignable ≠ .yes then stuck rest
    if atSign "," rest then orBefore (rest.drop 1) (targets hints fuel (rest.drop 1))
    else return rest

/-- Looks for a comprehension of elements with a star, or of several elements without parentheses
around them, after a bracket. -/
def looseComprehension : (fuel : Nat) → List Token → Except Halt Unit
  | 0, _ => .ok ()
  | fuel + 1, ts => do
    starredSlip false fuel ts
    discard <| attempt <| elements true fuel "]" ts

/-- What stands in braces, which are passed: a mapping, a set or a comprehension. -/
def braces (hints : Bool) : (fuel : Nat) → List Token → Reading
  | 0, ts => .error (.stuck ts)
  | fuel + 1, ts => do
    if atSign "**" ts then
      let (part, rest) ← arithmetic hints fuel (ts.drop 1)
      if hints && atLoop rest then
        match ← attempt (loops hints fuel rest) with
        | some after => if atSign "\x7d" after then throw (.fault .unpackedComprehension)
        | none => pure ()
      let (found, rest) ← moreEntries hints fuel rest
      return (.known .mapping (mappingValue ((none, part) :: found)), rest)
    let (first, rest) ← if atSign "*" ts then element hints fuel ts else expression hints fuel ts
    if first.noun ≠ .starred && atSign ":" rest then
      let (value, rest) ← entryValue hints fuel (rest.drop 1)
      if ← loopFollows rest then
        let rest ← pass "\x7d" (← loops hints fuel rest)
        return (.unknown .mappingComprehension, rest)
      let (found, rest) ← moreEntries hints fuel rest
      return (.known .mapping (mappingValue ((some first, value) :: found)), rest)
    let (first, rest) ← if first.noun = .starred then pure (first, rest)
      else elementAfter hints fuel first ts rest
    if ← loopFollows rest then
      if first.noun = .starred then stuck rest
      let rest ← pass "\x7d" (← loops hints fuel rest)
      return (.unknown .setComprehension, rest)
    let (more, rest) ← moreElements hints fuel "\x7d" rest
    return (.known .set (setValue (first :: more)), rest)

/-- An element of a collection, perhaps with a star before it. -/
def element (hints : Bool) : (fuel : Nat) → List Token → Reading
  | 0, ts => .error (.stuck ts)
  | fuel + 1, ts =>
    if atSign "*" ts then do
      let (part, rest) ← arithmetic hints fuel (ts.drop 1)
      return (part.starred, rest)
    else do
      let (part, rest) ← expression hints fuel ts
      elementAfter hints fuel part ts rest

/-- An element that begins with a part read from `ts`: the part may be a name for what follows
`:=`. -/
def elementAfter (hints : Bool) : (fuel : Nat) → Part → (ts rest : List Token) → Reading
  | 0, _, ts, _ => .error (.stuck ts)
  | fuel + 1, part, ts, rest => do
    if atSign ":=" rest then
      if atNamed ":=" ts then
        let (_, rest) ← expression hints fuel (rest.drop 1)
        return (.unknown .named, rest)
      if hints then
        if (← attempt (expression hints fuel (rest.drop 1))).isSome then
          throw (.fault (.namedTarget part.noun))
      stuck rest
    if hints && atSign "=" rest then
      let fault? ← if atNamed "=" ts then pure (some .assignment)
        else (comparedTarget? fuel ts).map fun noun? => noun?.map .assignmentTo
      if let some fault := fault? then
        if let some (_, after) ← attempt (arithmetic hints fuel (rest.drop 1)) then
          if !atSign "=" after && !atSign ":=" after then throw (.fault fault)
      stuck rest
    return (part, rest)

/-- What stands before a `=` that may be meant as a comparison, if that begins with no tuple, no
list, no comprehension and no constant. -/
def comparedTarget? : (fuel : Nat) → List Token → Except Halt (Option Noun)
  | 0, _ => .ok none
  | fuel + 1, ts => do
    if ["True", "False", "None"].any fun n => atWord n ts then return none
    if atSign "[" ts then return none
    if atSign "(" ts && !atWord "yield" (ts.drop 1) then
      match ← attempt (element false fuel (ts.drop 1)) with
      | some (_, rest) => if !atSign ")" rest then return none
      | none => return none
    match ← attempt (arithmetic false fuel ts) with
    | some (part, rest) => return if atSign "=" rest then some part.noun else none
    | none => return none

/-- Elements up to a closing bracket, which is passed. -/
def elements (hints : Bool) : (fuel : Nat) → (close : String) → List Token →
    Except Halt (List Part × List Token)
  | 0, _, ts => .error (.stuck ts)
  | fuel + 1, close, ts => do
    let (part, rest) ← element hints fuel ts
    let (parts, rest) ← moreElements hints fuel close rest
    return (part :: parts, rest)

/-- What follows an element up to a closing bracket, which is passed. -/
def moreElements (hints : Bool) : (fuel : Nat) → (close : String) → List Token →
    Except Halt (List Part × List Token)
  | 0, _, ts => .error (.stuck ts)
  | fuel + 1, close, ts => do
    if atSign "," ts then
      let rest := ts.drop 1
      if atSign close rest then return ([], rest.drop 1)
      if hints && close ≠ ")" then
        if ← hasLoops fuel rest then throw (.fault .bareTargets)
      let (part, rest) ← element hints fuel rest
      if hints && close ≠ ")" then
        if ← hasLoops fuel rest then throw (.fault .bareTargets)
      let (parts, rest) ← moreElements hints fuel close rest
      return (part :: parts, rest)
    return ([], ← pass close ts)

/-- Entries of a mapping up to the closing bracket, which is passed. -/
def entries (hints : Bool) : (fuel : Nat) → List Token →
    Except Halt (List (Option Part × Part) × List Token)
  | 0, ts => .error (.stuck ts)
  | fuel + 1, ts => do
    if atSign "**" ts then
      let (part, rest) ← arithmetic hints fuel (ts.drop 1)
      let (found, rest) ← moreEntries hints fuel rest
      return ((none, part) :: found, rest)
    let (key, rest) ← expression hints fuel ts
    if !atSign ":" rest then
      goOn rest
      throw (.fault .missingColon)
    let (value, rest) ← entryValue hints fuel (rest.drop 1)
    let (found, rest) ← moreEntries hints fuel rest
    return ((some key, value) :: found, rest)

/-- What follows an entry up to the closing bracket, which is passed. -/
def moreEntries (hints : Bool) : (fuel : Nat) → List Token →
    Except Halt (List (Option Part × Part) × List Token)
  | 0, ts => .error (.stuck ts)
  | fuel + 1, ts =>
    if atSign "," ts then
      let rest := ts.drop 1
      if atSign "\x7d" rest then return ([], rest.drop 1) else entries hints fuel rest
    else (pass "\x7d" ts).map ([], ·)

/-- The value of an entry. -/
def entryValue (hints : Bool) : (fuel : Nat) → List Token → Reading
  | 0, ts => .error (.stuck ts)
  | fuel + 1, ts =>
    if atSign "*" ts then do
      discard <| arithmetic hints fuel (ts.drop 1)
      .error (.fault .starredValue)
    else if atSign "\x7d" ts || atSign "," ts then .error (.fault .missingValue)
    else expression hints fuel ts

/-- The arguments of a call up to the closing bracket, which is passed. -/
def call (hints : Bool) : (fuel : Nat) → List Token → Except Halt (List Token)
  | 0, ts => .error (.stuck ts)
  | fuel + 1, ts => do
    if hints then starredArguments fuel ts
    let (count, stage, rest) ← arguments hints fuel .values ts
    let after := if atSign "," rest then rest.drop 1 else rest
    if atSign ")" after then return after.drop 1
    let alone := stage = .values && count = 1 && !atSign "*" ts
    let looped ← if hints || alone then
        if ← loopFollows rest then attempt (loops hints fuel rest) else pure none
      else pure none
    match looped with
    | some left =>
      if alone && atSign ")" left then return left.drop 1
      if hints && alone && atSign "," left && !atNamed ":=" ts then
        discard <| attempt (arguments hints fuel .values (left.drop 1))
        throw (.fault .bareGenerator)
      if hints && count ≥ 2 then throw (.fault .bareGenerator)
    | none => pure ()
    if hints && atSign "," rest then
      if atSign "*" after then throw (.fault .starAfterUnpacked)
      if let some (_, left) ← attempt (expression hints fuel after) then
        if ← hasLoops fuel left then throw (.fault .bareGenerator)
      if (← attempt (arguments hints fuel .values after)).isSome then
        throw (.fault (.afterNamed (stage == .unpacked)))
    stuck after

/-- Arguments of a call as far as they go on: how many have no name, what the call has been given
with them, and what follows. -/
def arguments (hints : Bool) : (fuel : Nat) → CallStage → List Token →
    Except Halt (Nat × CallStage × List Token)
  | 0, _, ts => .error (.stuck ts)
  | fuel + 1, stage, ts => do
    let (count, stage, rest) ← argument hints fuel stage ts
    if atSign "," rest then
      orBefore (count, stage, rest) <| (arguments hints fuel stage (rest.drop 1)).map
        fun (more, stage, rest) => (count + more, stage, rest)
    else return (count, stage, rest)

/-- An argument of a call: whether it counts as one without a name, what the call has been given
with it, and what follows. -/
def argument (hints : Bool) : (fuel : Nat) → CallStage → List Token →
    Except Halt (Nat × CallStage × List Token)
  | 0, _, ts => .error (.stuck ts)
  | fuel + 1, stage, ts => do
    if atSign "**" ts then
      let (_, rest) ← expression hints fuel (ts.drop 1)
      return (0, .unpacked, rest)
    if atSign "*" ts then
      if stage = .unpacked then stuck ts
      let (_, rest) ← expression hints fuel (ts.drop 1)
      return (1, stage, rest)
    if atNamed "=" ts then
      let (_, rest) ← expression hints fuel (ts.drop 2)
      if hints then
        if ← hasLoops fuel rest then throw (.fault .assignment)
      return (0, if stage = .unpacked then .unpacked else .named, rest)
    if stage = .values then
      if atNamed ":=" ts then
        let (_, rest) ← expression hints fuel (ts.drop 2)
        if atSign "=" rest then stuck rest
        return (1, stage, rest)
      let (part, rest) ← expression hints fuel ts
      if atSign "=" rest then slip hints (assignedIn part ts) rest
      if atSign ":=" rest then stuck rest
      return (1, stage, rest)
    if hints then
      if let some (part, rest) ← attempt (expression hints fuel ts) then
        if atSign "=" rest then throw (.fault (assignedIn part ts))
    stuck ts

end

/-! ## Texts -/

/-- The tokens are at the end of the text. -/
def isEnd (ts : List Token) : Bool :=
  match ts.dropWhile (·.shape == .lineEnd) with
  | ⟨.stop none, _, _⟩ :: _ => true
  | _ => false

/-- Expressions with commas between them up to the end of a text. -/
def whole (hints : Bool) (fuel : Nat) : (limit : Nat) → List Token →
    Except Halt (List Part × Bool)
  | 0, ts => .error (.stuck ts)
  | limit + 1, ts => do
    let (part, rest) ← expression hints fuel ts
    if atSign "," rest then
      let rest := rest.drop 1
      if isEnd rest then return ([part], true)
      else if rest.head?.any (·.shape == .lineEnd) then stuck (rest.dropWhile (·.shape == .lineEnd))
      else
        let (parts, _) ← whole hints fuel limit rest
        return (part :: parts, true)
    else if isEnd rest then return ([part], false)
    else stuck (rest.dropWhile (·.shape == .lineEnd))

/-- The fault of a text that is no literal, if it is none.  A line that is indented for no reason
goes before what is no token, and that before all else. -/
def fault? (s : Text) : Option Fault :=
  let ts := tokens s
  let fuel := 16 * s.length + 64
  let found := whole false fuel ts.length ts
  let left := match found with
    | .error (.stuck left) => left
    | _ => []
  if s.contains (Char.ofNat 0) then some .nullCharacter
  else if left.head?.any (·.shape == .indent) then some .indented
  else if let some fault := badToken? ts then some (.token fault)
  else match found with
    | .ok ([part], false) => match part.value with
      | .error fault => some fault
      | .ok _ => none
    | .ok (parts, _) => match tupleValue parts with
      | .error fault => some fault
      | .ok _ => none
    | .error (.fault fault) => some fault
    | .error (.stuck left) =>
      match whole true fuel ts.length ts with
      | .error (.fault fault) => some (slipOf left (unclosed? ts) fault)
      | _ => some (slipOf left (unclosed? ts) .invalid)

end DownloadNames.CommandLine.Literal
