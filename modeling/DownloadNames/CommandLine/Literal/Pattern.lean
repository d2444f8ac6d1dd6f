import DownloadNames.CommandLine.Literal.Token

/-
Texts with parts to be filled in.
A part stands in braces: an expression, perhaps followed by `=`, by `!` and a letter, and by `:`
and a format, which may hold parts itself.  Outside of formats a brace that is written twice
stands for itself.  What such a text demands is listed in the order in which it stands there.
-/

namespace DownloadNames.CommandLine.Literal

/-- Why the parts of a text cannot be told. -/
inductive BadPattern where
  | loneClose
  | neverClosed
  | tooDeep
  | tooManyBrackets
  | backslash
  | comment
  | openText
  | unmatched (bracket : Char)
  | mismatched (close : Char) (opened : Char)
  | empty
  | emptyBefore (c : Char)
  | conversion
deriving DecidableEq, Repr

/-- What a text demands: that a piece has no bad escape, that a part is an expression, or what
cannot be. -/
inductive Demand where
  | escapes (piece : Text)
  | expression (part : Text)
  | never (fault : BadPattern)
deriving DecidableEq, Repr

/-! ## Pieces between parts -/

/-- Where in a piece a character stands. -/
inductive PieceState where
  | plain
  | escaped
  | beforeName
  | inName
deriving DecidableEq, Repr

/-- How a piece ends, and what is left: the brace at which a part begins or a format ends stays. -/
inductive PieceEnd where
  | whole
  | loneClose
  | doubled (rest : Text)
  | brace (rest : Text)
deriving DecidableEq, Repr

/-- The piece with which a text begins, and its end. -/
def piece (raw inFormat : Bool) : PieceState → Text → Text × PieceEnd
  | _, [] => ([], .whole)
  | state, c :: cs =>
    let next (state : PieceState) : Text × PieceEnd :=
      let (p, stop) := piece raw inFormat state cs
      (c :: p, stop)
    match state with
    | .inName => next (if c == '\x7d' then .plain else .inName)
    | .beforeName => next (if c == '\x7b' then .inName else .plain)
    | _ =>
      if state == .plain && !raw && c == '\\' && cs ≠ [] then next .escaped
      else if state == .escaped && c == 'N' then next .beforeName
      else if c == '\x7b' || c == '\x7d' then
        if !inFormat && cs.head? == some c then ([c], .doubled (cs.drop 1))
        else if !inFormat && c == '\x7d' then ([], .loneClose)
        else ([], .brace (c :: cs))
      else next .plain

/-! ## Parts -/

/-- The expression of a part, and what follows it: the sign that ends it stays.  Signs in brackets
or in quotes end nothing, and neither do signs of comparisons. -/
def partExpression : (opened : List Char) → (quotes : Option (Char × Bool)) → (skip : Nat) →
    Text → Except BadPattern (Text × Text)
  | opened, quotes, _, [] =>
    if quotes.isSome then .error .openText
    else match opened with
      | o :: _ => .error (.unmatched o)
      | [] => .error .neverClosed
  | opened, quotes, skip + 1, c :: cs =>
    (partExpression opened quotes skip cs).map fun (e, rest) => (c :: e, rest)
  | opened, quotes, 0, c :: cs =>
    let next (opened : List Char) (quotes : Option (Char × Bool)) (skip : Nat) :
        Except BadPattern (Text × Text) :=
      (partExpression opened quotes skip cs).map fun (e, rest) => (c :: e, rest)
    if c == '\\' then .error .backslash
    else match quotes with
      | some (q, long) =>
        if c ≠ q then next opened quotes 0
        else if !long then next opened none 0
        else if cs.take 2 == [q, q] then next opened none 2
        else next opened quotes 0
      | none =>
        if c == '\'' || c == '"' then
          if cs.take 2 == [c, c] then next opened (some (c, true)) 2
          else next opened (some (c, false)) 0
        else if ['(', '[', '\x7b'].contains c then
          if opened.length ≥ 200 then .error .tooManyBrackets else next (c :: opened) none 0
        else if c == '#' then .error .comment
        else if opened == [] && ['!', ':', '\x7d', '=', '<', '>'].contains c then
          if ['!', '=', '<', '>'].contains c && cs.head? == some '=' then next opened none 1
          else if c == '<' || c == '>' then next opened none 0
          else .ok ([], c :: cs)
        else if [')', ']', '\x7d'].contains c then
          match opened with
          | [] => .error (.unmatched c)
          | o :: os => if partner o = c then next os none 0 else .error (.mismatched c o)
        else next opened none 0

/-- A character that is passed over in front of an expression. -/
def isPadding (c : Char) : Bool := isGap c || c == '\n'

/-- What follows the signs with which an expression is shown: `=`, and `!` with a letter. -/
def afterShown (s : Text) : Except BadPattern Text :=
  let s := if s.head? == some '=' then
      (s.drop 1).dropWhile fun c => isPadding c || c == '\r' || c.toNat == 11
    else s
  match s with
  | ['!'] => .error .neverClosed
  | '!' :: c :: rest => if ['s', 'r', 'a'].contains c then .ok rest else .error .conversion
  | _ => .ok s

/-- What is wrong with the expression of a part before it is read. -/
def emptyPart? (part rest : Text) : Option BadPattern :=
  if part.any fun c => !isPadding c then none
  else match rest.head? with
    | some c => some (if ['!', ':', '='].contains c then .emptyBefore c else .empty)
    | none => some .empty

/-- What a text demands, and what is left of it; `depth` counts the formats around it, which end
at a closing brace. -/
def demandsIn (raw : Bool) : (fuel : Nat) → (depth : Nat) → Text → List Demand × Text
  | 0, _, s => ([], s)
  | fuel + 1, depth, s =>
    let (p, stop) := piece raw (depth > 0) .plain s
    let found := if raw || p == [] then [] else [Demand.escapes p]
    let never (fault : BadPattern) : List Demand × Text := ([.never fault], [])
    let before (demands : List Demand) (more : List Demand × Text) : List Demand × Text :=
      (demands ++ more.1, more.2)
    match stop with
    | .whole => (found, [])
    | .loneClose => never .loneClose
    | .doubled rest => before found (demandsIn raw fuel depth rest)
    | .brace ('\x7d' :: rest) => (found, '\x7d' :: rest)
    | .brace s =>
      if depth ≥ 2 then before found (never .tooDeep)
      else match partExpression [] none 0 (s.drop 1) with
        | .error fault => before found (never fault)
        | .ok (part, rest) =>
          match emptyPart? part rest with
          | some fault => before found (never fault)
          | none =>
            let found := found ++ [.expression part]
            match afterShown rest with
            | .error fault => before found (never fault)
            | .ok rest =>
              let (format, rest) := match rest with
                | ':' :: rest => demandsIn raw fuel (depth + 1) rest
                | _ => ([], rest)
              let found := found ++ format
              match rest with
              | '\x7d' :: rest => before found (demandsIn raw fuel depth rest)
              | _ => before found (never .neverClosed)

/-- What a text demands. -/
def demands (raw : Bool) (content : Text) : List Demand :=
  (demandsIn raw (content.length + 1) 0 content).1

end DownloadNames.CommandLine.Literal
