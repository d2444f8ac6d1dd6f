import DownloadNames.CommandLine.Literal.Part

/-
What reading an expression gives, and looking at the tokens ahead.
Reading gives a part and the tokens left.  It gets stuck where no expression goes on, which leaves
room for another way to read the tokens; a fault ends it for good.
-/

namespace DownloadNames.CommandLine.Literal

/-- Why reading ends: no expression goes on with the tokens left, or there is a slip. -/
inductive Halt where
  | stuck (left : List Token)
  | fault (fault : Fault)

/-- What a reader gives: a part, and the tokens left. -/
abbrev Reading := Except Halt (Part × List Token)

/-! ## Tokens -/

/-- The words that cannot be names. -/
def reservedWords : List String :=
  ["False", "None", "True", "and", "as", "assert", "async", "await", "break", "class",
    "continue", "def", "del", "elif", "else", "except", "finally", "for", "from", "global", "if",
    "import", "in", "is", "lambda", "nonlocal", "not", "or", "pass", "raise", "return", "try",
    "while", "with", "yield"]

/-- What is wrong with a token that ends all reading: a bracket is open, or it is no token or a
stray backslash. -/
def Token.fault? (t : Token) : Option Fault :=
  match t.shape with
  | .stop (some (c, _)) => some (.neverClosed c)
  | .bad fault => some (.token fault)
  | .backslash => some .backslash
  | _ => none

/-- Goes on, unless the next token ends all reading. -/
def goOn (ts : List Token) : Except Halt Unit :=
  match ts.head?.bind Token.fault? with
  | some fault => .error (.fault fault)
  | none => .ok ()

/-- No expression goes on here. -/
def stuck (ts : List Token) : Except Halt α := do
  goOn ts
  throw (.stuck ts)

/-- A slip, where reading was told to name slips. -/
def slip (hints : Bool) (fault : Fault) (ts : List Token) : Except Halt α :=
  if hints then .error (.fault fault) else stuck ts

/-- What was read before, where reading on got stuck. -/
def orBefore (before : α) (reading : Except Halt α) : Except Halt α :=
  match reading with
  | .error (.stuck _) => .ok before
  | r => r

/-- What was read, or nothing where reading got stuck. -/
def attempt (reading : Except Halt α) : Except Halt (Option α) :=
  orBefore none (reading.map some)

/-- The tokens begin with a sign. -/
def atSign (s : String) : List Token → Bool
  | ⟨.sign t, _, _⟩ :: _ => t == s
  | _ => false

/-- The tokens begin with a word. -/
def atWord (s : String) : List Token → Bool
  | ⟨.name t, _, _⟩ :: _ => t == s
  | _ => false

/-- The tokens begin with a name, and the sign `s` follows it. -/
def atNamed (s : String) : List Token → Bool
  | ⟨.name n, _, _⟩ :: ts => !reservedWords.contains n && atSign s ts
  | _ => false

/-- The tokens begin with a loop of a comprehension. -/
def atLoop (ts : List Token) : Bool :=
  atWord "for" ts || (atWord "async" ts && atWord "for" (ts.drop 1))

/-- The tokens begin with a loop of a comprehension; `async` asks for the token after it. -/
def loopFollows (ts : List Token) : Except Halt Bool := do
  if atWord "async" ts then goOn (ts.drop 1)
  return atLoop ts

/-- Passes a sign. -/
def pass (s : String) (ts : List Token) : Except Halt (List Token) :=
  if atSign s ts then .ok (ts.drop 1) else stuck ts

/-- The last token that was taken from `ts` when `rest` is left. -/
def lastTaken? (ts rest : List Token) : Option Token := (ts.take (ts.length - rest.length)).getLast?

/-- The texts in quotes with which tokens begin. -/
def quotations : List Token → List Quotation × List Token
  | ⟨.quotation q, _, _⟩ :: ts => ((quotations ts).1.cons q, (quotations ts).2)
  | ts => ([], ts)

/-- The signs between the operands of arithmetic. -/
def arithmeticSigns : List String :=
  ["+", "-", "*", "/", "//", "%", "@", "**", "&", "|", "^", "<<", ">>"]

/-- What follows a sign between operands of arithmetic, and the sign. -/
def arithmeticSign? : List Token → Option (String × List Token)
  | ⟨.sign s, _, _⟩ :: ts => if arithmeticSigns.contains s then some (s, ts) else none
  | _ => none

/-- What follows a sign or words of a comparison. -/
def comparison? : List Token → Option (List Token)
  | ⟨.sign s, _, _⟩ :: ts =>
    if ["==", "!=", "<", ">", "<=", ">="].contains s then some ts else none
  | ⟨.name "in", _, _⟩ :: ts => some ts
  | ⟨.name "not", _, _⟩ :: ⟨.name "in", _, _⟩ :: ts => some ts
  | ⟨.name "is", _, _⟩ :: ⟨.name "not", _, _⟩ :: ts => some ts
  | ⟨.name "is", _, _⟩ :: ts => some ts
  | _ => none

/-- A name with which a word may begin that is one in some places only. -/
def beginsWord (n : String) : Bool :=
  ["_", "case", "match"].any fun w => Text.beginsWith n.toList w.toList

/-- A text follows a name, or the name may stand for more than itself. -/
def hidesComma : List Token → Bool
  | ⟨.name n, _, _⟩ :: ⟨.quotation _, _, _⟩ :: _ => !reservedWords.contains n || beginsWord n
  | ⟨.name n, _, _⟩ :: _ => beginsWord n
  | _ => false

/-- The name of a command that used to do without parentheses. -/
def oldCommand? (part : Part) : Option String :=
  match part.noun with
  | .name n => if n == "print" || n == "exec" then some n else none
  | _ => none

/-- What a call has been given so far: values alone, one with a name, or a mapping. -/
inductive CallStage where
  | values
  | named
  | unpacked
deriving DecidableEq, Repr

/-- The slip of giving a value to a part among the arguments of a call that begin with `ts`. -/
def assignedIn (part : Part) (ts : List Token) : Fault :=
  match part.noun with
  | .constant _ => if atSign "=" (ts.drop 1) then .notTarget part.noun else .assignmentInCall
  | _ => .assignmentInCall

/-- The slip to name where reading with hints has found none: an open bracket on an earlier line
goes before all. -/
def slipOf (left : List Token) (unclosed : Option (Char × Nat)) (slip : Fault) : Fault :=
  match left.head?, unclosed with
  | some token, some (c, line) => if token.line > line then .neverClosed c else slip
  | _, _ => slip

/-- The bracket that is open at the end, with its line. -/
def unclosed? (ts : List Token) : Option (Char × Nat) :=
  match ts.getLast? with
  | some ⟨.stop unclosed, _, _⟩ => unclosed
  | _ => none

end DownloadNames.CommandLine.Literal
