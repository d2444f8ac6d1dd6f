import DownloadNames.Text.Digit
import DownloadNames.Text.Printable
import DownloadNames.Text.Word

/-
The words, numbers, texts and signs of which literals are written.
Brackets are paired while the tokens are read, so every token knows how deep it stands, and a
line ends only outside of brackets.
-/

namespace DownloadNames.CommandLine.Literal

/-- The ways to write a number. -/
inductive Radix where
  | decimal
  | hexadecimal
  | octal
  | binary
  | imaginary
deriving DecidableEq, Repr

/-- Why a text has no tokens. -/
inductive BadToken where
  | openText (long : Bool) (line : Nat)
  | badNumber (radix : Radix)
  | badDigit (digit : Char) (radix : Radix)
  | leadingZeros
  | badCharacter (c : Char)
  | unmatched (close : Char)
  | mismatched (close : Char) (opened : Char) (line : Option Nat)
  | tooDeep
deriving DecidableEq, Repr

/-- Why a text in quotes holds nothing: a character that is no byte where bytes are meant, or an
escape that is cut short, gives no character, has no name or one that no character has, with the
positions it takes up. -/
inductive BadQuotation where
  | foreignByte
  | shortByte (position : Nat)
  | short (letter : Char) (first last : Nat)
  | noCharacter (first last : Nat)
  | noName (first last : Nat)
  | unknownName (first last : Nat)
deriving DecidableEq, Repr

/-- What a text in quotes holds: characters, bytes, parts to be filled in, where backslashes may
stand for themselves, or nothing. -/
inductive Quotation where
  | plain
  | bytes
  | pattern (raw : Bool) (content : Text)
  | bad (fault : BadQuotation)
deriving DecidableEq, Repr

/-- What a token is; the last one tells which bracket is still open, and its line, unless it is no
token or a backslash that does not end its line. -/
inductive Shape where
  | name (s : String)
  | number (imaginary : Bool)
  | quotation (q : Quotation)
  | sign (s : String)
  | lineEnd
  | indent
  | stop (unclosed : Option (Char × Nat))
  | bad (fault : BadToken)
  | backslash
deriving DecidableEq, Repr

/-- A token, the number of brackets open after it, and its line. -/
structure Token where
  shape : Shape
  depth : Nat
  line : Nat
deriving DecidableEq, Repr

/-! ## Numbers -/

/-- What follows digits with single underscores between them; `needed` says that a digit has to
come first. -/
def afterDigits (radix : Radix) (valid : Char → Bool) : (needed : Bool) → Text →
    Except BadToken Text
  | true, [] => .error (.badNumber radix)
  | false, [] => .ok []
  | needed, c :: cs =>
    if valid c then afterDigits radix valid false cs
    else if !needed && c == '_' then afterDigits radix valid true cs
    else if c.isDigit then .error (.badDigit c radix)
    else if needed then .error (.badNumber radix)
    else .ok (c :: cs)

/-- What follows decimal digits. -/
def afterDecimals : Text → Except BadToken Text := afterDigits .decimal Char.isDigit false

/-- An ASCII character of a name. -/
def isNameChar (c : Char) : Bool := c.isAlphanum || c == '_'

/-- The words that may follow a number at once. -/
def wordsAfterNumber : List Text := ["and", "else", "for", "or", "not"].map String.toList

/-- The pairs of letters that may follow a number at once, whatever comes after them. -/
def pairsAfterNumber : List Text := ["if", "in", "is"].map String.toList

/-- The rest of a text after a number, with which no name may begin. -/
def endNumber (radix : Radix) (s : Text) : Except BadToken Text :=
  if wordsAfterNumber.contains (s.takeWhile fun c => isNameChar c || c.toNat ≥ 128)
      || pairsAfterNumber.contains (s.take 2) then .ok s
  else match s with
    | c :: _ => if isNameChar c then .error (.badNumber radix) else .ok s
    | [] => .ok s

/-- The end of a decimal number, which is imaginary with a `j` after it. -/
def endDecimal (s : Text) : Except BadToken (Bool × Text) :=
  match s with
  | 'j' :: rest | 'J' :: rest => (endNumber .imaginary rest).map (true, ·)
  | _ => (endNumber .decimal s).map (false, ·)

/-- The exponent of a decimal number, if there is one, and its end. -/
def afterExponent (s : Text) : Except BadToken (Bool × Text) :=
  let digits (rest : Text) : Except BadToken (Bool × Text) := do endDecimal (← afterDecimals rest)
  match s with
  | e :: rest =>
    if e == 'e' || e == 'E' then
      match rest with
      | '+' :: d :: _ | '-' :: d :: _ =>
        if d.isDigit then digits (rest.drop 1) else .error (.badNumber .decimal)
      | d :: _ => if d.isDigit then digits rest else (endNumber .decimal s).map (false, ·)
      | [] => (endNumber .decimal s).map (false, ·)
    else endDecimal s
  | [] => endDecimal s

/-- The digits after the point of a number, its exponent and its end. -/
def afterPoint (s : Text) : Except BadToken (Bool × Text) :=
  match s with
  | c :: _ => if c.isDigit then do afterExponent (← afterDecimals s) else afterExponent s
  | [] => afterExponent s

/-- Digits have a zero in front of others. -/
def hasLeadingZero (digits : Text) : Bool :=
  digits.head? == some '0' && digits.any fun c => c != '0' && c != '_'

/-- A decimal number: whether it is imaginary, and what follows it. -/
def decimal (s : Text) : Except BadToken (Bool × Text) := do
  let rest ← afterDecimals s
  let zero := hasLeadingZero (s.take (s.length - rest.length))
  match rest with
  | '.' :: rest => afterPoint rest
  | c :: _ =>
    if ['e', 'E', 'j', 'J'].contains c then afterExponent rest
    else if zero then .error .leadingZeros
    else afterExponent rest
  | [] => if zero then .error .leadingZeros else .ok (false, [])

/-- What follows the digits of a number in a radix that a letter names. -/
def afterLetter (radix : Radix) (valid : Char → Bool) (s : Text) :
    Except BadToken (Bool × Text) := do
  let digits := if s.head? == some '_' then s.drop 1 else s
  let rest ← afterDigits radix valid true digits
  (endNumber radix rest).map (false, ·)

/-- A number: whether it is imaginary, and what follows it. -/
def number : Text → Except BadToken (Bool × Text)
  | '0' :: 'x' :: s | '0' :: 'X' :: s =>
    afterLetter .hexadecimal (fun c => (Text.hexDigit? c).isSome) s
  | '0' :: 'o' :: s | '0' :: 'O' :: s => afterLetter .octal (fun c => '0' ≤ c && c ≤ '7') s
  | '0' :: 'b' :: s | '0' :: 'B' :: s => afterLetter .binary (fun c => c == '0' || c == '1') s
  | '.' :: s => afterPoint s
  | s => decimal s

/-! ## Texts in quotes -/

/-- The length of a text up to the quotes that end it, with them; `none` where it does not end.
A short one ends before the line does. -/
def quotationLength? (quotes : Text) : (length : Nat) → (skip : Nat) → Text → Option Nat
  | _, _, [] => none
  | n, skip + 1, _ :: cs => quotationLength? quotes (n + 1) skip cs
  | n, 0, c :: cs =>
    if Text.beginsWith quotes (c :: cs) then some (n + quotes.length)
    else if c == '\n' && quotes.length == 1 then none
    else quotationLength? quotes (n + 1) (if c == '\\' then 1 else 0) cs

/-- The lines that a text takes up besides its first one. -/
def extraLines (s : Text) : Nat := (s.dropLast.filter (· == '\n')).length

/-- The lines besides the first one over which a text without closing quotes runs. -/
def openLines (long : Bool) : (skip : Nat) → Text → Nat
  | _, [] => 0
  | skip + 1, c :: cs => (if c == '\n' && cs ≠ [] then 1 else 0) + openLines long skip cs
  | 0, c :: cs =>
    if c == '\\' then openLines long 1 cs
    else if c == '\n' then (if long && cs ≠ [] then 1 + openLines long 0 cs else 0)
    else openLines long 0 cs

/-- The quotes with which a text begins, and what follows them. -/
def openingQuotes : Text → Text × Text
  | q :: r :: s :: rest =>
    if q == r && r == s then ([q, q, q], rest) else ([q], r :: s :: rest)
  | s => (s.take 1, s.drop 1)

/-- A text in quotes: what stands between them, and what follows. -/
def quotation (line : Nat) (s : Text) : Except BadToken (Text × Text) :=
  let (quotes, rest) := openingQuotes s
  match quotationLength? quotes 0 0 rest with
  | some n => .ok (rest.take (n - quotes.length), rest.drop n)
  | none =>
    let long := quotes.length == 3
    .error (.openText long (line + openLines long 0 rest))

/-- The letters that may stand before quotes, in lower case. -/
def quotationLetters : List Text := ["b", "u", "r", "f", "br", "rb", "fr", "rf"].map String.toList

/-- The number of digits that an escape of a letter takes. -/
def escapeDigits? : Char → Option Nat
  | 'x' => some 2
  | 'u' => some 4
  | 'U' => some 8
  | _ => none

/-- The hexadecimal digits with which a text begins, up to a number of them. -/
def hexRun (most : Nat) (s : Text) : List Nat :=
  ((s.take most).takeWhile fun c => (Text.hexDigit? c).isSome).filterMap Text.hexDigit?

/-- The positions that a character takes up where escapes are read: one that is not ASCII stands
there as an escape of its own. -/
def escapedWidth (c : Char) : Nat := if c.toNat < 128 then 1 else 10

/-- The positions that a text takes up there. -/
def escapedLength (s : Text) : Nat := s.foldl (fun n c => n + escapedWidth c) 0

/-- The width of the name in braces with which a text begins, without the closing brace where
there is no name; `none` where the brace is not closed. -/
def namedWidth? : Text → Option Nat
  | '\x7b' :: s =>
    let name := s.takeWhile (· != '\x7d')
    if name.length = s.length then none else some (name.length + (if name = [] then 1 else 2))
  | _ => some 0

/-- A name that is written like those of characters. -/
def canBeName (name : Text) : Bool := name.all fun c => c.isAlphanum || c == ' ' || c == '-'

/-- The first bad escape from a position on; the first `skip` characters are passed over. -/
def badEscape? (position : Nat) : (skip : Nat) → Text → Option BadQuotation
  | _, [] => none
  | skip + 1, c :: cs => badEscape? (position + escapedWidth c) skip cs
  | 0, '\\' :: c :: cs =>
    match escapeDigits? c with
    | some n =>
      let digits := hexRun n cs
      let last := position + 1 + digits.length
      if digits.length < n then some (.short c position last)
      else if Text.ofDigits 16 digits > 0x10ffff then some (.noCharacter position last)
      else badEscape? (position + 1) 1 (c :: cs)
    | none =>
      if c = 'N' then
        match namedWidth? cs with
        | some (n + 3) =>
          if canBeName ((cs.drop 1).take (n + 1)) then badEscape? (position + 1) (n + 4) (c :: cs)
          else some (.unknownName position (position + 1 + escapedLength (cs.take (n + 3))))
        | some n => some (.noName position (position + 1 + n))
        | none => some (.noName position (position + 1 + escapedLength cs))
      else badEscape? (position + (if c.toNat < 128 then 1 else 6)) 1 (c :: cs)
  | 0, c :: cs => badEscape? (position + escapedWidth c) 0 cs

/-- The first bad escape of bytes from a position on. -/
def badByteEscape? (position : Nat) : (skip : Nat) → Text → Option BadQuotation
  | _, [] => none
  | skip + 1, _ :: cs => badByteEscape? (position + 1) skip cs
  | 0, '\\' :: c :: cs =>
    let digits := hexRun 2 cs
    if c = 'x' && digits.length < 2 then some (.shortByte position)
    else badByteEscape? (position + 1) 1 (c :: cs)
  | 0, _ :: cs => badByteEscape? (position + 1) 0 cs

/-- What a text in quotes holds after letters. -/
def quotationKind (letters content : Text) : Quotation :=
  let raw := letters.contains 'r'
  if letters.contains 'f' then .pattern raw content
  else if letters.contains 'b' then
    if content.any (·.toNat ≥ 128) then .bad .foreignByte
    else if raw then .bytes else ((badByteEscape? 0 0 content).map .bad).getD .bytes
  else if raw then .plain else ((badEscape? 0 0 content).map .bad).getD .plain

/-! ## Names and signs -/

/-- The first character that cannot stand in a name. -/
def badNameChar? (s : Text) : Option Char :=
  match s with
  | c :: cs =>
    if c.toNat < 128 || (Text.isWordChar c && (Text.digitValue? c).isNone) then
      cs.find? fun d => !(isNameChar d || (d.toNat ≥ 128 && Text.isWordChar d))
    else some c
  | [] => none

/-- The signs of more than one character, the longer ones first. -/
def longSigns : List String :=
  ["**=", "//=", ">>=", "<<=", "...", "!=", "**", "*=", "//", "/=", "%=", "@=", "+=", "-=", "->",
    ":=", "==", "<=", ">=", "<<", ">>", "&=", "|=", "^="]

/-- The sign with which a text begins. -/
def sign? (s : Text) : Option String :=
  match longSigns.find? fun l => Text.beginsWith l.toList s with
  | some l => some l
  | none => s.head?.map fun c => String.ofList [c]

/-! ## Tokens -/

/-- The partner of an opening bracket. -/
def partner : Char → Char
  | '(' => ')'
  | '[' => ']'
  | _ => '}'

/-- The brackets that are open after a sign: the innermost first, each with its line. -/
def brackets (line : Nat) (sign : String) (opened : List (Char × Nat)) :
    Except BadToken (List (Char × Nat)) :=
  match sign.toList with
  | [c] =>
    if ['(', '[', '\x7b'].contains c then
      if opened.length ≥ 200 then .error .tooDeep else .ok ((c, line) :: opened)
    else if [')', ']', '\x7d'].contains c then
      match opened with
      | [] => .error (.unmatched c)
      | (o, l) :: rest =>
        if partner o = c then .ok rest
        else .error (.mismatched c o (if l = line then none else some l))
    else .ok opened
  | _ => .ok opened

/-- A character between tokens. -/
def isGap (c : Char) : Bool := c == ' ' || c == '\t' || c.toNat == 12

/-- A line without tokens begins here; what follows it. -/
def afterEmptyLine? (s : Text) : Option Text :=
  match s.dropWhile isGap with
  | [] => some []
  | '\n' :: rest => some rest
  | '#' :: rest => some ((rest.dropWhile (· != '\n')).drop 1)
  | _ => none

/-- What stands before the first token of a line: whether the line is indented, how many more lines
this takes up, and what follows; nothing where a backslash does not end its line. -/
def indentation? : Text → Option (Bool × Nat × Text)
  | '\\' :: '\n' :: cs =>
    (indentation? cs).map fun (indented, lines, rest) => (indented, lines + 1, rest)
  | '\\' :: _ => none
  | c :: cs =>
    if isGap c then
      (indentation? cs).map fun (indented, lines, rest) => (indented || c.toNat ≠ 12, lines, rest)
    else some (false, 0, c :: cs)
  | [] => some (false, 0, [])

/-- The tokens of a text from a line on, given the brackets that are open; `fresh` says that the
line begins here. -/
def tokensFrom : (fuel : Nat) → (line : Nat) → (fresh : Bool) → (opened : List (Char × Nat)) →
    Text → List Token
  | 0, line, _, opened, _ => [⟨.stop opened.head?, opened.length, line⟩]
  | _, line, _, opened, [] => [⟨.stop opened.head?, opened.length, line⟩]
  | fuel + 1, line, true, opened, c :: cs =>
    match afterEmptyLine? (c :: cs), indentation? (c :: cs) with
    | some rest, _ => tokensFrom fuel (line + 1) true opened rest
    | none, some (indented, lines, rest) =>
      let found := tokensFrom fuel (line + lines) false opened rest
      if indented then ⟨.indent, 0, line⟩ :: found else found
    | none, none => [⟨.backslash, 0, line⟩]
  | fuel + 1, line, false, opened, c :: cs =>
    let bad (fault : BadToken) : List Token := [⟨.bad fault, opened.length, line⟩]
    let next (shape : Shape) (lines : Nat) (rest : Text) : List Token :=
      ⟨shape, opened.length, line⟩ :: tokensFrom fuel (line + lines) false opened rest
    let quoted (letters s : Text) : List Token :=
      match quotation line s with
      | .error fault => bad fault
      | .ok (content, rest) =>
        next (.quotation (quotationKind letters content)) (extraLines (content ++ ['.'])) rest
    if isGap c then tokensFrom fuel line false opened cs
    else if c == '#' then tokensFrom fuel line false opened (cs.dropWhile (· != '\n'))
    else if c == '\n' then
      if opened ≠ [] then tokensFrom fuel (line + 1) false opened cs
      else ⟨.lineEnd, 0, line⟩ :: tokensFrom fuel (line + 1) true opened cs
    else if c == '\\' then
      match cs with
      | '\n' :: rest => tokensFrom fuel (line + 1) false opened rest
      | _ => [⟨.backslash, opened.length, line⟩]
    else if c.isDigit || (c == '.' && cs.head?.any Char.isDigit) then
      match number (c :: cs) with
      | .error fault => bad fault
      | .ok (imaginary, rest) => next (.number imaginary) 0 rest
    else if c == '"' || c == '\'' then quoted [] (c :: cs)
    else if isNameChar c || c.toNat ≥ 128 then
      let name := (c :: cs).takeWhile fun d => isNameChar d || d.toNat ≥ 128
      let rest := (c :: cs).drop name.length
      let letters := name.map Char.toLower
      if quotationLetters.contains letters && rest.head?.any fun d => d == '"' || d == '\'' then
        quoted letters rest
      else match badNameChar? name with
        | some d => bad (.badCharacter d)
        | none => next (.name (String.ofList name)) 0 rest
    else if !Text.isPrintable c then bad (.badCharacter c)
    else match sign? (c :: cs) with
      | none => []
      | some s => match brackets line s opened with
        | .error fault => bad fault
        | .ok opened => ⟨.sign s, opened.length, line⟩ ::
          tokensFrom fuel line false opened ((c :: cs).drop s.length)

/-- The tokens of a text; the last one is `stop`, `bad` or `backslash`. -/
def tokens (s : Text) : List Token := tokensFrom (2 * s.length + 1) 1 true [] s

/-- Why a text has no tokens, if tokens end so. -/
def badToken? (ts : List Token) : Option BadToken :=
  match ts.getLast? with
  | some ⟨.bad fault, _, _⟩ => some fault
  | _ => none

end DownloadNames.CommandLine.Literal
