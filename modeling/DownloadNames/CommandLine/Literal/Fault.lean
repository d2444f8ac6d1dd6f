import DownloadNames.CommandLine.Literal.Pattern
import DownloadNames.Text.Quoted

/-
Why a text is no literal, and the wording for it.
A fault of form says what is wrong with the signs and words; the others are about what is well
formed and still has no value.
-/

namespace DownloadNames.CommandLine.Literal

/-- What a part of an expression is. -/
inductive Noun where
  | name (s : String)
  | literal
  | pattern
  | constant (s : String)
  | ellipsis
  | tuple
  | list
  | mapping
  | set
  | generator
  | setComprehension
  | mappingComprehension
  | call
  | attribute
  | operation
  | comparison
  | conditional
  | lambda
  | yielded
  | awaited
  | named
  | starred
deriving DecidableEq, Repr

/-- The words for a part of an expression. -/
def Noun.words : Noun → Text
  | .name _ => "name".toList
  | .literal => "literal".toList
  | .pattern => "f-string expression".toList
  | .constant s => s.toList
  | .ellipsis => "ellipsis".toList
  | .tuple => "tuple".toList
  | .list => "list".toList
  | .mapping => "dict literal".toList
  | .set => "set display".toList
  | .generator => "generator expression".toList
  | .setComprehension => "set comprehension".toList
  | .mappingComprehension => "dict comprehension".toList
  | .call => "function call".toList
  | .attribute => "attribute".toList
  | .operation => "expression".toList
  | .comparison => "comparison".toList
  | .conditional => "conditional expression".toList
  | .lambda => "lambda".toList
  | .yielded => "yield expression".toList
  | .awaited => "await expression".toList
  | .named => "named expression".toList
  | .starred => "starred".toList

/-- What is wrong with the parameters of a function without a name. -/
inductive BadParameters where
  | missingDefault
  | plainAfterDefault
  | parenthesized
  | nothingBeforeSlash
  | slashTwice
  | slashAfterStar
  | noCommaAfterSlash
  | nothingAfterStar
  | starDefault
  | starTwice
  | mapDefault
  | afterMap
deriving DecidableEq, Repr

/-- Why a text has no value as a literal. -/
inductive Fault where
  | token (fault : BadToken)
  | invalid
  | indented
  | backslash
  | neverClosed (opened : Char)
  | missingComma
  | missingElse
  | missingParentheses (name : String)
  | assignment
  | assignmentTo (target : Noun)
  | assignmentInCall
  | namedTarget (target : Noun)
  | notTarget (target : Noun)
  | afterNamed (unpacked : Bool)
  | starAfterUnpacked
  | bareGenerator
  | bareTargets
  | starredComprehension
  | unpackedComprehension
  | starInGroup
  | doubleStarInGroup
  | starredValue
  | missingValue
  | missingColon
  | mixedText
  | badQuotation (fault : BadQuotation)
  | parameters (fault : BadParameters)
  | pattern (fault : BadPattern)
  | inPattern (fault : Fault)
  | notLiteral
  | unpacked
  | notElement (collection : Noun)
  | nullCharacter
deriving DecidableEq, Repr

/-- The name of a radix. -/
def Radix.words : Radix → Text
  | .decimal => "decimal".toList
  | .hexadecimal => "hexadecimal".toList
  | .octal => "octal".toList
  | .binary => "binary".toList
  | .imaginary => "imaginary".toList

/-- The wording for a text that has no tokens. -/
def BadToken.message : BadToken → Text
  | .openText long line =>
    "unterminated ".toList ++ (if long then "triple-quoted ".toList else [])
      ++ "string literal (detected at line ".toList ++ Text.ofNat line ++ [')']
  | .badNumber radix => "invalid ".toList ++ radix.words ++ " literal".toList
  | .badDigit digit radix =>
    "invalid digit '".toList ++ digit :: "' in ".toList ++ radix.words ++ " literal".toList
  | .leadingZeros =>
    ("leading zeros in decimal integer literals are not permitted; " ++
      "use an 0o prefix for octal integers").toList
  | .badCharacter c =>
    let code := "U+".toList ++ (Text.hexDigits (max 4 (Nat.toDigits 16 c.toNat).length)
      c.toNat).map Char.toUpper
    if Text.isPrintable c then
      "invalid character '".toList ++ c :: "' (".toList ++ code ++ [')']
    else "invalid non-printable character ".toList ++ code
  | .unmatched close => "unmatched '".toList ++ [close, '\'']
  | .mismatched close opened line =>
    "closing parenthesis '".toList ++ close :: "' does not match opening parenthesis '".toList
      ++ [opened, '\''] ++ (line.map fun l => " on line ".toList ++ Text.ofNat l).getD []
  | .tooDeep => "too many nested parentheses".toList

/-- The wording for the positions of a bad escape. -/
def badEscapeAt (first last : Nat) : Text :=
  "(unicode error) 'unicodeescape' codec can't decode bytes in position ".toList
    ++ Text.ofNat first ++ '-' :: Text.ofNat last ++ ": ".toList

/-- The wording for a text in quotes that holds nothing. -/
def BadQuotation.message : BadQuotation → Text
  | .foreignByte => "bytes can only contain ASCII literal characters".toList
  | .shortByte position =>
    "(value error) invalid \\x escape at position ".toList ++ Text.ofNat position
  | .short letter first last =>
    badEscapeAt first last ++ "truncated \\".toList
      ++ letter :: List.replicate ((escapeDigits? letter).getD 0) 'X' ++ " escape".toList
  | .noCharacter first last => badEscapeAt first last ++ "illegal Unicode character".toList
  | .noName first last => badEscapeAt first last ++ "malformed \\N character escape".toList
  | .unknownName first last => badEscapeAt first last ++ "unknown Unicode character name".toList

/-- The wording for parts that cannot be told. -/
def BadPattern.message : BadPattern → Text
  | .loneClose => "f-string: single '\x7d' is not allowed".toList
  | .neverClosed => "f-string: expecting '\x7d'".toList
  | .tooDeep => "f-string: expressions nested too deeply".toList
  | .tooManyBrackets => "f-string: too many nested parenthesis".toList
  | .backslash => "f-string expression part cannot include a backslash".toList
  | .comment => "f-string expression part cannot include '#'".toList
  | .openText => "f-string: unterminated string".toList
  | .unmatched bracket => "f-string: unmatched '".toList ++ [bracket, '\'']
  | .mismatched close opened =>
    "f-string: closing parenthesis '".toList ++ close :: "' does not match opening parenthesis '".toList
      ++ [opened, '\'']
  | .empty => "f-string: empty expression not allowed".toList
  | .emptyBefore c => "f-string: expression required before '".toList ++ [c, '\'']
  | .conversion => "f-string: invalid conversion character: expected 's', 'r', or 'a'".toList

/-- The wording for bad parameters. -/
def BadParameters.message : BadParameters → Text
  | .missingDefault => "expected default value expression".toList
  | .plainAfterDefault => "non-default argument follows default argument".toList
  | .parenthesized => "Lambda expression parameters cannot be parenthesized".toList
  | .nothingBeforeSlash => "at least one argument must precede /".toList
  | .slashTwice => "/ may appear only once".toList
  | .slashAfterStar => "/ must be ahead of *".toList
  | .noCommaAfterSlash => "expected comma between / and *".toList
  | .nothingAfterStar => "named arguments must follow bare *".toList
  | .starDefault => "var-positional argument cannot have default value".toList
  | .starTwice => "* argument may appear only once".toList
  | .mapDefault => "var-keyword argument cannot have default value".toList
  | .afterMap => "arguments cannot follow var-keyword argument".toList

/-- The wording for a fault. -/
def Fault.message : Fault → Text
  | .token fault => fault.message
  | .invalid => "invalid syntax".toList
  | .indented => "unexpected indent".toList
  | .backslash => "unexpected character after line continuation character".toList
  | .neverClosed opened => '\'' :: opened :: "' was never closed".toList
  | .missingComma => "invalid syntax. Perhaps you forgot a comma?".toList
  | .missingElse => "expected 'else' after 'if' expression".toList
  | .missingParentheses name =>
    "Missing parentheses in call to '".toList ++ name.toList ++ "'. Did you mean ".toList
      ++ name.toList ++ "(...)?".toList
  | .assignment => "invalid syntax. Maybe you meant '==' or ':=' instead of '='?".toList
  | .assignmentTo target =>
    "cannot assign to ".toList ++ target.words
      ++ " here. Maybe you meant '==' instead of '='?".toList
  | .assignmentInCall => "expression cannot contain assignment, perhaps you meant \"==\"?".toList
  | .namedTarget target =>
    "cannot use assignment expressions with ".toList ++ target.words
  | .notTarget target => "cannot assign to ".toList ++ target.words
  | .afterNamed mapped =>
    "positional argument follows keyword argument".toList
      ++ (if mapped then " unpacking".toList else [])
  | .starAfterUnpacked =>
    "iterable argument unpacking follows keyword argument unpacking".toList
  | .bareGenerator => "Generator expression must be parenthesized".toList
  | .bareTargets => "did you forget parentheses around the comprehension target?".toList
  | .starredComprehension => "iterable unpacking cannot be used in comprehension".toList
  | .unpackedComprehension => "dict unpacking cannot be used in dict comprehension".toList
  | .starInGroup => "cannot use starred expression here".toList
  | .doubleStarInGroup => "cannot use double starred expression here".toList
  | .starredValue => "cannot use a starred expression in a dictionary value".toList
  | .missingValue => "expression expected after dictionary key and ':'".toList
  | .missingColon => "':' expected after dictionary key".toList
  | .mixedText => "cannot mix bytes and nonbytes literals".toList
  | .badQuotation fault => fault.message
  | .parameters fault => fault.message
  | .pattern fault => fault.message
  | .inPattern fault => "f-string: ".toList ++ fault.message
  | .notLiteral => "malformed node or string".toList
  | .unpacked => "malformed node or string: None".toList
  | .notElement .mapping => "unhashable type: 'dict'".toList
  | .notElement .set => "unhashable type: 'set'".toList
  | .notElement _ => "unhashable type: 'list'".toList
  | .nullCharacter => "source code string cannot contain null bytes".toList

/-- The fault is one of form. -/
def Fault.isFormal : Fault → Bool
  | .notLiteral | .unpacked | .notElement _ | .nullCharacter => false
  | _ => true

end DownloadNames.CommandLine.Literal
