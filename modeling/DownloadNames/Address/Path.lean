import DownloadNames.Address.Host
import DownloadNames.Text.Quoted

/-
The path of a web address.
Leading blanks and control characters, and all tabs and line ends, do not count.  A scheme and
an authority are taken off the front, a fragment and a query off the end, and for schemes that
have parameters also the parameters of the last segment.  Brackets in an authority may only stand
around a numeric host that is not one of version 4.
-/

namespace DownloadNames.Address

/-- Why an address has no path: something is wrong with its authority. -/
inductive BadAddress where
  | misplacedBracket
  | badLaterVersion
  | notNumeric (host : Text)
  | bracketedVersion4
  | hiddenDelimiter (authority : Text)
deriving DecidableEq, Repr

/-- The wording for a bad address. -/
def BadAddress.message : BadAddress → Text
  | .misplacedBracket => "Invalid IPv6 URL".toList
  | .badLaterVersion => "IPvFuture address is invalid".toList
  | .notNumeric host =>
    Text.quoted host ++ " does not appear to be an IPv4 or IPv6 address".toList
  | .bracketedVersion4 => "An IPv4 address cannot be in brackets".toList
  | .hiddenDelimiter authority =>
    "netloc '".toList ++ authority
      ++ "' contains invalid characters under NFKC normalization".toList

/-! ## Authorities -/

/-- What follows the last at sign of an authority: a host, and perhaps a port. -/
def hostAndPort (authority : Text) : Text := (authority.reverse.takeWhile (· != '@')).reverse

/-- The host between brackets, which has nothing before it and at most a port after it; without
an opening bracket, what is in front of the port. -/
def bracketedHost (authority : Text) : Except BadAddress Text :=
  match hostAndPort authority with
  | '[' :: s => match s.dropWhile (· != ']') with
    | [] | [']'] | ']' :: ':' :: _ => .ok (s.takeWhile (· != ']'))
    | _ => .error .misplacedBracket
  | s => if s.contains '[' then .error .misplacedBracket else .ok (s.takeWhile (· != ':'))

/-- A host that may stand in brackets. -/
def checkBracketed (host : Text) : Except BadAddress Unit :=
  if Text.beginsWith ['v'] host then
    if isLaterVersion host then .ok () else .error .badLaterVersion
  else if isVersion4 host then .error .bracketedVersion4
  else if isVersion6 host then .ok ()
  else .error (.notNumeric host)

/-- The characters that stand for others among which is one of `/`, `?`, `#`, `@` and `:`. -/
def hiddenDelimiters : List Nat :=
  [0x2047, 0x2048, 0x2049, 0x2100, 0x2101, 0x2105, 0x2106, 0x2a74, 0xfe13, 0xfe16, 0xfe55, 0xfe56,
    0xfe5f, 0xfe6b, 0xff03, 0xff0f, 0xff1a, 0xff1f, 0xff20]

/-- An authority whose brackets stand around a numeric host, without hidden delimiters. -/
def checkAuthority (authority : Text) : Except BadAddress Unit := do
  if authority.contains '[' != authority.contains ']' then throw .misplacedBracket
  if authority.contains '[' then checkBracketed (← bracketedHost authority)
  if authority.any fun c => hiddenDelimiters.contains c.toNat then
    throw (.hiddenDelimiter authority)

/-! ## Parts of an address -/

/-- The schemes whose paths can have parameters. -/
def parameterSchemes : List Text :=
  ["", "ftp", "hdl", "prospero", "http", "imap", "https", "shttp", "rtsp", "rtspu", "sip",
    "sips", "mms", "sftp", "tel"].map String.toList

/-- A character of a scheme. -/
def isSchemeChar (c : Char) : Bool := c.isAlphanum || c == '+' || c == '-' || c == '.'

/-- The lower-cased scheme, or nothing, and what follows it. -/
def splitScheme (s : Text) : Text × Text :=
  match Text.cutAt? ':' s with
  | some (c :: cs, rest) =>
    if c.isAlpha && (c :: cs).all isSchemeChar then ((c :: cs).map Char.toLower, rest)
    else ([], s)
  | _ => ([], s)

/-- A character that ends an authority. -/
def endsAuthority (c : Char) : Bool := c == '/' || c == '?' || c == '#'

/-- What follows an authority, if there is one. -/
def dropAuthority : Text → Except BadAddress Text
  | '/' :: '/' :: s =>
    (checkAuthority (s.takeWhile (!endsAuthority ·))).map fun _ => s.dropWhile (!endsAuthority ·)
  | s => .ok s

/-- A path without the parameters of its last segment. -/
def dropParameters (s : Text) : Text :=
  let last := (s.reverse.takeWhile (· != '/')).reverse
  s.take (s.length - last.length) ++ last.takeWhile (· != ';')

/-- An address without what does not count. -/
def cleaned (s : Text) : Text :=
  (s.dropWhile fun c => c.toNat ≤ 0x20).filter fun c => c != '\t' && c != '\r' && c != '\n'

/-- The path of an address. -/
def path (s : Text) : Except BadAddress Text :=
  let (scheme, rest) := splitScheme (cleaned s)
  (dropAuthority rest).map fun rest =>
    let p := (rest.takeWhile (· != '#')).takeWhile (· != '?')
    if parameterSchemes.contains scheme then dropParameters p else p

end DownloadNames.Address
