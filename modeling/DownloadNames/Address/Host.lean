import DownloadNames.Text.Digit

/-
Numeric hosts of web addresses.
An address of version 4 is four decimal numbers below 256.  One of version 6 is eight groups of
up to four hexadecimal digits; `::` stands for one or more groups of zeros, the last two groups
may be written as an address of version 4, and a zone may follow after `%`.
-/

namespace DownloadNames.Address

/-- A number below 256 without leading zeros. -/
def isOctet (s : Text) : Bool :=
  match s.mapM Text.asciiDigit? with
  | some [_] => true
  | some (d :: ds) => d ≠ 0 && ds.length < 3 && Text.ofDigits 10 (d :: ds) < 256
  | _ => false

/-- An address of version 4. -/
def isVersion4 (s : Text) : Bool :=
  let octets := Text.splitBy (· == '.') s
  octets.length == 4 && octets.all isOctet

/-- A group of up to four hexadecimal digits. -/
def isGroup (s : Text) : Bool :=
  s ≠ [] && s.length ≤ 4 && s.all fun c => (Text.hexDigit? c).isSome

/-- The number of groups that fields stand for, if all of them are groups; the last field may
stand for two. -/
def groupCount? : List Text → Option Nat
  | [] => some 0
  | [s] => if isGroup s then some 1 else if isVersion4 s then some 2 else none
  | s :: ss => if isGroup s then (groupCount? ss).map (· + 1) else none

/-- The fields between colons; an empty text has none. -/
def fields (s : Text) : List Text := if s = [] then [] else Text.splitBy (· == ':') s

/-- The parts before and after the first `::`. -/
def cutAtGap? : Text → Option (Text × Text)
  | ':' :: ':' :: s => some ([], s)
  | c :: s => (cutAtGap? s).map fun (a, b) => (c :: a, b)
  | [] => none

/-- Eight groups, some of which a gap may stand for; what is in front of a gap is groups only. -/
def areGroups (s : Text) : Bool :=
  match cutAtGap? s with
  | none => groupCount? (fields s) == some 8
  | some (high, low) => (fields high).all isGroup &&
    ((groupCount? (fields low)).any fun n => (fields high).length + n < 8)

/-- An address of version 6. -/
def isVersion6 (s : Text) : Bool :=
  match Text.cutAt? '%' s with
  | none => areGroups s
  | some (groups, zone) => areGroups groups && zone ≠ [] && !zone.contains '%'

/-- A host of a version yet to come: `v`, the version in hexadecimal digits, and a point before
the host. -/
def isLaterVersion : Text → Bool
  | 'v' :: s => match Text.cutAt? '.' s with
    | some (version, host) =>
      version ≠ [] && version.all (fun c => (Text.hexDigit? c).isSome) && host ≠ []
    | none => false
  | _ => false

end DownloadNames.Address
