import DownloadNames.Charset.Percent

/-
Punycode, the spelling of any text in ASCII.

The characters beyond ASCII are left out of the text and told behind its last hyphen, in ascending
order, each by the distance from the one before.  A distance is a number with the least digit first;
when it is over depends on a bias that adapts to the distances so far.

Reading stops where the spelling breaks off or has a character that is no digit, and keeps what it
has until then.  A character that does not exist is replaced.  Only bytes beyond ASCII behind the
hyphen are refused.
-/

namespace DownloadNames.Punycode

/-! ## Distances -/

/-- The value of a digit in base thirty-six, letters of either case first. -/
def digit? (c : Char) : Option Nat :=
  if 'a' ≤ c ∧ c ≤ 'z' then some (c.toNat - 97)
  else if 'A' ≤ c ∧ c ≤ 'Z' then some (c.toNat - 65)
  else if '0' ≤ c ∧ c ≤ '9' then some (c.toNat - 22)
  else none

/-- A digit below this value is the last of its number; `place` counts the digits before it. -/
def threshold (place bias : Nat) : Nat := max 1 (min 26 (36 * (place + 1) - bias))

/-- How often a number can be divided by thirty-five until it is small, and what is left. -/
def divisions (n : Nat) : Nat × Nat :=
  if 455 < n then
    let (count, rest) := divisions (n / 35)
    (count + 1, rest)
  else (0, n)
termination_by n
decreasing_by omega

/-- The bias after a distance, in a text of the given length. -/
def adapt (distance : Nat) (first : Bool) (length : Nat) : Nat :=
  let scaled := if first then distance / 700 else distance / 2
  let (count, rest) := divisions (scaled + scaled / length)
  36 * count + 36 * rest / (rest + 38)

/-! ## Reading -/

/-- What has been read: the text so far, the number of the last character put in and the place after
it, the bias, and of an unfinished number its value so far, the weight and the count of its
digits. -/
structure Reading where
  text : Text
  last : Nat := 0x80
  next : Nat := 0
  bias : Nat := 72
  first : Bool := true
  distance : Nat := 0
  weight : Nat := 1
  place : Nat := 0
deriving Repr

namespace Reading

/-- Puts in the character that the number read so far tells. -/
def insert (r : Reading) (distance : Nat) : Reading :=
  let reached := r.next + distance
  let places := r.text.length + 1
  let number := r.last + reached / places
  let last := if number ≤ 0x10FFFF then number else '?'.toNat
  let char := if last.isValidChar then Char.ofNat last else '\ufffd'
  { text := r.text.take (reached % places) ++ char :: r.text.drop (reached % places)
    last
    next := reached % places + 1
    bias := adapt distance r.first places
    first := false }

/-- Reads one digit. -/
def digit (r : Reading) (d : Nat) : Reading :=
  let t := threshold r.place r.bias
  let distance := r.distance + d * r.weight
  if d < t then r.insert distance
  else { r with distance, weight := r.weight * (36 - t), place := r.place + 1 }

/-- The text after all digits, up to the first character that is none. -/
def finish : Reading → Text → Text
  | r, [] => r.text
  | r, c :: cs => match digit? c with
    | some d => finish (r.digit d) cs
    | none => r.text

end Reading

/-- The character of an ASCII byte; any other byte is replaced. -/
def asciiChar (b : UInt8) : Char := if b < 0x80 then Char.ofNat b.toNat else '\ufffd'

/-- The text that bytes spell, or the first byte beyond ASCII behind the last hyphen and its place
there. -/
def decode (bytes : List UInt8) : Except (UInt8 × Nat) Text :=
  let hyphen := Percent.asciiByte '-'
  let told := (bytes.reverse.takeWhile (· != hyphen)).reverse
  let spelled := ((bytes.reverse.dropWhile (· != hyphen)).drop 1).reverse
  match told.zipIdx.find? fun e => 0x80 ≤ e.1 with
  | some refused => .error refused
  | none => .ok (Reading.finish { text := spelled.map asciiChar } (told.map asciiChar))

end DownloadNames.Punycode
