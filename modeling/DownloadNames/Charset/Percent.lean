import DownloadNames.Text.Digit

/-
Percent-escapes.

An escape is `%` and two digits of base sixteen; any other `%` stands for itself.  A text with
an escape is decoded run by run: each longest run of ASCII characters becomes bytes, which are
decoded on their own, and other characters are kept.  Where the bytes of a run can be refused,
the first run that is refused decides.
-/

namespace DownloadNames.Percent

/-- The byte of an ASCII character. -/
def asciiByte (c : Char) : UInt8 := UInt8.ofNat c.toNat

/-- The bytes of a run of ASCII characters, its escapes resolved. -/
def unescape : Text → List UInt8
  | '%' :: a :: b :: rest =>
    match Text.hexDigit? a, Text.hexDigit? b with
    | some x, some y => UInt8.ofNat (16 * x + y) :: unescape rest
    | _, _ => asciiByte '%' :: unescape (a :: b :: rest)
  | c :: cs => asciiByte c :: unescape cs
  | [] => []

/-! ## Runs -/

/-- A run of ASCII characters, or another character. -/
inductive Run where
  | ascii (s : Text)
  | other (c : Char)
deriving DecidableEq, Repr

/-- The run that has been collected in reverse, unless it is empty. -/
def heldRun : (held : Text) → List Run
  | [] => []
  | c :: cs => [.ascii (c :: cs).reverse]

/-- The runs of a text; `held` is the reversed run of ASCII characters before it. -/
def runsFrom : (held : Text) → Text → List Run
  | held, [] => heldRun held
  | held, c :: cs =>
    if c.toNat < 0x80 then runsFrom (c :: held) cs
    else heldRun held ++ .other c :: runsFrom [] cs

/-- The runs of a text. -/
def runs (s : Text) : List Run := runsFrom [] s

namespace Run

/-- The text of a run. -/
def decode (decode : List UInt8 → Text) : Run → Text
  | ascii s => decode (unescape s)
  | other c => [c]

/-- The text of a run, unless its bytes are refused. -/
def tryDecode {ε : Type} (decode : List UInt8 → Except ε Text) : Run → Except ε Text
  | ascii s => decode (unescape s)
  | other c => .ok [c]

end Run

/-! ## Texts -/

/-- The text with its escapes resolved; one without `%` stays as it is. -/
def decodeText (decode : List UInt8 → Text) (s : Text) : Text :=
  if '%' ∈ s then (runs s).flatMap (Run.decode decode) else s

/-- The text with its escapes resolved, unless the bytes of a run are refused. -/
def tryDecodeText {ε : Type} (decode : List UInt8 → Except ε Text) (s : Text) : Except ε Text :=
  if '%' ∈ s then ((runs s).mapM (Run.tryDecode decode)).map List.flatten else .ok s

end DownloadNames.Percent
