import DownloadNames.Text.Basic
import DownloadNames.Text.LowerCase.Table

/-
Full lower-casing of texts.

Every capital goes to its lower-case letter.  Two capitals need more than a table: `İ` becomes
`i` followed by a combining dot, and a sigma takes its final form where a cased letter stands
before it and none behind it, characters such as apostrophes and accents passed over.
-/

namespace DownloadNames.Text

/-- A cased letter. -/
def isCased (c : Char) : Bool := inRanges casedRanges c.toNat

/-- A character that is passed over when looking for a cased neighbour. -/
def isCaseIgnorable (c : Char) : Bool := inRanges caseIgnorableRanges c.toNat

/-- The lower-case form of a single character, sigma in its ordinary form. -/
def lowerChar (c : Char) : Text :=
  if c.toNat = 0x130 then ['i', Char.ofNat 0x307]
  else match caseRuns.find? (·.covers c.toNat) with
    | some run => [Char.ofNat (c.toNat + run.shift).toNat]
    | none => [c]

/-- The first character that is not passed over is a cased letter. -/
def casedAhead : Text → Bool
  | [] => false
  | c :: cs => if isCaseIgnorable c then casedAhead cs else isCased c

/-- The lower-case form of a text of which a part has gone before; `casedBefore` says that the
last character of that part which is not passed over is a cased letter. -/
def lowerFrom : (casedBefore : Bool) → Text → Text
  | _, [] => []
  | casedBefore, c :: cs =>
    let here :=
      if c = 'Σ' then (if casedBefore && !casedAhead cs then ['ς'] else ['σ']) else lowerChar c
    here ++ lowerFrom (if isCaseIgnorable c then casedBefore else isCased c) cs

/-- The lower-case form of a text. -/
def lower (s : Text) : Text := lowerFrom false s

/-- The lower-case form of an ASCII letter; any other character is kept. -/
def asciiLowerChar (c : Char) : Char :=
  if 'A' ≤ c ∧ c ≤ 'Z' then Char.ofNat (c.toNat + 32) else c

end DownloadNames.Text
