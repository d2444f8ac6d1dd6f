/-
Text as a list of Unicode scalar values, and the few cuts every other module makes.

Names, templates and headers are short and every rule about them speaks of single
characters, so the library works on character lists throughout.  `splitBy` and
`joinWith` are the two halves of "pieces between separators": a split keeps its empty
pieces, so joining the pieces of a split at one character gives the text back.
-/

namespace DownloadNames

/-- A text is the list of its Unicode scalar values. -/
abbrev Text := List Char

namespace Text

/-! ## Pieces between separators -/

/-- Puts a character in front of the first piece. -/
def consFirst (c : Char) : List Text → List Text
  | [] => [[c]]
  | w :: ws => (c :: w) :: ws

/-- The pieces between the characters that satisfy `p`, empty pieces included. -/
def splitBy (p : Char → Bool) : Text → List Text
  | [] => [[]]
  | c :: cs => if p c then [] :: splitBy p cs else consFirst c (splitBy p cs)

/-- The pieces one after the other with `sep` between two of them. -/
def joinWith (sep : Text) : List Text → Text
  | [] => []
  | [w] => w
  | w :: ws => w ++ sep ++ joinWith sep ws

@[simp] theorem splitBy_nil (p : Char → Bool) : splitBy p [] = [[]] := rfl

@[simp] theorem joinWith_nil (sep : Text) : joinWith sep [] = [] := rfl

@[simp] theorem joinWith_singleton (sep w : Text) : joinWith sep [w] = w := rfl

theorem joinWith_cons_cons (sep w x : Text) (ws : List Text) :
    joinWith sep (w :: x :: ws) = w ++ sep ++ joinWith sep (x :: ws) := rfl

theorem splitBy_ne_nil (p : Char → Bool) (s : Text) : splitBy p s ≠ [] := by
  cases s with
  | nil => simp
  | cons c cs =>
    unfold splitBy
    split
    · simp
    · cases splitBy p cs <;> simp [consFirst]

/-- Splitting at one character and joining with it gives the text back. -/
theorem joinWith_splitBy (c : Char) (s : Text) : joinWith [c] (splitBy (· == c) s) = s := by
  induction s with
  | nil => rfl
  | cons d ds ih =>
    have hne := splitBy_ne_nil (· == c) ds
    unfold splitBy
    cases hs : splitBy (· == c) ds with
    | nil => exact absurd hs hne
    | cons w ws =>
      rw [hs] at ih
      by_cases hd : d = c
      · subst hd
        simp [joinWith_cons_cons, ih]
      · have hb : (d == c) = false := by simpa using hd
        simp only [hb, consFirst]
        cases ws with
        | nil => simpa [joinWith] using ih
        | cons x xs => simpa [joinWith_cons_cons] using ih

/-! ## Cuts at the ends -/

/-- Drops the characters satisfying `p` at both ends. -/
def trimBy (p : Char → Bool) (s : Text) : Text :=
  ((s.dropWhile p).reverse.dropWhile p).reverse

/-- What follows `lead`, when the text begins with it. -/
def after? : (lead : Text) → Text → Option Text
  | [], s => some s
  | _ :: _, [] => none
  | l :: ls, c :: cs => if l = c then after? ls cs else none

theorem after?_eq_some_iff {lead s rest : Text} : after? lead s = some rest ↔ s = lead ++ rest := by
  induction lead generalizing s with
  | nil => simp [after?, eq_comm]
  | cons l ls ih =>
    cases s with
    | nil => simp [after?]
    | cons c cs =>
      by_cases h : l = c
      · subst h; simp [after?, ih]
      · have hc : ¬ c = l := fun e => h e.symm
        simp [after?, h, hc]

/-- The text begins with `lead`. -/
def beginsWith (lead s : Text) : Bool := (after? lead s).isSome

/-- The part before the first `c` and the part after it, when there is a `c`. -/
def cutAt? (c : Char) : Text → Option (Text × Text)
  | [] => none
  | d :: ds => if d = c then some ([], ds) else (cutAt? c ds).map fun (a, b) => (d :: a, b)

/-! ## Searching -/

/-- The first answer that `f` gives on a suffix, longest suffix first. -/
def firstSuffix? (f : Text → Option α) : Text → Option α
  | [] => f []
  | c :: cs => (f (c :: cs)).or (firstSuffix? f cs)

/-- `part` occurs somewhere in the text. -/
def occurs (part s : Text) : Bool := (firstSuffix? (after? part) s).isSome

end Text
end DownloadNames
