import DownloadNames.Text.Basic

/-
Searching a text for what a pattern fits.

A pattern looks at the front of a text and says what it finds there and how long the find is.
No find is empty, so its length is counted beyond the first character.  A search goes from the
left and continues behind each find; two finds never overlap.
-/

namespace DownloadNames.Text

/-- What is found at the front of a text, and how many characters it takes beyond the first. -/
abbrev Pattern (α : Type) := Text → Option (α × Nat)

namespace Pattern

variable {α : Type}

/-! ## Searching -/

/-- What a pattern finds in a text.  `skip` counts the characters of the last find still to be
passed over. -/
def findFrom (pat : Pattern α) : (skip : Nat) → Text → List α
  | _, [] => []
  | skip + 1, _ :: cs => findFrom pat skip cs
  | 0, c :: cs =>
    match pat (c :: cs) with
    -- the first character of the find is passed over here, the others by `more`
    | some (a, more) => a :: findFrom pat more cs
    | none => findFrom pat 0 cs

/-- All that a pattern finds in a text, from the left. -/
def findAll (pat : Pattern α) (s : Text) : List α := findFrom pat 0 s

/-- A text with `repl a` in the place of each find `a`.  `skip` counts as in `findFrom`. -/
def replaceFrom (pat : Pattern α) (repl : α → Text) : (skip : Nat) → Text → Text
  | _, [] => []
  | skip + 1, _ :: cs => replaceFrom pat repl skip cs
  | 0, c :: cs =>
    match pat (c :: cs) with
    | some (a, more) => repl a ++ replaceFrom pat repl more cs
    | none => c :: replaceFrom pat repl 0 cs

/-- A text with `repl a` in the place of each find `a`. -/
def replace (pat : Pattern α) (repl : α → Text) (s : Text) : Text := replaceFrom pat repl 0 s

/-- A text with `repl a` in the place of each find `a`, unless `repl` refuses one; the leftmost that
it refuses decides.  `skip` counts as in `findFrom`. -/
def replaceCheckedFrom {ε : Type} (pat : Pattern α) (repl : α → Except ε Text) :
    (skip : Nat) → Text → Except ε Text
  | _, [] => .ok []
  | skip + 1, _ :: cs => replaceCheckedFrom pat repl skip cs
  | 0, c :: cs =>
    match pat (c :: cs) with
    | some (a, more) => do
      let here ← repl a
      return here ++ (← replaceCheckedFrom pat repl more cs)
    | none => return c :: (← replaceCheckedFrom pat repl 0 cs)

/-- A text with `repl a` in the place of each find `a`, unless `repl` refuses one. -/
def replaceChecked {ε : Type} (pat : Pattern α) (repl : α → Except ε Text) (s : Text) :
    Except ε Text :=
  replaceCheckedFrom pat repl 0 s

@[simp] theorem findAll_nil (pat : Pattern α) : pat.findAll [] = [] := rfl

@[simp] theorem replace_nil (pat : Pattern α) (repl : α → Text) : pat.replace repl [] = [] := rfl

/-- The characters to be passed over have no part in the finds. -/
theorem findFrom_eq_drop (pat : Pattern α) (skip : Nat) (s : Text) :
    findFrom pat skip s = pat.findAll (s.drop skip) := by
  induction s generalizing skip with
  | nil => cases skip <;> rfl
  | cons c cs ih =>
    cases skip with
    | zero => rfl
    | succ skip => exact ih skip

/-- The characters to be passed over are left out of the result. -/
theorem replaceFrom_eq_drop (pat : Pattern α) (repl : α → Text) (skip : Nat) (s : Text) :
    replaceFrom pat repl skip s = pat.replace repl (s.drop skip) := by
  induction s generalizing skip with
  | nil => cases skip <;> rfl
  | cons c cs ih =>
    cases skip with
    | zero => rfl
    | succ skip => exact ih skip

section Front

variable {pat : Pattern α} {c : Char} {cs : Text}

theorem findAll_cons_of_none (h : pat (c :: cs) = none) :
    pat.findAll (c :: cs) = pat.findAll cs := by
  simp [findAll, findFrom, h]

theorem findAll_cons_of_some {a : α} {more : Nat} (h : pat (c :: cs) = some (a, more)) :
    pat.findAll (c :: cs) = a :: pat.findAll (cs.drop more) := by
  rw [← findFrom_eq_drop]
  simp [findAll, findFrom, h]

theorem replace_cons_of_none {repl : α → Text} (h : pat (c :: cs) = none) :
    pat.replace repl (c :: cs) = c :: pat.replace repl cs := by
  simp [replace, replaceFrom, h]

theorem replace_cons_of_some {repl : α → Text} {a : α} {more : Nat}
    (h : pat (c :: cs) = some (a, more)) :
    pat.replace repl (c :: cs) = repl a ++ pat.replace repl (cs.drop more) := by
  rw [← replaceFrom_eq_drop]
  simp [replace, replaceFrom, h]

end Front

theorem replaceCheckedFrom_eq_ok {ε : Type} {pat : Pattern α} {repl : α → Except ε Text}
    {f : α → Text} (h : ∀ a, repl a = .ok (f a)) (skip : Nat) (s : Text) :
    replaceCheckedFrom pat repl skip s = .ok (replaceFrom pat f skip s) := by
  induction s generalizing skip with
  | nil => cases skip <;> rfl
  | cons c cs ih =>
    cases skip with
    | zero =>
      rw [replaceCheckedFrom, replaceFrom]
      cases hpat : pat (c :: cs) with
      | none =>
        simp only [ih]
        rfl
      | some r =>
        simp only [h, ih]
        rfl
    | succ skip => exact ih skip

/-- Where no find is refused, they are all replaced. -/
theorem replaceChecked_eq_ok {ε : Type} {pat : Pattern α} {repl : α → Except ε Text}
    {f : α → Text} (h : ∀ a, repl a = .ok (f a)) (s : Text) :
    pat.replaceChecked repl s = .ok (pat.replace f s) :=
  replaceCheckedFrom_eq_ok h 0 s

/-- A text in which nothing is found stays as it is. -/
theorem replace_eq_self {pat : Pattern α} {repl : α → Text} {s : Text}
    (h : ∀ t, t <:+ s → pat t = none) : pat.replace repl s = s := by
  induction s with
  | nil => rfl
  | cons c cs ih =>
    rw [replace_cons_of_none (h _ (List.suffix_refl _))]
    rw [ih fun t ht => h t (ht.trans (List.suffix_cons c cs))]

/-- The pattern of one non-empty text. -/
def exactly (part : Text) : Pattern Unit := fun s =>
  if beginsWith part s then some ((), part.length - 1) else none

end Pattern

/-- Every occurrence of a non-empty `part`, leftmost first and without overlap, replaced. -/
def replaceAll (part repl s : Text) : Text := (Pattern.exactly part).replace (fun _ => repl) s

end DownloadNames.Text
