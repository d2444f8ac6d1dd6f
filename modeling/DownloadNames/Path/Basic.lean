import DownloadNames.Text.Basic

/-
The parts of a path of the form `dir/dir/stem.ext:tag`.

Only `/` separates directories.  Everything after the last one is the base name; some image
hosts append a size after a colon there, and the file name is the base name without it.  The
extension is what follows the last dot of the file name, the dot included.
-/

namespace DownloadNames.Path

/-! ## Around the last occurrence of a character -/

/-- The text after the last `c`; the whole text without one. -/
def afterLast (c : Char) (s : Text) : Text := (s.reverse.takeWhile (· != c)).reverse

/-- The text before the last `c`; empty without one. -/
def beforeLast (c : Char) (s : Text) : Text := ((s.reverse.dropWhile (· != c)).drop 1).reverse

section Last

variable {c : Char} {s y : Text}

theorem forall_mem_reverse_bne (h : c ∉ y) : ∀ d ∈ y.reverse, (d != c) = true := by
  intro d hd
  rw [bne_iff_ne]
  rintro rfl
  exact h (List.mem_reverse.1 hd)

theorem afterLast_append_cons (h : c ∉ y) (x : Text) : afterLast c (x ++ c :: y) = y := by
  -- the last `c` is the first one that is met from the end
  have hreverse : (x ++ c :: y).reverse = y.reverse ++ c :: x.reverse := by simp
  rw [afterLast, hreverse, List.takeWhile_append_of_pos (forall_mem_reverse_bne h)]
  simp

theorem beforeLast_append_cons (h : c ∉ y) (x : Text) : beforeLast c (x ++ c :: y) = x := by
  have hreverse : (x ++ c :: y).reverse = y.reverse ++ c :: x.reverse := by simp
  rw [beforeLast, hreverse, List.dropWhile_append_of_pos (forall_mem_reverse_bne h)]
  simp

/-- Without a `c` the text after the last `c` is the whole text. -/
theorem afterLast_eq_self (h : c ∉ s) : afterLast c s = s := by
  rw [afterLast, ← List.append_nil s.reverse,
    List.takeWhile_append_of_pos (forall_mem_reverse_bne h)]
  simp

theorem beforeLast_eq_nil (h : c ∉ s) : beforeLast c s = [] := by
  rw [beforeLast, ← List.append_nil s.reverse,
    List.dropWhile_append_of_pos (forall_mem_reverse_bne h)]
  rfl

/-- A text has no `c`, or it has a last one. -/
theorem not_mem_or_last (c : Char) (s : Text) : c ∉ s ∨ ∃ x y, s = x ++ c :: y ∧ c ∉ y := by
  by_cases h : c ∈ s
  · right
    obtain ⟨y, x, hs, hy⟩ := List.eq_append_cons_of_mem (List.mem_reverse.2 h)
    refine ⟨x.reverse, y.reverse, ?_, fun hmem => hy (List.mem_reverse.1 hmem)⟩
    rw [← List.reverse_reverse s, hs]
    simp
  · left
    exact h

theorem not_mem_afterLast (c : Char) (s : Text) : c ∉ afterLast c s := by
  rcases not_mem_or_last c s with h | ⟨x, y, rfl, hy⟩
  · rwa [afterLast_eq_self h]
  · rwa [afterLast_append_cons hy]

/-- A text that holds `c` is what stands before its last `c`, that `c`, and what stands after. -/
theorem beforeLast_append_afterLast (h : c ∈ s) : beforeLast c s ++ c :: afterLast c s = s := by
  rcases not_mem_or_last c s with hnone | ⟨x, y, rfl, hy⟩
  · exact absurd h hnone
  · rw [beforeLast_append_cons hy, afterLast_append_cons hy]

/-- Nothing stands behind the last `c` if it is the last character. -/
theorem afterLast_eq_nil_iff : afterLast c s = [] ↔ s = [] ∨ s.getLast? = some c := by
  constructor
  · intro hnil
    rcases not_mem_or_last c s with h | ⟨x, y, rfl, hy⟩
    · rw [afterLast_eq_self h] at hnil
      exact Or.inl hnil
    · rw [afterLast_append_cons hy] at hnil
      rw [hnil]
      exact Or.inr List.getLast?_concat
  · rintro (rfl | hlast)
    · rfl
    · obtain ⟨x, rfl⟩ := List.getLast?_eq_some_iff.1 hlast
      exact afterLast_append_cons List.not_mem_nil x

end Last

/-! ## The parts -/

/-- The text after the last `/`. -/
def base (path : Text) : Text := afterLast '/' path

/-- The base name up to its first colon. -/
def name (path : Text) : Text := (base path).takeWhile (· != ':')

/-- The file name without its last extension; a file name without a dot stays whole. -/
def stem (path : Text) : Text :=
  let name := name path
  if '.' ∈ name then beforeLast '.' name else name

/-- The last dot of the file name and what follows it; empty when nothing follows. -/
def extension (path : Text) : Text :=
  let name := name path
  if '.' ∈ name ∧ afterLast '.' name ≠ [] then '.' :: afterLast '.' name else []

/-- Stem and extension together. -/
def stemAndExtension (path : Text) : Text × Text := (stem path, extension path)

/-- The text before the last `/`, its leading slashes dropped. -/
def folder (path : Text) : Text := (beforeLast '/' path).dropWhile (· == '/')

/-! ## Small facts about the parts -/

theorem slash_not_mem_base (path : Text) : '/' ∉ base path := not_mem_afterLast '/' path

theorem mem_base_of_mem_name {path : Text} {c : Char} (h : c ∈ name path) :
    c ∈ base path :=
  (List.takeWhile_sublist _).mem h

theorem slash_not_mem_name (path : Text) : '/' ∉ name path :=
  fun h => slash_not_mem_base path (mem_base_of_mem_name h)

end DownloadNames.Path
