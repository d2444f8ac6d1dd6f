import DownloadNames.Proofs.Path.Clean
import DownloadNames.Proofs.Path.Pieces

/-
The form of a safe path.

`IsSafe` says what a path made safe looks like: no excluded character, no backslash, and slashes
only between two parts.  With a replacement that holds no excluded character every path comes out in
this form (`isSafe_safePath`), and a path in this form is left alone (`IsSafe.safePath_eq_self`).
-/

namespace DownloadNames.Path

open Text (Lacks joinWith)

/-- A path without excluded characters, whose only separators are single slashes between parts. -/
structure IsSafe (path : Text) : Prop where
  clean : CleanPath path
  no_backslash : '\\' ∉ path
  no_leading : path.head? ≠ some '/'
  no_trailing : path.getLast? ≠ some '/'
  no_double : ¬ ['/', '/'] <:+: path

/-- The form of a safe path as a check that a search makes. -/
theorem isSafe_iff {path : Text} :
    IsSafe path ↔ CleanPath path ∧ '\\' ∉ path ∧ path.head? ≠ some '/' ∧ path.getLast? ≠ some '/'
      ∧ Text.occurs ['/', '/'] path = false := by
  have hoccurs : Text.occurs ['/', '/'] path = false ↔ ¬ ['/', '/'] <:+: path := by
    rw [← Text.occurs_iff, Bool.not_eq_true]
  rw [hoccurs]
  constructor
  · exact fun h => ⟨h.clean, h.no_backslash, h.no_leading, h.no_trailing, h.no_double⟩
  · rintro ⟨hclean, hback, hleading, htrailing, hdouble⟩
    exact ⟨hclean, hback, hleading, htrailing, hdouble⟩

instance (path : Text) : Decidable (IsSafe path) := decidable_of_iff _ isSafe_iff.symm

/-! ## Safe paths are left alone -/

section Stable

variable {path s : Text} {inRun : Bool}

/-- Without a backslash and without two slashes in a row there is nothing to collapse. -/
theorem collapseRuns_eq_self (hback : '\\' ∉ s) (hdouble : ¬ ['/', '/'] <:+: s)
    (hrun : inRun = true → s.head? ≠ some '/') : collapseRuns inRun s = s := by
  induction s generalizing inRun with
  | nil => rfl
  | cons c cs ih =>
    have hback' : '\\' ∉ cs := fun h => hback (List.mem_cons_of_mem c h)
    have hdouble' : ¬ ['/', '/'] <:+: cs := fun h =>
      hdouble (h.trans (List.suffix_cons c cs).isInfix)
    by_cases hc : isSeparator c = true
    · obtain rfl : c = '/' := by
        rcases eq_slash_or_backslash hc with hslash | hbackslash
        · exact hslash
        · exact absurd (hbackslash ▸ List.mem_cons_self) hback
      have hfirst : inRun = false := by
        cases inRun with
        | false => rfl
        | true => exact absurd rfl (hrun rfl)
      -- the next character is no slash, or there would be two in a row
      have hnext : cs.head? ≠ some '/' := by
        intro hhead
        obtain ⟨ds, rfl⟩ := List.head?_eq_some_iff.1 hhead
        exact hdouble ⟨[], ds, rfl⟩
      rw [collapseRuns, hc, hfirst, ih hback' hdouble' fun _ => hnext]
      rfl
    · have hrest : collapseRuns false cs = cs :=
        ih hback' hdouble' fun hfalse => absurd hfalse Bool.false_ne_true
      rw [collapseRuns, if_neg hc, hrest]

theorem trimSlashes_eq_self (hleading : s.head? ≠ some '/') (htrailing : s.getLast? ≠ some '/') :
    trimSlashes s = s := by
  have hreverse : s.reverse.head? ≠ some '/' := by rwa [List.head?_reverse]
  rw [trimSlashes, dropLeadingSlash_eq_self hleading, dropLeadingSlash_eq_self hreverse,
    List.reverse_reverse]

theorem IsSafe.safePath_eq_self (h : IsSafe path) (replacement : Text) :
    safePath path replacement = path := by
  rw [safePath, replaceWhere_eq_self h.clean,
    collapseRuns_eq_self h.no_backslash h.no_double fun hfalse => absurd hfalse Bool.false_ne_true,
    trimSlashes_eq_self h.no_leading h.no_trailing]

end Stable

/-! ## Paths made safe are safe -/

section Form

variable {path replacement : Text} {ws : List Text}

/-- Non-empty pieces without separators and excluded characters make a safe path. -/
theorem isSafe_joinWith (h : ∀ w ∈ ws, w ≠ [] ∧ Lacks isSeparator w ∧ CleanPath w) :
    IsSafe (joinWith ['/'] ws) := by
  have hpiece : ∀ w ∈ ws, w ≠ [] ∧ '/' ∉ w := by
    intro w hw
    obtain ⟨hne, hlacks, -⟩ := h w hw
    exact ⟨hne, fun hmem => absurd (hlacks '/' hmem) (by decide)⟩
  constructor
  case clean =>
    intro c hc
    by_cases hslash : c = '/'
    · rw [hslash]
      rfl
    · obtain ⟨w, hw, hmem⟩ := (Text.mem_joinWith_iff (by simpa using hslash)).1 hc
      exact (h w hw).2.2 c hmem
  case no_backslash =>
    intro hc
    obtain ⟨w, hw, hmem⟩ := (Text.mem_joinWith_iff (by decide)).1 hc
    exact absurd ((h w hw).2.1 '\\' hmem) (by decide)
  case no_leading =>
    intro hhead
    obtain ⟨y, hy⟩ := List.head?_eq_some_iff.1 hhead
    have hempty := (nil_not_mem_splitBy_of_joinWith (x := []) hpiece hy).1
    exact hempty (List.mem_singleton_self [])
  case no_trailing => exact getLast?_joinWith_ne hpiece
  case no_double =>
    rintro ⟨x, y, hxy⟩
    have hcut : joinWith ['/'] ws = x ++ '/' :: ('/' :: y) := by rw [← hxy]; simp
    have hempty := (nil_not_mem_splitBy_of_joinWith hpiece hcut).2
    exact hempty List.mem_cons_self

/-- What a piece holds, the path holds. -/
theorem mem_of_mem_pieces {s w : Text} {c : Char} (hw : w ∈ pieces s) (hc : c ∈ w) : c ∈ s := by
  obtain ⟨-, before, after, rfl, -, -⟩ := Text.mem_splitBy_iff.1 (mem_pieces_iff.1 hw).2
  exact List.mem_append_left after (List.mem_append_right before hc)

theorem isSafe_safePath (h : CleanPath replacement) (path : Text) :
    IsSafe (safePath path replacement) := by
  rw [safePath_eq_joinWith]
  apply isSafe_joinWith
  intro w hw
  obtain ⟨hne, hlacks⟩ := lacks_of_mem_pieces hw
  exact ⟨hne, hlacks, fun c hc => not_mem_replaceWhere h path c (mem_of_mem_pieces hw hc)⟩

/-- Making a path safe changes it unless it is safe already. -/
theorem safePath_eq_self_iff (h : CleanPath replacement) :
    safePath path replacement = path ↔ IsSafe path := by
  constructor
  · intro hself
    rw [← hself]
    exact isSafe_safePath h path
  · exact fun hsafe => hsafe.safePath_eq_self replacement

/-! ## Usable paths -/

theorem isUsable_iff :
    isUsable path = true ↔ path ≠ [] ∧ path.head? ≠ some '.'
      ∧ (path.getLast? ≠ some '.' ∧ path.getLast? ≠ some '/') ∧ CleanPath path := by
  have hlast : lastSatisfies (fun c => c == '.' || c == '/') path = false ↔
      path.getLast? ≠ some '.' ∧ path.getLast? ≠ some '/' := by
    unfold lastSatisfies
    cases path.getLast? with
    | none => simp
    | some c => simp
  have hclean : path.any isForbidden = false ↔ CleanPath path := by
    simp only [List.any_eq_false, Bool.not_eq_true]
    rfl
  simp only [isUsable, Bool.and_eq_true, bne_iff_ne, ne_eq, Bool.not_eq_true', hlast, hclean,
    and_assoc]

/-- A safe path is usable unless it is empty or has a dot at one of its ends. -/
theorem IsSafe.isUsable_iff (h : IsSafe path) :
    isUsable path = true ↔
      path ≠ [] ∧ path.head? ≠ some '.' ∧ path.getLast? ≠ some '.' := by
  rw [Path.isUsable_iff, and_iff_left h.no_trailing, and_iff_left h.clean]

/-! ## Making a path safe -/

/-- A path made safe is the non-empty pieces of the path with its excluded characters replaced, with
one `/` between two of them.  With a replacement free of excluded characters it is a safe path, only
safe paths are left as they are, and it is usable unless it is empty or has a dot at one of its
ends. -/
theorem safePath_form (path replacement : Text) :
    safePath path replacement = joinWith ['/'] (pieces (replaceWhere isForbidden replacement path))
      ∧ (CleanPath replacement →
          IsSafe (safePath path replacement)
            ∧ (safePath path replacement = path ↔ IsSafe path)
            ∧ (isUsable (safePath path replacement) = true ↔
                safePath path replacement ≠ []
                  ∧ (safePath path replacement).head? ≠ some '.'
                  ∧ (safePath path replacement).getLast? ≠ some '.')) := by
  refine ⟨safePath_eq_joinWith path replacement, fun h => ?_⟩
  have hsafe := isSafe_safePath h path
  exact ⟨hsafe, safePath_eq_self_iff h, hsafe.isUsable_iff⟩

/-- A replacement may hold separators, which are then normalized with those of the path. -/
theorem safePath_form_slash_replacement :
    let path := "\\a:b//.c?".toList
    let replacement := "/_\\".toList
    CleanPath replacement
      ∧ safePath path replacement = "a/_/b/.c/_".toList
      ∧ IsSafe (safePath path replacement) ∧ ¬ IsSafe path
      ∧ isUsable (safePath path replacement) = true := by
  intro path replacement
  have hclean : CleanPath replacement := by decide
  have hpath : safePath path replacement = "a/_/b/.c/_".toList := by decide
  obtain ⟨-, hform⟩ := safePath_form path replacement
  obtain ⟨hsafe, -, husable⟩ := hform hclean
  refine ⟨hclean, hpath, hsafe, by decide, husable.2 ?_⟩
  rw [hpath]
  decide

end Form

end DownloadNames.Path
