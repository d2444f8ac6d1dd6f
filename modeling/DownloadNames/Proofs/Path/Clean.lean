import DownloadNames.Path.Valid
import DownloadNames.Text.Blank
import DownloadNames.Proofs.Text.LowerCase
import DownloadNames.Proofs.Text.Pieces

/-
Texts without the characters that a path, or a file name, excludes.

Sanitizing makes any name clean.  Completing a name appends an extension that is not sanitized, so
a completed name is clean only if that extension is.
-/

namespace DownloadNames.Path

open Text (Lacks lacks_nil lacks_cons_iff lacks_append_iff)

/-- A text without the characters that a path excludes. -/
abbrev CleanPath (s : Text) : Prop := Lacks isForbidden s

/-- A text without the characters that a file name excludes. -/
abbrev CleanName (s : Text) : Prop := Lacks isForbiddenInName s

/-- The excluded characters are ASCII marks, and none of them is blank. -/
theorem isMark_of_isForbiddenInName {c : Char} (h : isForbiddenInName c = true) :
    Text.IsMark c ∧ Text.isBlank c = false := by
  simp only [isForbiddenInName, isForbidden, isSeparator, Bool.or_eq_true, beq_iff_eq] at h
  rcases h with ((((((h | h) | h) | h) | h) | h) | h) | (h | h) <;> subst h <;> decide

/-! ## Completed names -/

variable {name ext replacement : Text}

/-- A sanitized name is clean if the replacement is. -/
theorem safeName_clean (h : CleanName replacement) (name : Text) :
    CleanName (safeName name replacement) :=
  not_mem_replaceWhere h name

theorem withDot_clean_iff : CleanName (withDot ext) ↔ CleanName ext := by
  unfold withDot
  split
  · rfl
  · exact lacks_cons_iff.trans (and_iff_right (by decide))

/-- A completed name is clean unless an extension that is not clean is appended to it, which
happens to a non-empty sanitized name without extension. -/
theorem completeName_clean_iff (h : CleanName replacement) :
    CleanName (completeName name ext replacement) ↔
      (safeName name replacement ≠ [] → extension (safeName name replacement) = [] →
        CleanName ext) := by
  have hname := safeName_clean h name
  simp only [completeName]
  split
  · next hcond =>
    constructor
    · intro hboth _ _
      exact withDot_clean_iff.1 (lacks_append_iff.1 hboth).2
    · intro himp
      have hext := himp hcond.2.2 hcond.2.1
      exact lacks_append_iff.2 ⟨hname, withDot_clean_iff.2 hext⟩
  · next hcond =>
    -- nothing is appended: the name has an extension, is empty, or gets an empty one
    refine ⟨fun _ hne hnone => ?_, fun _ => hname⟩
    have hext : ext = [] := Decidable.byContradiction fun hext => hcond ⟨hext, hnone, hne⟩
    rw [hext]
    exact lacks_nil

end DownloadNames.Path
