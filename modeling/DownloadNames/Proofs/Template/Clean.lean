import DownloadNames.Proofs.Template.Grammar
import DownloadNames.Proofs.Template.Names

/-
Expanding a template without problems leaves nothing to sanitize but separators.

A character of an expansion comes from the literal text, from a value, from the padding, or is part
of a name that stands for itself.  The check of the template settles the first; values are
supposed to be clean; a name stands for itself only if the table lacks it.
-/

namespace DownloadNames.Template

/-! ## Where the characters of a value come from -/

theorem mem_padZeros {width : Nat} {value : Text} {c : Char} (h : c ∈ padZeros width value) :
    c = '0' ∨ c ∈ value := by
  rcases List.mem_append.1 h with h | h
  · exact Or.inl (List.eq_of_mem_replicate h)
  · exact Or.inr h

/-- A character of what alternatives stand for is part of a name that the table lacks, a zero of
the padding, or part of the value of one of the names. -/
theorem mem_firstUsable {table : Bindings} {alternatives : List Alternative} {c : Char}
    (h : c ∈ firstUsable table alternatives) :
    ∃ a ∈ alternatives, (table.get? a.name = none ∧ c ∈ a.name) ∨ c = '0'
      ∨ ∃ value, table.get? a.name = some value ∧ c ∈ value := by
  induction alternatives with
  | nil => simp [firstUsable] at h
  | cons a rest ih =>
    rw [firstUsable] at h
    -- the table lacks the name, has an empty value for it, or a usable one
    split at h
    · next hnone => exact ⟨a, List.mem_cons_self, Or.inl ⟨hnone, h⟩⟩
    · obtain ⟨b, hb, hc⟩ := ih h
      exact ⟨b, List.mem_cons_of_mem _ hb, hc⟩
    · next hsome =>
      refine ⟨a, List.mem_cons_self, Or.inr ?_⟩
      rcases mem_padZeros h with h | h
      · exact Or.inl h
      · exact Or.inr ⟨_, hsome, h⟩

/-! ## Sound templates -/

section Sound

variable {template : Text} {table : Bindings}

/-- A placeholder holds no character that `q` picks out if its table has all names of the template
and their values hold none; a zero may come from the padding. -/
theorem value_lacks {q : Char → Bool} (hzero : q '0' = false) (hgrammar : WellFormed template)
    (hpresent : ∀ n ∈ names template, table.has n = true)
    (hvalues : ∀ n ∈ names template, ∀ value ∈ table.get? n, Text.Lacks q value)
    {p : Placeholder} (hp : p ∈ placeholders template) :
    Text.Lacks q (p.value table) := by
  intro c hc
  obtain ⟨a, ha, hc⟩ := mem_firstUsable hc
  have hne : a.name ≠ [] :=
    Placeholder.hasEmptyName_eq_false_iff.1 (hgrammar.checks.2.1 p hp) a ha
  -- the table is asked for the name in the case in which it is written
  have hname := lower_name_mem_names hp ha hne
  obtain ⟨value, hvalue⟩ := Bindings.has_iff.1 (hpresent _ hname)
  have hlacks := hvalues _ hname value hvalue
  rw [Bindings.get?_lower] at hvalue
  rcases hc with ⟨hnone, -⟩ | rfl | ⟨value', hvalue', hc⟩
  · -- a name stands for itself only if it is absent
    rw [hvalue] at hnone
    cases hnone
  · exact hzero
  · rw [hvalue] at hvalue'
    cases hvalue'
    exact hlacks c hc

/-- A placeholder holds no excluded character if its table has all names of the template and their
values hold none. -/
theorem value_clean (hgrammar : WellFormed template)
    (hpresent : ∀ n ∈ names template, table.has n = true)
    (hvalues : ∀ n ∈ names template, ∀ value ∈ table.get? n,
      Path.CleanPath value)
    {p : Placeholder} (hp : p ∈ placeholders template) :
    Path.CleanPath (p.value table) :=
  value_lacks (by decide) hgrammar hpresent hvalues hp

/-- A template without problems, expanded with a table that has all its names and gives them clean
values, holds no character that a path excludes.  Sanitizing the expansion then only normalises
its separators, whatever the replacement. -/
theorem expand_clean_of_problems_eq_nil (template : Text) (table : Bindings)
    (hproblems : problems template = [])
    (hpresent : ∀ n ∈ names template, table.has n = true)
    (hvalues : ∀ n ∈ names template, ∀ value ∈ table.get? n,
      Path.CleanPath value) :
    Path.CleanPath (expand template table)
      ∧ ∀ replacement, expandPath template table replacement =
          Path.trimSlashes (Path.collapseRuns false (expand template table)) := by
  have hgrammar := wellFormed_of_problems_eq_nil hproblems
  have hclean : Path.CleanPath (expand template table) := by
    intro c hc
    rcases mem_expand_iff.1 hc with hc | ⟨p, hp, hc⟩
    · exact hgrammar.checks.1 c hc
    · exact value_clean hgrammar hpresent hvalues hp c hc
  refine ⟨hclean, fun replacement => ?_⟩
  rw [expandPath, Path.safePath, Path.replaceWhere_eq_self hclean]

/-- `<a|##N>\x` with an empty `a` and `7` for `n` is `07\x`, and the path `07/x`. -/
theorem expand_clean_padded_fallback :
    let template : Text := ['<', 'a', '|', '#', '#', 'N', '>', '\\', 'x']
    let table : Bindings := ⟨[(['a'], []), (['n'], ['7'])]⟩
    problems template = [] ∧ (∀ n ∈ names template, table.has n = true)
      ∧ expand template table = ['0', '7', '\\', 'x']
      ∧ Path.CleanPath (expand template table)
      ∧ ∀ replacement, expandPath template table replacement = ['0', '7', '/', 'x'] := by
  intro template table
  have hproblems : problems template = [] := by decide
  have hpresent : ∀ n ∈ names template, table.has n = true := by decide
  have hexpand : expand template table = ['0', '7', '\\', 'x'] := by decide
  obtain ⟨hclean, hpath⟩ :=
    expand_clean_of_problems_eq_nil template table hproblems hpresent (by decide)
  refine ⟨hproblems, hpresent, hexpand, hclean, fun replacement => ?_⟩
  rw [hpath, hexpand]
  decide

end Sound
end DownloadNames.Template
