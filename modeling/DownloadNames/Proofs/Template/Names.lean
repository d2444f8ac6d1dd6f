import DownloadNames.Proofs.Template.Bindings

/-
The names of a template.

A template names each variable in lower case, and a table is asked for the name as it stands in the
template.  Since a look-up ignores letter case, both ask for the same variable.
-/

namespace DownloadNames.Template

/-! ## The names of a template -/

theorem mem_addName_iff {names : List Text} {name n : Text} :
    n ∈ addName names name ↔ n ∈ names ∨ n = name ∧ name ≠ [] := by
  unfold addName
  split
  · next h =>
    rcases h with h | h
    · simp [h]
    · refine ⟨Or.inl, fun hn => hn.elim id fun hn => ?_⟩
      rwa [hn.1]
  · next h =>
    rw [not_or] at h
    simp [h.1]

theorem mem_foldl_addName_iff {found : List Text} {names : List Text} {n : Text} :
    n ∈ found.foldl addName names ↔ n ∈ names ∨ n ∈ found ∧ n ≠ [] := by
  -- on the names still to come; those collected so far vary
  induction found generalizing names with
  | nil => simp
  | cons m found ih =>
    rw [List.foldl_cons, ih, mem_addName_iff, List.mem_cons]
    constructor
    · rintro ((h | ⟨rfl, hne⟩) | ⟨h, hne⟩)
      · exact Or.inl h
      · exact Or.inr ⟨Or.inl rfl, hne⟩
      · exact Or.inr ⟨Or.inr h, hne⟩
    · rintro (h | ⟨rfl | h, hne⟩)
      · exact Or.inl (Or.inl h)
      · exact Or.inl (Or.inr ⟨rfl, hne⟩)
      · exact Or.inr ⟨h, hne⟩

/-- The names of a template are those mentioned in it, the empty name apart. -/
theorem mem_names_iff {template n : Text} :
    n ∈ names template ↔ n ∈ mentioned template ∧ n ≠ [] := by
  rw [names, mem_foldl_addName_iff]
  simp

/-- The names that are collected come in the order in which they are first found. -/
theorem foldl_addName_pairwise (found : List Text) :
    (found.foldl addName []).Pairwise fun m n => found.idxOf m < found.idxOf n := by
  rw [← List.reverse_reverse found]
  -- on the names found so far, the last one first
  induction found.reverse with
  | nil => exact List.Pairwise.nil
  | cons x before ih =>
    rw [List.reverse_cons]
    generalize before.reverse = found at ih ⊢
    have hfound : ∀ m ∈ found.foldl addName [], m ∈ found := by
      intro m hm
      rcases mem_foldl_addName_iff.1 hm with h | h
      · cases h
      · exact h.1
    have hkeep : ∀ m ∈ found, (found ++ [x]).idxOf m = found.idxOf m := by
      intro m hm
      rw [List.idxOf_append, if_pos hm]
    have hold : (found.foldl addName []).Pairwise
        fun m n => (found ++ [x]).idxOf m < (found ++ [x]).idxOf n := by
      refine ih.imp_of_mem fun hm hn hlt => ?_
      rwa [hkeep _ (hfound _ hm), hkeep _ (hfound _ hn)]
    rw [List.foldl_append, List.foldl_cons, List.foldl_nil, addName]
    split
    · exact hold
    · next hnew =>
      obtain ⟨hne, hnotin⟩ := not_or.1 hnew
      have hx : x ∉ found := fun hx => hnotin (mem_foldl_addName_iff.2 (Or.inr ⟨hx, hne⟩))
      rw [List.pairwise_append]
      refine ⟨hold, List.pairwise_singleton _ _, fun m hm n hn => ?_⟩
      obtain rfl := List.mem_singleton.1 hn
      have hlast : (found ++ [n]).idxOf n = found.length := by
        rw [List.idxOf_append, if_neg hx, List.idxOf_cons_self, Nat.zero_add]
      rw [hkeep _ (hfound _ hm), hlast]
      exact List.idxOf_lt_length_of_mem (hfound _ hm)

/-- No name of a template comes twice. -/
theorem names_nodup (template : Text) : (names template).Nodup := by
  refine (foldl_addName_pairwise (mentioned template)).imp fun hlt heq => ?_
  rw [heq] at hlt
  exact Nat.lt_irrefl _ hlt

/-- Names are mentioned in lower case. -/
theorem lower_of_mem_names {template n : Text} (hn : n ∈ names template) : Text.lower n = n := by
  obtain ⟨p, -, halt⟩ := List.mem_flatMap.1 (mem_names_iff.1 hn).1
  obtain ⟨alt, -, rfl⟩ := List.mem_map.1 halt
  exact Text.lower_lower alt.name

/-- The name of an alternative is mentioned in lower case. -/
theorem lower_name_mem_mentioned {template : Text} {p : Placeholder} {a : Alternative}
    (hp : p ∈ placeholders template) (ha : a ∈ p.alternatives) :
    Text.lower a.name ∈ mentioned template :=
  List.mem_flatMap.2 ⟨p, hp, List.mem_map.2 ⟨a, ha, rfl⟩⟩

/-- An alternative that is not empty is among the names of its template. -/
theorem lower_name_mem_names {template : Text} {p : Placeholder} {a : Alternative}
    (hp : p ∈ placeholders template) (ha : a ∈ p.alternatives) (hne : a.name ≠ []) :
    Text.lower a.name ∈ names template :=
  mem_names_iff.2 ⟨lower_name_mem_mentioned hp ha, by simpa using hne⟩

end DownloadNames.Template
