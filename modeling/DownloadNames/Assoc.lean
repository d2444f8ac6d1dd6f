/-
Association lists in order of first insertion.

Putting a key that is already there changes its value and keeps its place.  `find?` and `keys`
are the two views: the last value put for a key, and the keys in order of first insertion.
-/

namespace DownloadNames.Assoc

variable {κ ν : Type} [DecidableEq κ]

/-- The value of a key. -/
def find? (k : κ) : List (κ × ν) → Option ν
  | [] => none
  | (k', v) :: rest => if k' = k then some v else find? k rest

/-- Sets the value of a key, at its place if it has one and at the end otherwise. -/
def put (k : κ) (v : ν) : List (κ × ν) → List (κ × ν)
  | [] => [(k, v)]
  | (k', v') :: rest => if k' = k then (k', v) :: rest else (k', v') :: put k v rest

/-- Puts the pairs one after the other. -/
def putAll (table pairs : List (κ × ν)) : List (κ × ν) :=
  pairs.foldl (fun acc kv => put kv.1 kv.2 acc) table

/-- The keys in order. -/
def keys (table : List (κ × ν)) : List κ := table.map Prod.fst

/-- The key has a value. -/
def has (k : κ) (table : List (κ × ν)) : Bool := (find? k table).isSome

@[simp] theorem find?_nil (k : κ) : find? k ([] : List (κ × ν)) = none := rfl

@[simp] theorem put_nil (k : κ) (v : ν) : put k v [] = [(k, v)] := rfl

@[simp] theorem putAll_nil (table : List (κ × ν)) : putAll table [] = table := rfl

@[simp] theorem putAll_cons (table : List (κ × ν)) (p : κ × ν) (ps : List (κ × ν)) :
    putAll table (p :: ps) = putAll (put p.1 p.2 table) ps := rfl

theorem putAll_append (table ps qs : List (κ × ν)) :
    putAll table (ps ++ qs) = putAll (putAll table ps) qs := by
  simp [putAll]

/-- After a put the key has the new value and every other key its old one. -/
theorem find?_put (k k' : κ) (v : ν) (table : List (κ × ν)) :
    find? k' (put k v table) = if k = k' then some v else find? k' table := by
  induction table with
  | nil => simp [put, find?]
  | cons p ps ih =>
    obtain ⟨a, b⟩ := p
    by_cases ha : a = k
    · subst ha
      by_cases hk : a = k' <;> simp [put, find?, hk]
    · by_cases hk : k = k'
      · subst hk
        simp [put, find?, ha, ih]
      · by_cases hak : a = k'
        · subst hak; simp [put, find?, ha, hk]
        · simp [put, find?, ha, hk, hak, ih]

/-- A put adds the key at the end if it is new. -/
theorem keys_put (k : κ) (v : ν) (table : List (κ × ν)) :
    keys (put k v table) = if k ∈ keys table then keys table else keys table ++ [k] := by
  induction table with
  | nil => simp [put, keys]
  | cons p ps ih =>
    obtain ⟨a, b⟩ := p
    by_cases ha : a = k
    · subst ha; simp [put, keys]
    · have hka : ¬ k = a := fun e => ha e.symm
      simp only [keys] at ih
      by_cases hk : k ∈ ps.map Prod.fst <;> simp [put, keys, ha, hka, hk, ih]

/-- A new key is put at the end. -/
theorem put_of_not_mem {k : κ} {v : ν} {table : List (κ × ν)} (h : k ∉ keys table) :
    put k v table = table ++ [(k, v)] := by
  induction table with
  | nil => rfl
  | cons p ps ih =>
    obtain ⟨a, b⟩ := p
    obtain ⟨ha, hps⟩ : ¬ k = a ∧ k ∉ keys ps := by simpa [keys] using h
    rw [put, if_neg (Ne.symm ha), ih hps, List.cons_append]

theorem mem_put {k k' : κ} {v v' : ν} {table : List (κ × ν)} (h : (k', v') ∈ put k v table) :
    (k', v') = (k, v) ∨ (k', v') ∈ table := by
  induction table with
  | nil => exact Or.inl (List.mem_singleton.1 h)
  | cons p ps ih =>
    obtain ⟨a, b⟩ := p
    by_cases ha : a = k
    · rw [put, if_pos ha, List.mem_cons] at h
      rcases h with h | h
      · exact Or.inl (by rw [h, ha])
      · exact Or.inr (List.mem_cons_of_mem _ h)
    · rw [put, if_neg ha, List.mem_cons] at h
      rcases h with h | h
      · exact Or.inr (by rw [h]; exact List.mem_cons_self)
      · exact (ih h).imp_right (List.mem_cons_of_mem _)

/-- What is found in a table after puts was there before or was put. -/
theorem mem_putAll {k : κ} {v : ν} {table pairs : List (κ × ν)}
    (h : (k, v) ∈ putAll table pairs) : (k, v) ∈ table ∨ (k, v) ∈ pairs := by
  induction pairs generalizing table with
  | nil => exact Or.inl h
  | cons p ps ih =>
    rcases ih h with h | h
    · rcases mem_put h with h | h
      · exact Or.inr (by rw [h]; exact List.mem_cons_self)
      · exact Or.inl h
    · exact Or.inr (List.mem_cons_of_mem _ h)

/-- Pairs that name no key twice, and none of the table, are put behind it as they are. -/
theorem putAll_of_nodup {table pairs : List (κ × ν)} (h : (keys (table ++ pairs)).Nodup) :
    putAll table pairs = table ++ pairs := by
  induction pairs generalizing table with
  | nil => simp
  | cons p ps ih =>
    obtain ⟨k, v⟩ := p
    have hnew : k ∉ keys table := by
      intro hmem
      rw [keys, List.map_append, List.nodup_append] at h
      exact h.2.2 k hmem k (by simp) rfl
    rw [putAll_cons, put_of_not_mem hnew, ih (by simpa using h), List.append_assoc,
      List.singleton_append]

theorem nodup_keys_put (k : κ) (v : ν) {table : List (κ × ν)} (h : (keys table).Nodup) :
    (keys (put k v table)).Nodup := by
  rw [keys_put]
  by_cases hk : k ∈ keys table
  · simpa [hk] using h
  · simp only [hk, if_false]
    refine List.nodup_append.2 ⟨h, by simp, ?_⟩
    intro a ha b hb hab
    simp only [List.mem_singleton] at hb
    exact hk (by rw [← hb, ← hab]; exact ha)

theorem nodup_keys_putAll {table : List (κ × ν)} (h : (keys table).Nodup)
    (pairs : List (κ × ν)) : (keys (putAll table pairs)).Nodup := by
  induction pairs generalizing table with
  | nil => exact h
  | cons p ps ih => exact ih (nodup_keys_put p.1 p.2 h)

/-- A key is found exactly when it is among the keys. -/
theorem find?_isSome_iff (k : κ) (table : List (κ × ν)) :
    (find? k table).isSome = true ↔ k ∈ keys table := by
  induction table with
  | nil => simp [keys]
  | cons p ps ih =>
    obtain ⟨a, b⟩ := p
    simp only [keys] at ih
    by_cases ha : a = k
    · subst ha; simp [find?, keys]
    · have hka : ¬ k = a := fun e => ha e.symm
      simp [find?, keys, ha, hka, ih]

theorem find?_eq_none_iff (k : κ) (table : List (κ × ν)) :
    find? k table = none ↔ k ∉ keys table := by
  rw [← find?_isSome_iff, Bool.not_eq_true, Option.isSome_eq_false_iff, Option.isNone_iff_eq_none]

/-- Where no key comes twice, a key has the value that stands beside it. -/
theorem find?_eq_some_iff {k : κ} {v : ν} {table : List (κ × ν)} (h : (keys table).Nodup) :
    find? k table = some v ↔ (k, v) ∈ table := by
  induction table with
  | nil => simp
  | cons p ps ih =>
    obtain ⟨a, b⟩ := p
    obtain ⟨hnew, hps⟩ := List.nodup_cons.1 h
    by_cases ha : a = k
    · subst ha
      have hnone : (a, v) ∉ ps := fun hmem => hnew (List.mem_map.2 ⟨_, hmem, rfl⟩)
      simp [find?, hnone, eq_comm]
    · simp [find?, ha, Ne.symm ha, ih hps]

end DownloadNames.Assoc
