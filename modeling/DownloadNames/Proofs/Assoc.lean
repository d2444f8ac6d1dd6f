import DownloadNames.Assoc

/-
What a table holds after pairs have been put into it.

A key has the value of the last pair that was put for it (`find?_putAll`), and the keys stand in the
order in which they were first put (`keys_putAll`).  A key that is put again changes its value but
not its place, so of two keys the one that stands later need not be the one that was put last.
-/

namespace DownloadNames.Assoc

variable {κ ν : Type} {p : κ → Bool} {pairs : List (κ × ν)}

/-- The value of the last pair whose key has a property. -/
def lastValue? (p : κ → Bool) (pairs : List (κ × ν)) : Option ν :=
  (pairs.reverse.find? fun e => p e.1).map Prod.snd

/-- A pair gives the value if its key has the property and that of no pair behind it has. -/
theorem lastValue?_eq_some_iff {v : ν} :
    lastValue? p pairs = some v ↔
      ∃ before k after, pairs = before ++ (k, v) :: after ∧ p k = true
        ∧ ∀ e ∈ after, p e.1 = false := by
  simp only [lastValue?, Option.map_eq_some_iff, List.find?_eq_some_iff_append]
  constructor
  · rintro ⟨⟨k, v⟩, ⟨hk, after, before, hsplit, hafter⟩, rfl⟩
    refine ⟨before.reverse, k, after.reverse, ?_, hk, fun e he => ?_⟩
    · simpa using congrArg List.reverse hsplit
    · simpa using hafter e (List.mem_reverse.1 he)
  · rintro ⟨before, k, after, rfl, hk, hafter⟩
    refine ⟨(k, v), ⟨hk, after.reverse, before.reverse, by simp, fun e he => ?_⟩, rfl⟩
    rw [hafter e (List.mem_reverse.1 he)]
    rfl

theorem lastValue?_append (ps qs : List (κ × ν)) :
    lastValue? p (ps ++ qs) = (lastValue? p qs).or (lastValue? p ps) := by
  rw [lastValue?, List.reverse_append, List.find?_append, Option.map_or]
  rfl

theorem lastValue?_cons (e : κ × ν) (pairs : List (κ × ν)) :
    lastValue? p (e :: pairs) = (lastValue? p pairs).or (if p e.1 then some e.2 else none) := by
  rw [← List.singleton_append, lastValue?_append]
  cases he : p e.1 <;> simp [lastValue?, he]

/-- Renaming the keys is asking for the new names. -/
theorem lastValue?_map {ι : Type} (f : ι → κ) (pairs : List (ι × ν)) :
    lastValue? p (pairs.map fun e => (f e.1, e.2)) = lastValue? (fun i => p (f i)) pairs := by
  rw [lastValue?, lastValue?, ← List.map_reverse, List.find?_map, Option.map_map]
  rfl

/-- The values may be changed before or after one of them is chosen. -/
theorem lastValue?_map_values {μ : Type} (f : ν → μ) (pairs : List (κ × ν)) :
    lastValue? p (pairs.map fun e => (e.1, f e.2)) = (lastValue? p pairs).map f := by
  rw [lastValue?, lastValue?, ← List.map_reverse, List.find?_map, Option.map_map, Option.map_map]
  rfl

theorem lastValue?_isSome_iff : (lastValue? p pairs).isSome = true ↔ ∃ e ∈ pairs, p e.1 = true := by
  rw [lastValue?, Option.isSome_map, List.find?_isSome]
  simp

/-- Only what the property says of the keys that are there counts. -/
theorem lastValue?_congr {q : κ → Bool} (h : ∀ k ∈ keys pairs, p k = q k) :
    lastValue? p pairs = lastValue? q pairs := by
  induction pairs with
  | nil => rfl
  | cons e pairs ih =>
    rw [lastValue?_cons, lastValue?_cons, ih fun k hk => h k (List.mem_cons_of_mem _ hk),
      h e.1 List.mem_cons_self]

section Keys

variable [DecidableEq κ] {table : List (κ × ν)}

/-- A key has the last value that was put for it, or else the one it had. -/
theorem find?_putAll (k : κ) (table pairs : List (κ × ν)) :
    find? k (putAll table pairs) = (lastValue? (· = k) pairs).or (find? k table) := by
  induction pairs generalizing table with
  | nil => rfl
  | cons e pairs ih =>
    rw [putAll_cons, ih, find?_put, lastValue?_cons, Option.or_assoc]
    by_cases he : e.1 = k <;> simp [he]

/-- Of the pairs put under new names a name has the last whose key is renamed to it. -/
theorem find?_putAll_map {ι : Type} (f : ι → κ) (k : κ) (pairs : List (ι × ν)) :
    find? k (putAll [] (pairs.map fun e => (f e.1, e.2)))
      = lastValue? (fun i => f i = k) pairs := by
  rw [find?_putAll, find?_nil, Option.or_none, lastValue?_map]

theorem nodup_keys_putAll_nil (pairs : List (κ × ν)) : (keys (putAll [] pairs)).Nodup := by
  have hnil : (keys ([] : List (κ × ν))).Nodup := List.nodup_nil
  exact nodup_keys_putAll hnil pairs

/-- The keys stand in the order in which they were first put. -/
theorem keys_putAll [BEq κ] [LawfulBEq κ] (pairs : List (κ × ν)) :
    keys (putAll [] pairs) = (keys pairs).eraseDups := by
  rw [← List.reverse_reverse pairs]
  -- on the pairs put so far, the last one first
  induction pairs.reverse with
  | nil => rfl
  | cons e before ih =>
    rw [List.reverse_cons]
    generalize before.reverse = pairs at ih ⊢
    have hput : keys (putAll [] (pairs ++ [e])) = keys (put e.1 e.2 (putAll [] pairs)) := by
      rw [putAll_append]
      rfl
    have hkeys : keys (pairs ++ [e]) = keys pairs ++ [e.1] := List.map_append
    rw [hput, keys_put, ih, hkeys, List.eraseDups_append]
    by_cases he : e.1 ∈ keys pairs <;>
      simp [List.mem_eraseDups, List.removeAll, List.eraseDups_cons, he]

/-- Where no key comes twice, the last key with a property has the last value of such a key. -/
theorem lastValue?_eq_bind (hnodup : (keys table).Nodup) :
    lastValue? p table = ((keys table).filter p).getLast?.bind fun k => find? k table := by
  have hlast : ((keys table).filter p).getLast?
      = (table.reverse.find? fun e => p e.1).map Prod.fst := by
    rw [List.getLast?_eq_head?_reverse, ← List.filter_reverse, List.head?_filter, keys,
      ← List.map_reverse, List.find?_map]
    rfl
  rw [hlast, lastValue?]
  cases hfind : table.reverse.find? fun e => p e.1 with
  | none => rfl
  | some e =>
    have hmem : e ∈ table := List.mem_reverse.1 (List.mem_of_find?_eq_some hfind)
    exact ((find?_eq_some_iff hnodup).2 hmem).symm

/-- Putting the pairs loses nothing of a property that one of their keys has at most. -/
theorem lastValue?_putAll_of_forall_eq {k : κ} (hk : p k = true)
    (honly : ∀ k' ∈ keys pairs, p k' = true → k' = k) :
    lastValue? p (putAll [] pairs) = lastValue? p pairs := by
  have hkey (k' : κ) (hmem : k' ∈ keys pairs) : p k' = decide (k' = k) := by
    by_cases heq : k' = k
    · rw [heq, hk, decide_eq_true rfl]
    · rw [decide_eq_false heq, Bool.eq_false_iff]
      exact fun h => heq (honly k' hmem h)
  have htwice : putAll [] (putAll [] pairs) = putAll [] pairs :=
    putAll_of_nodup (nodup_keys_putAll_nil pairs)
  calc lastValue? p (putAll [] pairs)
      = lastValue? (· = k) (putAll [] pairs) := by
        refine lastValue?_congr fun k' hmem => hkey k' ?_
        rwa [keys_putAll, List.mem_eraseDups] at hmem
    _ = find? k (putAll [] (putAll [] pairs)) := by
        rw [find?_putAll, find?_nil, Option.or_none]
    _ = lastValue? (· = k) pairs := by
        rw [htwice, find?_putAll, find?_nil, Option.or_none]
    _ = lastValue? p pairs := (lastValue?_congr hkey).symm

end Keys
end DownloadNames.Assoc
