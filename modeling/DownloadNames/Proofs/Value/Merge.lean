import DownloadNames.Value.Merge
import DownloadNames.Proofs.Value.Entries

/-
What merging two mappings gives, key by key.

The entries of the upper mapping are laid over the lower one from the first to the last, so merging
is described for an upper mapping that names no key twice: each key has what `mergeValue` makes of
both its values (`lookup?_mergeEntries`), the keys that are new follow the others
(`keys_mergeEntries`), and an entry put into the upper mapping is put into the result
(`mergeEntries_putEntry`).
-/

namespace DownloadNames.Value

open Assoc (find? put keys)

/-- The value is a mapping. -/
def IsMapping : Value → Prop
  | .map _ => True
  | _ => False

theorem isMapping_iff {v : Value} : IsMapping v ↔ ∃ entries, v = .map entries := by
  cases v <;> simp [IsMapping]

@[simp] theorem mergeEntries_nil (lower : Entries) : mergeEntries lower [] = lower := by
  rw [mergeEntries]

theorem mergeEntries_cons (lower : Entries) (k : Scalar) (v : Value) (rest : Entries) :
    mergeEntries lower ((k, v) :: rest)
      = mergeEntries (putEntry lower k (mergeValue (lookup? k lower) v)) rest := by
  rw [mergeEntries]

/-- Two mappings are merged. -/
theorem mergeValue_map_map (lower upper : Entries) :
    mergeValue (some (.map lower)) (.map upper) = .map (mergeEntries lower upper) := by
  rw [mergeValue]

/-- A mapping stands as it is where there is no mapping below it. -/
theorem mergeValue_map_of_not {lower : Option Value} (h : ∀ v ∈ lower, ¬ IsMapping v)
    (upper : Entries) : mergeValue lower (.map upper) = .map upper := by
  rw [mergeValue]
  rintro base rfl
  exact h _ rfl trivial

@[simp] theorem mergeValue_none (v : Value) : mergeValue none v = v := by
  cases v with
  | map upper => exact mergeValue_map_of_not (by simp) upper
  | scalar => rw [mergeValue]; simp
  | list => rw [mergeValue]; simp

/-- What is no mapping stands as it is. -/
theorem mergeValue_of_not {v : Value} (h : ¬ IsMapping v) (lower : Option Value) :
    mergeValue lower v = v := by
  cases v with
  | map => exact absurd trivial h
  | scalar => rw [mergeValue]; simp
  | list => rw [mergeValue]; simp

/-- Over nothing, a mapping that names no key twice is laid as it is. -/
theorem mergeEntries_nil_left {upper : Entries} (h : Distinct upper) :
    mergeEntries [] upper = upper := by
  -- what has been laid already grows at its end, and no key that follows is in it
  suffices ∀ laid, (∀ e ∈ upper, lookup? e.1 laid = none) →
      mergeEntries laid upper = laid ++ upper from this [] fun _ _ => rfl
  induction upper with
  | nil => simp
  | cons e rest ih =>
    intro laid hnew
    obtain ⟨k, v⟩ := e
    obtain ⟨hk, hrest⟩ := distinct_cons_iff.1 h
    obtain ⟨hlaid, hothers⟩ := List.forall_mem_cons.1 hnew
    have hgrown : ∀ e ∈ rest, lookup? e.1 (laid ++ [(k, v)]) = none := by
      intro e he
      have hne : k.keyForm ≠ e.1.keyForm := Ne.symm (lookup?_eq_none_iff.1 hk e he)
      rw [← putEntry_of_lookup?_eq_none hlaid, lookup?_putEntry, if_neg hne, hothers e he]
    rw [mergeEntries_cons, hlaid, mergeValue_none, putEntry_of_lookup?_eq_none hlaid,
      ih hrest _ hgrown, List.append_assoc, List.singleton_append]

/-- Each key has what merging makes of its two values, and its lower value where the upper mapping
does not name it. -/
theorem lookup?_mergeEntries {upper : Entries} (h : Distinct upper) (lower : Entries)
    (k : Scalar) :
    lookup? k (mergeEntries lower upper)
      = ((lookup? k upper).map (mergeValue (lookup? k lower))).or (lookup? k lower) := by
  induction upper generalizing lower with
  | nil => simp
  | cons e rest ih =>
    obtain ⟨k', v⟩ := e
    obtain ⟨hnew, hrest⟩ := distinct_cons_iff.1 h
    rw [mergeEntries_cons, ih hrest, lookup?_putEntry, lookup?_cons]
    by_cases hk : k'.keyForm = k.keyForm
    · have hnone : lookup? k rest = none := by rw [← lookup?_congr hk, hnew]
      simp [hk, hnone, lookup?_congr hk]
    · simp [hk]

/-- The keys of the lower mapping keep their order, and new ones follow in that of the upper one. -/
theorem keys_mergeEntries {upper : Entries} (h : Distinct upper) (lower : Entries) :
    keys (mergeEntries lower upper)
      = keys lower ++ (keys upper).filter fun k => (lookup? k lower).isNone := by
  induction upper generalizing lower with
  | nil => simp [keys]
  | cons e rest ih =>
    obtain ⟨k, v⟩ := e
    obtain ⟨hnew, hrest⟩ := distinct_cons_iff.1 h
    -- the keys that follow are not equal to the first
    have hfilter : ∀ w, (keys rest).filter (fun k' => (lookup? k' (putEntry lower k w)).isNone)
        = (keys rest).filter fun k' => (lookup? k' lower).isNone := by
      intro w
      refine List.filter_congr fun k' hk' => ?_
      obtain ⟨e, he, rfl⟩ := List.mem_map.1 hk'
      have hne : k.keyForm ≠ e.1.keyForm := Ne.symm (lookup?_eq_none_iff.1 hnew e he)
      rw [lookup?_putEntry, if_neg hne]
    have hcons : keys ((k, v) :: rest) = k :: keys rest := rfl
    rw [mergeEntries_cons, ih hrest, hfilter, keys_putEntry, hcons, List.filter_cons]
    cases lookup? k lower <;> simp

/-- A key that has its place already and that the upper mapping does not name may be put before or
after merging. -/
theorem putEntry_mergeEntries {lower upper : Entries} {k : Scalar} (v : Value)
    (hk : (lookup? k lower).isSome = true) (hnew : lookup? k upper = none) :
    putEntry (mergeEntries lower upper) k v = mergeEntries (putEntry lower k v) upper := by
  induction upper generalizing lower with
  | nil => simp
  | cons e rest ih =>
    obtain ⟨k', w⟩ := e
    obtain ⟨hne, hrest⟩ := List.forall_mem_cons.1 (lookup?_eq_none_iff.1 hnew)
    have hne' : k.keyForm ≠ k'.keyForm := Ne.symm hne
    have hkept : (lookup? k (putEntry lower k' (mergeValue (lookup? k' lower) w))).isSome = true := by
      rwa [lookup?_putEntry, if_neg hne]
    rw [mergeEntries_cons, mergeEntries_cons, ih hkept (lookup?_eq_none_iff.2 hrest),
      lookup?_putEntry, if_neg hne', putEntry_comm hne' _ _ hk]

/-- An entry put into the upper mapping is put into the result. -/
theorem mergeEntries_putEntry {upper : Entries} (h : Distinct upper) (lower : Entries) (k : Scalar)
    (v : Value) :
    mergeEntries lower (putEntry upper k v)
      = putEntry (mergeEntries lower upper) k (mergeValue (lookup? k lower) v) := by
  induction upper generalizing lower with
  | nil => simp [mergeEntries_cons]
  | cons e rest ih =>
    obtain ⟨k', w⟩ := e
    obtain ⟨hnew, hrest⟩ := distinct_cons_iff.1 h
    rw [putEntry_cons]
    by_cases hk : k'.keyForm = k.keyForm
    · -- the key is put over once more, and is not named again
      have hplace : (lookup? k (putEntry lower k' (mergeValue (lookup? k' lower) w))).isSome
          = true := by
        rw [lookup?_putEntry, if_pos hk]
        rfl
      have hnone : lookup? k rest = none := by rw [← lookup?_congr hk, hnew]
      rw [if_pos hk, mergeEntries_cons, mergeEntries_cons, putEntry_mergeEntries _ hplace hnone,
        putEntry_putEntry hk, lookup?_congr hk]
    · rw [if_neg hk, mergeEntries_cons, mergeEntries_cons, ih hrest, lookup?_putEntry, if_neg hk]

/-- A text put into the upper mapping is put into the result. -/
theorem mergeEntries_put_text {upper : Entries} (h : Distinct upper) (lower : Entries) (s : Text)
    (v : Value) :
    mergeEntries lower (put (.text s) v upper)
      = put (.text s) (mergeValue (find? (.text s) lower) v) (mergeEntries lower upper) := by
  rw [← putEntry_text, mergeEntries_putEntry h, putEntry_text, lookup?_text]

/-! ## Paths -/

theorem at?_cons (k : Scalar) (ks : List Scalar) (es : Entries) :
    at? (k :: ks) (.map es) = (lookup? k es).bind (at? ks) := by
  rw [at?]

/-- The empty path leads nowhere else. -/
theorem bind_at?_nil (v : Option Value) : v.bind (at? []) = v := by
  cases v with
  | none => rfl
  | some v => rw [Option.bind_some, at?]

theorem at?_singleton (k : Scalar) (es : Entries) : at? [k] (.map es) = lookup? k es := by
  rw [at?_cons, bind_at?_nil]

end DownloadNames.Value
