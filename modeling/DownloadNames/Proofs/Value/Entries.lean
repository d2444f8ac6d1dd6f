import DownloadNames.Value.Basic

/-
The entries of a mapping, whose keys are the same if they are equal as numbers.

`lookup?` and `putEntry` go by the form of a key, and a key that is put again keeps the spelling in
which it came first.  All that later modules need is how the two go along the entries
(`lookup?_cons`, `putEntry_cons`), what is found after an entry is put (`lookup?_putEntry`) and which
keys there are then (`keys_putEntry`).  A text is equal to no other key, so for texts both are those
of association lists.
-/

namespace DownloadNames

@[simp] theorem Scalar.keyForm_text (s : Text) : (Scalar.text s).keyForm = .text s := rfl

/-- A text is equal to no key but itself. -/
theorem Scalar.keyForm_eq_text_iff {k : Scalar} {s : Text} : k.keyForm = .text s ↔ k = .text s := by
  constructor
  · intro h
    unfold keyForm at h
    split at h
    · cases h
    · split at h <;> cases h
    · exact h
  · rintro rfl
    rfl

namespace Value

open Assoc (find? put keys)

variable {k k' : Scalar} {v w : Value} {es : Entries}

/-! ## Along the entries -/

@[simp] theorem lookup?_nil (k : Scalar) : lookup? k [] = none := rfl

theorem lookup?_cons (k : Scalar) (e : Scalar × Value) (es : Entries) :
    lookup? k (e :: es) = if e.1.keyForm = k.keyForm then some e.2 else lookup? k es := by
  by_cases he : e.1.keyForm = k.keyForm <;> simp [lookup?, he]

/-- Equal keys are found alike. -/
theorem lookup?_congr (h : k.keyForm = k'.keyForm) (es : Entries) :
    lookup? k es = lookup? k' es := by
  rw [lookup?, lookup?, h]

@[simp] theorem putEntry_nil (k : Scalar) (v : Value) : putEntry [] k v = [(k, v)] := rfl

theorem keyForm_storedKey (k : Scalar) (es : Entries) : (storedKey k es).keyForm = k.keyForm := by
  rw [storedKey]
  split
  · next e he => simpa using List.find?_some he
  · rfl

theorem storedKey_cons (k : Scalar) (e : Scalar × Value) (es : Entries) :
    storedKey k (e :: es) = if e.1.keyForm = k.keyForm then e.1 else storedKey k es := by
  by_cases he : e.1.keyForm = k.keyForm <;> simp [storedKey, he]

theorem putEntry_cons (e : Scalar × Value) (es : Entries) (k : Scalar) (v : Value) :
    putEntry (e :: es) k v
      = if e.1.keyForm = k.keyForm then (e.1, v) :: es else e :: putEntry es k v := by
  rw [putEntry, storedKey_cons]
  by_cases he : e.1.keyForm = k.keyForm
  · rw [if_pos he, if_pos he, put, if_pos rfl]
  · -- the key under which the entry is stored further on is equal to `k`, so it is not this one
    have hne : e.1 ≠ storedKey k es := by
      intro heq
      rw [heq, keyForm_storedKey] at he
      exact he rfl
    rw [if_neg he, if_neg he, put, if_neg hne]
    rfl

/-! ## Putting an entry -/

/-- After an entry is put its key has the new value and every other key its old one. -/
theorem lookup?_putEntry (k k' : Scalar) (v : Value) (es : Entries) :
    lookup? k' (putEntry es k v)
      = if k.keyForm = k'.keyForm then some v else lookup? k' es := by
  induction es with
  | nil => rw [putEntry_nil, lookup?_cons]
  | cons e es ih =>
    rw [putEntry_cons, lookup?_cons]
    by_cases he : e.1.keyForm = k.keyForm
    · rw [if_pos he, lookup?_cons, he]
      by_cases hk : k.keyForm = k'.keyForm
      · rw [if_pos hk, if_pos hk]
      · rw [if_neg hk, if_neg hk, if_neg hk]
    · rw [if_neg he, lookup?_cons, ih]
      by_cases hk : k.keyForm = k'.keyForm
      · rw [← hk, if_neg he, if_pos rfl, if_pos rfl]
      · rw [if_neg hk, if_neg hk]

/-- Of two values put for equal keys the later counts. -/
theorem putEntry_putEntry (h : k.keyForm = k'.keyForm) (v w : Value) (es : Entries) :
    putEntry (putEntry es k v) k' w = putEntry es k w := by
  induction es with
  | nil => rw [putEntry_nil, putEntry_cons, if_pos h, putEntry_nil]
  | cons e es ih =>
    rw [putEntry_cons, putEntry_cons]
    by_cases he : e.1.keyForm = k.keyForm
    · rw [if_pos he, if_pos he, putEntry_cons, if_pos (he.trans h)]
    · rw [if_neg he, if_neg he, putEntry_cons, if_neg (h ▸ he), ih]

/-- The keys are the same as before, but for one that is new. -/
theorem keys_putEntry (es : Entries) (k : Scalar) (v : Value) :
    keys (putEntry es k v) = if (lookup? k es).isSome then keys es else keys es ++ [k] := by
  induction es with
  | nil => rfl
  | cons e es ih =>
    rw [putEntry_cons, lookup?_cons]
    by_cases he : e.1.keyForm = k.keyForm
    · rw [if_pos he, if_pos he]
      rfl
    · have hcons : ∀ rest : Entries, keys (e :: rest) = e.1 :: keys rest := fun _ => rfl
      rw [if_neg he, if_neg he, hcons, hcons, ih]
      split <;> rfl

/-- A new key is put at the end. -/
theorem putEntry_of_lookup?_eq_none (h : lookup? k es = none) (v : Value) :
    putEntry es k v = es ++ [(k, v)] := by
  induction es with
  | nil => rfl
  | cons e es ih =>
    rw [lookup?_cons] at h
    by_cases he : e.1.keyForm = k.keyForm
    · rw [if_pos he] at h
      cases h
    · rw [if_neg he] at h
      rw [putEntry_cons, if_neg he, ih h, List.cons_append]

/-- Two keys can be put in either order if one of them has its place already. -/
theorem putEntry_comm (hne : k.keyForm ≠ k'.keyForm) (v w : Value)
    (hk : (lookup? k es).isSome = true) :
    putEntry (putEntry es k' w) k v = putEntry (putEntry es k v) k' w := by
  induction es with
  | nil => cases hk
  | cons e es ih =>
    rw [putEntry_cons, putEntry_cons]
    rw [lookup?_cons] at hk
    by_cases he : e.1.keyForm = k.keyForm
    · have he' : e.1.keyForm ≠ k'.keyForm := he ▸ hne
      rw [if_neg he', if_pos he, putEntry_cons, if_pos he, putEntry_cons, if_neg he']
    · rw [if_neg he] at hk ⊢
      by_cases he' : e.1.keyForm = k'.keyForm
      · rw [if_pos he', putEntry_cons, if_neg he, putEntry_cons, if_pos he']
      · rw [if_neg he', putEntry_cons, if_neg he, putEntry_cons, if_neg he', ih hk]

/-! ## Entries that name no key twice -/

/-- No two keys are equal. -/
def Distinct (entries : Entries) : Prop := (entries.map fun e => e.1.keyForm).Nodup

instance (entries : Entries) : Decidable (Distinct entries) :=
  inferInstanceAs (Decidable (List.Nodup _))

theorem lookup?_eq_none_iff : lookup? k es = none ↔ ∀ e ∈ es, e.1.keyForm ≠ k.keyForm := by
  simp [lookup?]

theorem distinct_nil : Distinct [] := List.nodup_nil

theorem distinct_cons_iff {e : Scalar × Value} :
    Distinct (e :: es) ↔ lookup? e.1 es = none ∧ Distinct es := by
  rw [Distinct, List.map_cons, List.nodup_cons, List.mem_map, lookup?_eq_none_iff]
  simp [Distinct]

theorem Distinct.putEntry (h : Distinct es) (k : Scalar) (v : Value) :
    Distinct (putEntry es k v) := by
  induction es with
  | nil => exact distinct_cons_iff.2 ⟨rfl, distinct_nil⟩
  | cons e es ih =>
    obtain ⟨hnew, hes⟩ := distinct_cons_iff.1 h
    rw [putEntry_cons]
    by_cases he : e.1.keyForm = k.keyForm
    · rw [if_pos he]
      exact distinct_cons_iff.2 ⟨hnew, hes⟩
    · rw [if_neg he]
      refine distinct_cons_iff.2 ⟨?_, ih hes⟩
      rw [lookup?_putEntry, if_neg (Ne.symm he), hnew]

/-! ## Texts as keys -/

section Texts

variable (s : Text)

theorem lookup?_text (es : Entries) : lookup? (.text s) es = find? (.text s) es := by
  induction es with
  | nil => rfl
  | cons e es ih =>
    rw [lookup?_cons, find?, ih, Scalar.keyForm_text]
    simp only [Scalar.keyForm_eq_text_iff]

theorem putEntry_text (es : Entries) (v : Value) :
    putEntry es (.text s) v = put (.text s) v es := by
  induction es with
  | nil => rfl
  | cons e es ih =>
    rw [putEntry_cons, put, ih, Scalar.keyForm_text]
    by_cases he : e.1 = .text s
    · rw [if_pos (Scalar.keyForm_eq_text_iff.2 he), if_pos he]
    · rw [if_neg (mt Scalar.keyForm_eq_text_iff.1 he), if_neg he]

theorem Distinct.put_text (h : Distinct es) (v : Value) : Distinct (put (.text s) v es) := by
  rw [← putEntry_text]
  exact h.putEntry _ v

theorem lookup?_put_text (k : Scalar) (v : Value) (es : Entries) :
    lookup? k (put (.text s) v es) = if .text s = k then some v else lookup? k es := by
  rw [← putEntry_text, lookup?_putEntry, Scalar.keyForm_text]
  by_cases hk : .text s = k
  · rw [← hk, Scalar.keyForm_text, if_pos rfl]
  · have hform : .text s ≠ k.keyForm := fun h => hk (Scalar.keyForm_eq_text_iff.1 h.symm).symm
    rw [if_neg hk, if_neg hform]

end Texts
end Value
end DownloadNames
