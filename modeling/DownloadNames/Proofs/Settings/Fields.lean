import DownloadNames.Settings.Layer
import DownloadNames.Proofs.Value.Merge

/-
Setting single fields in a layer.

A field that is set is found at its path, and nothing changes but what stands above or below that
path (`at?_setField_self`, `at?_setField_of_apart`).  Laying a layer that was made by setting
fields over another layer is setting the same fields there (`mergeEntries_setFields`), so a stack of
such layers is one sequence of assignments.
-/

namespace DownloadNames.Settings

open Assoc (find? put keys)
open Value (at? lookup? mergeEntries mergeValue Distinct IsMapping)

/-! ## Fields and their paths -/

/-- The key of a section or of a field. -/
abbrev nameKey (n : String) : Scalar := .text n.toList

/-- No field on the top level has the name of a section. -/
theorem Field.name_ne_section {f g : Field} {s : String} (hf : f.sectionName = none)
    (hg : g.sectionName = some s) : nameKey s ≠ nameKey f.name := by
  cases f <;> cases g <;> cases hf <;> cases hg <;> decide

theorem Field.path_of_none {f : Field} (h : f.sectionName = none) : f.path = [nameKey f.name] := by
  simp [Field.path, h]

theorem Field.path_of_some {f : Field} {s : String} (h : f.sectionName = some s) :
    f.path = [nameKey s, nameKey f.name] := by
  simp [Field.path, h]

/-- No field lies above another. -/
theorem Field.not_path_prefix {f g : Field} (h : f ≠ g) : ¬ f.path <+: g.path := by
  cases f <;> cases g <;> first | exact absurd rfl h | decide

theorem Field.mem_all (f : Field) : f ∈ Field.all := by
  cases f <;> decide

/-- The path leads neither to a field nor above or below it. -/
def Apart (path : List Scalar) (f : Field) : Prop := ¬ path <+: f.path ∧ ¬ f.path <+: path

theorem apart_path {f g : Field} (h : f ≠ g) : Apart g.path f :=
  ⟨Field.not_path_prefix (Ne.symm h), Field.not_path_prefix h⟩

/-! ## One field -/

section SetField

variable {f : Field} {v : Value} {layer : Entries} {s : String}

theorem setField_of_none (h : f.sectionName = none) (v : Value) (layer : Entries) :
    setField f v layer = put (nameKey f.name) v layer := by
  simp [setField, h]

theorem setField_of_some (h : f.sectionName = some s) (v : Value) (layer : Entries) :
    setField f v layer
      = put (nameKey s) (.map (put (nameKey f.name) v (sectionEntries (nameKey s) layer)))
          layer := by
  simp [setField, h]

/-- What stands in a section is found behind the section's key. -/
theorem at?_sectionEntries (s : String) (k : Scalar) (ks : List Scalar) (layer : Entries) :
    at? (k :: ks) (.map (sectionEntries (nameKey s) layer))
      = at? (nameKey s :: k :: ks) (.map layer) := by
  rw [Value.at?_cons (nameKey s), sectionEntries, Value.lookup?_text]
  cases find? (nameKey s) layer with
  | none => rfl
  | some w => cases w <;> rfl

/-- A field that is set is found at its path. -/
theorem at?_setField_self (f : Field) (v : Value) (layer : Entries) :
    at? f.path (.map (setField f v layer)) = some v := by
  cases h : f.sectionName with
  | none =>
    rw [Field.path_of_none h, setField_of_none h, Value.at?_singleton, Value.lookup?_put_text, if_pos rfl]
  | some s =>
    rw [Field.path_of_some h, setField_of_some h, Value.at?_cons, Value.lookup?_put_text, if_pos rfl,
      Option.bind_some, Value.at?_singleton, Value.lookup?_put_text, if_pos rfl]

/-- Setting a field changes nothing apart from it. -/
theorem at?_setField_of_apart {path : List Scalar} (hpath : Apart path f) (v : Value)
    (layer : Entries) : at? path (.map (setField f v layer)) = at? path (.map layer) := by
  obtain ⟨habove, hbelow⟩ := hpath
  cases path with
  | nil => exact absurd List.nil_prefix habove
  | cons k ks =>
    cases h : f.sectionName with
    | none =>
      rw [Field.path_of_none h] at hbelow
      have hk : nameKey f.name ≠ k := by
        rintro rfl
        exact hbelow (by simp)
      rw [setField_of_none h, Value.at?_cons, Value.at?_cons, Value.lookup?_put_text, if_neg hk]
    | some s =>
      rw [Field.path_of_some h] at habove hbelow
      rw [setField_of_some h, Value.at?_cons, Value.lookup?_put_text]
      by_cases hk : nameKey s = k
      · subst hk
        cases ks with
        | nil => exact absurd (by simp) habove
        | cons k' ks =>
          -- inside the section, only the entry of the field changes
          have hk' : nameKey f.name ≠ k' := by
            rintro rfl
            exact hbelow (by simp)
          rw [if_pos rfl, Option.bind_some, Value.at?_cons, Value.lookup?_put_text, if_neg hk', ← Value.at?_cons,
            at?_sectionEntries]
      · rw [if_neg hk, Value.at?_cons]

/-- Setting a field of a section makes the section a mapping. -/
theorem at?_section_setField_of_some (h : f.sectionName = some s) (v : Value) (layer : Entries) :
    ∃ es, at? [nameKey s] (.map (setField f v layer)) = some (.map es) := by
  rw [setField_of_some h, Value.at?_singleton, Value.lookup?_put_text, if_pos rfl]
  exact ⟨_, rfl⟩

/-- Setting a field leaves the sections alone that it does not belong to. -/
theorem at?_section_setField_of_ne {g : Field} (hg : g.sectionName = some s)
    (h : f.sectionName ≠ some s) (v : Value) (layer : Entries) :
    at? [nameKey s] (.map (setField f v layer)) = at? [nameKey s] (.map layer) := by
  rw [Value.at?_singleton, Value.at?_singleton]
  cases hf : f.sectionName with
  | none =>
    rw [setField_of_none hf, Value.lookup?_put_text, if_neg (Field.name_ne_section hf hg).symm]
  | some s' =>
    have hne : nameKey s' ≠ nameKey s := by
      intro heq
      apply h
      rw [hf]
      simpa [String.toList_inj] using heq
    rw [setField_of_some hf, Value.lookup?_put_text, if_neg hne]

end SetField

/-! ## Layers made by setting fields -/

/-- A layer names nothing twice, neither itself nor in a section, and its sections are mappings. -/
structure IsLayer (layer : Entries) : Prop where
  distinct : Distinct layer
  sections : ∀ {f : Field} {s : String} {v : Value}, f.sectionName = some s →
    find? (nameKey s) layer = some v → ∃ es, v = .map es ∧ Distinct es

theorem isLayer_nil : IsLayer [] where
  distinct := Value.distinct_nil
  sections _ h := by cases h

section Layer

variable {f : Field} {v : Value} {layer : Entries} {s : String}

theorem IsLayer.distinct_sectionEntries (h : IsLayer layer) (hf : f.sectionName = some s) :
    Distinct (sectionEntries (nameKey s) layer) := by
  rw [sectionEntries]
  cases hs : find? (nameKey s) layer with
  | none => exact Value.distinct_nil
  | some w =>
    obtain ⟨es, rfl, hes⟩ := h.sections hf hs
    exact hes

/-- Setting a field keeps a layer a layer. -/
theorem isLayer_setField (h : IsLayer layer) (f : Field) (v : Value) :
    IsLayer (setField f v layer) := by
  cases hf : f.sectionName with
  | none =>
    rw [setField_of_none hf]
    refine ⟨h.distinct.put_text _ _, fun hg hfind => ?_⟩
    rw [Assoc.find?_put, if_neg (Field.name_ne_section hf hg).symm] at hfind
    exact h.sections hg hfind
  | some s =>
    rw [setField_of_some hf]
    refine ⟨h.distinct.put_text _ _, fun {g s' w} hg hfind => ?_⟩
    rw [Assoc.find?_put] at hfind
    split at hfind
    · cases hfind
      exact ⟨_, rfl, (h.distinct_sectionEntries hf).put_text _ _⟩
    · exact h.sections hg hfind

/-- A section of the upper layer is laid over that of the lower one. -/
theorem mergeValue_section {upper : Entries} (h : Distinct upper) (k : Scalar)
    (lower : Entries) :
    mergeValue (find? k lower) (.map upper)
      = .map (mergeEntries (sectionEntries k lower) upper) := by
  rw [sectionEntries]
  cases hk : find? k lower with
  | none => rw [Value.mergeValue_none, Value.mergeEntries_nil_left h]
  | some w =>
    cases w with
    | map base => rw [Value.mergeValue_map_map]
    | scalar => rw [Value.mergeValue_map_of_not (by simp [IsMapping]),
        Value.mergeEntries_nil_left h]
    | list => rw [Value.mergeValue_map_of_not (by simp [IsMapping]),
        Value.mergeEntries_nil_left h]

/-- Sections are laid over each other like the layers they belong to. -/
theorem IsLayer.sectionEntries_mergeEntries (h : IsLayer layer) (hf : f.sectionName = some s)
    (lower : Entries) :
    sectionEntries (nameKey s) (mergeEntries lower layer)
      = mergeEntries (sectionEntries (nameKey s) lower) (sectionEntries (nameKey s) layer) := by
  have hfind := Value.lookup?_mergeEntries h.distinct lower (nameKey s)
  simp only [Value.lookup?_text] at hfind
  cases hs : find? (nameKey s) layer with
  | none =>
    rw [hs, Option.map_none, Option.none_or] at hfind
    simp [sectionEntries, hfind, hs]
  | some w =>
    obtain ⟨es, rfl, hes⟩ := h.sections hf hs
    rw [hs, Option.map_some, Option.some_or, mergeValue_section hes] at hfind
    simp [sectionEntries, hfind, hs]

/-- A field set in the upper layer is set in what the layers give together. -/
theorem IsLayer.mergeEntries_setField (h : IsLayer layer) (hv : ¬ IsMapping v) (f : Field)
    (lower : Entries) :
    mergeEntries lower (setField f v layer) = setField f v (mergeEntries lower layer) := by
  cases hf : f.sectionName with
  | none =>
    rw [setField_of_none hf, setField_of_none hf, Value.mergeEntries_put_text h.distinct,
      Value.mergeValue_of_not hv]
  | some s =>
    have hdistinct := h.distinct_sectionEntries hf
    rw [setField_of_some hf, setField_of_some hf, Value.mergeEntries_put_text h.distinct,
      mergeValue_section (hdistinct.put_text _ _), Value.mergeEntries_put_text hdistinct,
      Value.mergeValue_of_not hv, h.sectionEntries_mergeEntries hf]

end Layer

/-! ## Fields set one after the other -/

/-- Sets fields from the first on. -/
def setFields (sets : List (Field × Value)) (layer : Entries) : Entries :=
  sets.foldl (fun layer set => setField set.1 set.2 layer) layer

section SetFields

variable {sets : List (Field × Value)}

@[simp] theorem setFields_nil (layer : Entries) : setFields [] layer = layer := rfl

@[simp] theorem setFields_cons (set : Field × Value) (sets : List (Field × Value))
    (layer : Entries) :
    setFields (set :: sets) layer = setFields sets (setField set.1 set.2 layer) := rfl

/-- Laying a layer that was made by setting fields is setting them in the lower layer. -/
theorem mergeEntries_setFields (hplain : ∀ set ∈ sets, ¬ IsMapping set.2) (lower : Entries) :
    mergeEntries lower (setFields sets []) = setFields sets lower := by
  suffices ∀ layer, IsLayer layer →
      mergeEntries lower (setFields sets layer) = setFields sets (mergeEntries lower layer) by
    rw [this [] isLayer_nil, Value.mergeEntries_nil]
  induction sets with
  | nil => exact fun _ _ => rfl
  | cons set sets ih =>
    intro layer hlayer
    obtain ⟨hset, hsets⟩ := List.forall_mem_cons.1 hplain
    rw [setFields_cons, ih hsets _ (isLayer_setField hlayer _ _), hlayer.mergeEntries_setField hset,
      setFields_cons]

/-- Where no field is set twice, each has the value it is set to, or else the one it had. -/
theorem at?_setFields (hdistinct : (keys sets).Nodup) (f : Field) (layer : Entries) :
    at? f.path (.map (setFields sets layer)) = (find? f sets).or (at? f.path (.map layer)) := by
  induction sets generalizing layer with
  | nil => rfl
  | cons set sets ih =>
    obtain ⟨g, v⟩ := set
    obtain ⟨hnew, hsets⟩ := List.nodup_cons.1 hdistinct
    rw [setFields_cons, ih hsets]
    by_cases hg : g = f
    · subst hg
      rw [(Assoc.find?_eq_none_iff _ _).2 hnew, at?_setField_self]
      simp [find?]
    · rw [at?_setField_of_apart (apart_path hg)]
      simp [find?, hg]

/-- Setting fields changes nothing apart from them. -/
theorem at?_setFields_of_apart {path : List Scalar} (hpath : ∀ f, Apart path f)
    (sets : List (Field × Value)) (layer : Entries) :
    at? path (.map (setFields sets layer)) = at? path (.map layer) := by
  induction sets generalizing layer with
  | nil => rfl
  | cons set sets ih => rw [setFields_cons, ih, at?_setField_of_apart (hpath set.1)]

/-- A section that is a mapping stays one. -/
theorem at?_section_setFields {f : Field} {s : String} (hf : f.sectionName = some s)
    (sets : List (Field × Value)) {layer : Entries}
    (h : ∃ es, at? [nameKey s] (.map layer) = some (.map es)) :
    ∃ es, at? [nameKey s] (.map (setFields sets layer)) = some (.map es) := by
  induction sets generalizing layer with
  | nil => exact h
  | cons set sets ih =>
    rw [setFields_cons]
    apply ih
    by_cases hset : set.1.sectionName = some s
    · exact at?_section_setField_of_some hset set.2 layer
    · rwa [at?_section_setField_of_ne hf hset]

/-- A section of which a field is set becomes a mapping. -/
theorem at?_section_setFields_of_mem {f : Field} {s : String} (hf : f.sectionName = some s)
    (hmem : f ∈ keys sets) (layer : Entries) :
    ∃ es, at? [nameKey s] (.map (setFields sets layer)) = some (.map es) := by
  induction sets generalizing layer with
  | nil => cases hmem
  | cons set sets ih =>
    rw [setFields_cons]
    by_cases hset : set.1 = f
    · subst hset
      exact at?_section_setFields hf sets (at?_section_setField_of_some hf set.2 layer)
    · have hrest : f ∈ keys sets := by simpa [keys, Ne.symm hset] using hmem
      exact ih hrest _

/-- A section of which no field is set stays as it is. -/
theorem at?_section_setFields_of_not_mem {f : Field} {s : String} (hf : f.sectionName = some s)
    (hnone : ∀ g ∈ keys sets, g.sectionName ≠ some s) (layer : Entries) :
    at? [nameKey s] (.map (setFields sets layer)) = at? [nameKey s] (.map layer) := by
  induction sets generalizing layer with
  | nil => rfl
  | cons set sets ih =>
    obtain ⟨hset, hsets⟩ := List.forall_mem_cons.1 hnone
    rw [setFields_cons, ih hsets, at?_section_setField_of_ne hf hset]

end SetFields
end DownloadNames.Settings
