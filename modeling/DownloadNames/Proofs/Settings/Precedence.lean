import DownloadNames.Proofs.Settings.Fields
import DownloadNames.Proofs.Settings.Sources

/-
Which source decides about a setting.

Environment variables and arguments each make a layer by setting fields, so what is checked is the
file with the fields of the environment set in it and then those of the arguments
(`layered_eq_setFields`).  Each field thus has the value of its argument, or else that of its
variable, or else that of the file, and all that is apart from the fields is as in the file
(`gather_precedence`).
-/

namespace DownloadNames.Settings

open Assoc (find? keys)
open Value (at? IsMapping)

/-! ## Arguments -/

/-- The value that arguments give for a field: `null` gives none, and redirects have no
argument. -/
def Field.inArguments? (args : Entries) (f : Field) : Option Value :=
  if f = .allowRedirects then none
  else match find? (nameKey f.name) args with
    | some (.scalar .null) => none
    | v => v

theorem Field.inArguments?_eq_some_iff {args : Entries} {f : Field} {v : Value} :
    f.inArguments? args = some v ↔
      find? (nameKey f.name) args = some v ∧ v ≠ .scalar .null ∧ f ≠ .allowRedirects := by
  rw [inArguments?]
  by_cases hf : f = .allowRedirects
  · simp [hf]
  · rw [if_neg hf]
    split
    · next hnull =>
      rw [hnull]
      simp only [reduceCtorEq, Option.some.injEq, false_iff, not_and]
      rintro rfl hne
      exact absurd rfl hne
    · next hnot =>
      refine ⟨fun h => ⟨h, ?_, hf⟩, fun h => h.1⟩
      rintro rfl
      exact hnot h

/-- The field that an argument sets, and its value. -/
def argumentSet? (e : Scalar × Value) : Option (Field × Value) :=
  match e.2 with
  | .scalar .null => none
  | v => (Field.ofArgument? e.1).map fun f => (f, v)

/-- The fields that arguments set, in their order. -/
def argumentSets (args : Entries) : List (Field × Value) := args.filterMap argumentSet?

theorem ofArgument?_eq_some_iff {name : Scalar} {f : Field} :
    Field.ofArgument? name = some f ↔ name = nameKey f.name ∧ f ≠ .allowRedirects := by
  constructor
  · intro h
    have hname := List.find?_some h
    have hmem := List.mem_of_find?_eq_some h
    exact ⟨by simpa using hname, by simpa using (List.mem_filter.1 hmem).2⟩
  · rintro ⟨rfl, hf⟩
    cases f <;> first | exact absurd rfl hf | decide

theorem argumentSet?_of_ne {v : Value} (hv : v ≠ .scalar .null) (name : Scalar) :
    argumentSet? (name, v) = (Field.ofArgument? name).map fun f => (f, v) := by
  unfold argumentSet?
  split
  · next hnull => exact absurd hnull hv
  · rfl

theorem argumentSet?_eq_some_iff {e : Scalar × Value} {f : Field} {v : Value} :
    argumentSet? e = some (f, v) ↔
      e = (nameKey f.name, v) ∧ v ≠ .scalar .null ∧ f ≠ .allowRedirects := by
  obtain ⟨name, w⟩ := e
  by_cases hw : w = .scalar .null
  · subst hw
    simp only [argumentSet?, Prod.mk.injEq, reduceCtorEq, false_iff, not_and]
    rintro ⟨-, rfl⟩ hne
    exact absurd rfl hne
  · simp only [argumentSet?_of_ne hw, Option.map_eq_some_iff, Prod.mk.injEq,
      ofArgument?_eq_some_iff]
    constructor
    · rintro ⟨g, ⟨hname, hg⟩, rfl, rfl⟩
      exact ⟨⟨hname, rfl⟩, hw, hg⟩
    · rintro ⟨⟨hname, rfl⟩, -, hf⟩
      exact ⟨f, ⟨hname, hf⟩, rfl, rfl⟩

/-- The layer that arguments make is made by setting the fields they name. -/
theorem ofArguments_eq_setFields (args : Entries) :
    ofArguments args = setFields (argumentSets args) [] := by
  rw [ofArguments]
  generalize ([] : Entries) = layer
  induction args generalizing layer with
  | nil => rfl
  | cons e args ih =>
    obtain ⟨name, v⟩ := e
    rw [List.foldl_cons, ih]
    by_cases hv : v = .scalar .null
    · subst hv
      rfl
    · cases hname : Field.ofArgument? name with
      | none => simp [argumentSets, argumentSet?_of_ne hv, hname]
      | some f => simp [argumentSets, argumentSet?_of_ne hv, hname]

theorem mem_keys_of_argumentSets {args : Entries} {f : Field}
    (h : f ∈ keys (argumentSets args)) : nameKey f.name ∈ keys args := by
  obtain ⟨⟨g, v⟩, hset, rfl⟩ := List.mem_map.1 h
  obtain ⟨e, he, heq⟩ := List.mem_filterMap.1 hset
  obtain ⟨rfl, -, -⟩ := argumentSet?_eq_some_iff.1 heq
  exact List.mem_map.2 ⟨_, he, rfl⟩

/-- Arguments of different names set different fields. -/
theorem nodup_keys_argumentSets {args : Entries} (h : (keys args).Nodup) :
    (keys (argumentSets args)).Nodup := by
  induction args with
  | nil => exact List.nodup_nil
  | cons e args ih =>
    obtain ⟨hnew, hargs⟩ := List.nodup_cons.1 h
    cases hset : argumentSet? e with
    | none => simpa [argumentSets, hset] using ih hargs
    | some set =>
      obtain ⟨f, v⟩ := set
      obtain ⟨rfl, -, -⟩ := argumentSet?_eq_some_iff.1 hset
      have hcons : argumentSets ((nameKey f.name, v) :: args) = (f, v) :: argumentSets args := by
        simp [argumentSets, hset]
      rw [hcons]
      exact List.nodup_cons.2 ⟨fun hmem => hnew (mem_keys_of_argumentSets hmem), ih hargs⟩

/-- The value that the arguments set a field to is the one given for it. -/
theorem find?_argumentSets {args : Entries} (h : (keys args).Nodup) (f : Field) :
    find? f (argumentSets args) = f.inArguments? args := by
  ext v
  rw [Assoc.find?_eq_some_iff (nodup_keys_argumentSets h), Field.inArguments?_eq_some_iff,
    Assoc.find?_eq_some_iff h, argumentSets, List.mem_filterMap]
  constructor
  · rintro ⟨e, he, hset⟩
    obtain ⟨rfl, hv, hf⟩ := argumentSet?_eq_some_iff.1 hset
    exact ⟨he, hv, hf⟩
  · rintro ⟨he, hv, hf⟩
    exact ⟨_, he, argumentSet?_eq_some_iff.2 ⟨rfl, hv, hf⟩⟩

/-! ## Environment variables -/

/-- The value that the environment gives for a field. -/
def Field.inEnvironment? (lead : Text) (environment : List (Text × Text)) (f : Field) :
    Option Value :=
  (find? (f.variableName lead) environment).bind f.readVariable?

/-- The variable of a field is not set, or holds a value for the field. -/
def Field.Readable (lead : Text) (environment : List (Text × Text)) (f : Field) : Prop :=
  ∀ s, find? (f.variableName lead) environment = some s → ∃ v, f.readVariable? s = some v

/-- The fields that variables set, in the given order. -/
def variableSets (lead : Text) (environment : List (Text × Text)) (fs : List Field) :
    List (Field × Value) :=
  fs.filterMap fun f => (f.inEnvironment? lead environment).map fun v => (f, v)

section Environment

variable {lead : Text} {environment : List (Text × Text)} {fs : List Field}
  {layer result : Entries} {f : Field}

/-- Reading variables succeeds only if each that is set can be read, and then sets their fields. -/
theorem readFields_eq_ok (h : readFields lead environment fs layer = .ok result) :
    result = setFields (variableSets lead environment fs) layer
      ∧ ∀ f ∈ fs, f.Readable lead environment := by
  induction fs generalizing layer with
  | nil =>
    cases h
    exact ⟨rfl, fun f hf => nomatch hf⟩
  | cons g fs ih =>
    rw [readFields] at h
    cases hfind : find? (g.variableName lead) environment with
    | none =>
      rw [hfind] at h
      obtain ⟨hresult, hfs⟩ := ih h
      have hnone : g.inEnvironment? lead environment = none := by simp [Field.inEnvironment?, hfind]
      refine ⟨by simpa [variableSets, hnone] using hresult, List.forall_mem_cons.2 ⟨?_, hfs⟩⟩
      intro s hs
      rw [hfind] at hs
      cases hs
    | some s =>
      rw [hfind] at h
      cases hread : g.readVariable? s with
      | none => simp [hread] at h
      | some v =>
        simp only [hread] at h
        obtain ⟨hresult, hfs⟩ := ih h
        have hsome : g.inEnvironment? lead environment = some v := by
          simp [Field.inEnvironment?, hfind, hread]
        refine ⟨by simpa [variableSets, hsome] using hresult, List.forall_mem_cons.2 ⟨?_, hfs⟩⟩
        intro s' hs'
        rw [hfind] at hs'
        cases hs'
        exact ⟨v, hread⟩

theorem keys_variableSets_sublist (lead : Text) (environment : List (Text × Text))
    (fs : List Field) : (keys (variableSets lead environment fs)).Sublist fs := by
  induction fs with
  | nil => exact List.Sublist.slnil
  | cons g fs ih =>
    cases hg : g.inEnvironment? lead environment with
    | none => simpa [variableSets, hg] using ih.cons g
    | some v => simpa [variableSets, hg, keys] using ih.cons_cons g

/-- The value that the variables set a field to is the one that its variable holds. -/
theorem find?_variableSets (hdistinct : fs.Nodup) (hf : f ∈ fs) :
    find? f (variableSets lead environment fs) = f.inEnvironment? lead environment := by
  ext v
  rw [Assoc.find?_eq_some_iff ((keys_variableSets_sublist lead environment fs).nodup hdistinct),
    variableSets, List.mem_filterMap]
  simp only [Option.map_eq_some_iff, Prod.mk.injEq]
  constructor
  · rintro ⟨g, -, w, hw, rfl, rfl⟩
    exact hw
  · exact fun hv => ⟨f, hf, v, hv, rfl, rfl⟩

/-- A variable holds no mapping. -/
theorem not_isMapping_of_inEnvironment {v : Value}
    (h : f.inEnvironment? lead environment = some v) : ¬ IsMapping v := by
  obtain ⟨s, -, hread⟩ := Option.bind_eq_some_iff.1 h
  cases f <;> simp only [Field.readVariable?, Option.map_eq_some_iff, Option.some.injEq] at hread
  case timeout =>
    obtain ⟨i, -, rfl⟩ := hread
    exact id
  all_goals
    subst hread
    exact id

end Environment

/-! ## The three layers -/

/-- What is checked is the file with the fields of the variables set in it, and then those of the
arguments. -/
theorem layered_eq_setFields {lead : Text} {environment : List (Text × Text)}
    {layer args : Entries} (henv : ofEnvironment lead environment = .ok layer)
    (hplain : ∀ e ∈ args, ¬ IsMapping e.2) (file : Entries) :
    layered file layer (ofArguments args)
      = setFields (argumentSets args)
          (setFields (variableSets lead environment Field.all) file) := by
  have hvariables : ∀ set ∈ variableSets lead environment Field.all, ¬ IsMapping set.2 := by
    intro set hset
    obtain ⟨f, -, hf⟩ := List.mem_filterMap.1 hset
    obtain ⟨v, hv, rfl⟩ := Option.map_eq_some_iff.1 hf
    exact not_isMapping_of_inEnvironment hv
  have harguments : ∀ set ∈ argumentSets args, ¬ IsMapping set.2 := by
    rintro ⟨f, v⟩ hset
    obtain ⟨e, he, heq⟩ := List.mem_filterMap.1 hset
    obtain ⟨rfl, -, -⟩ := argumentSet?_eq_some_iff.1 heq
    exact hplain _ he
  rw [layered, (readFields_eq_ok henv).1, mergeEntries_setFields hvariables,
    ofArguments_eq_setFields, mergeEntries_setFields harguments]

/-! ## Precedence -/

/-- The value that a field is given besides the file: that of its argument, or else that of its
variable. -/
def Inputs.given? (inputs : Inputs) (f : Field) : Option Value :=
  (f.inArguments? inputs.arguments).or (f.inEnvironment? inputs.lead inputs.environment)

/-- Where arguments are no mappings, each field of what is checked has the value that it is given,
or else that of the file, or else none, and every variable that is set can be read.  What is neither
a field nor above or below one is as in the file, which is the given one or the first that is found.
A section of which a field is given is a mapping, whatever it is in the file, and it is as in the
file otherwise. -/
theorem gather_precedence {inputs : Inputs} {given : Option Text} {places : List Text}
    {entries : Entries} (hdistinct : (keys inputs.arguments).Nodup)
    (hplain : ∀ a ∈ inputs.arguments, ¬ IsMapping a.2)
    (h : gather inputs given places = .ok entries) :
    load inputs given places = validate entries
      ∧ ∃ file, IsFileLayer inputs.readers inputs.files given places file
        ∧ (∀ f : Field, f.Readable inputs.lead inputs.environment
            ∧ at? f.path (.map entries) = (inputs.given? f).or (at? f.path (.map file)))
        ∧ (∀ path, (∀ f, Apart path f) → at? path (.map entries) = at? path (.map file))
        ∧ ∀ (f : Field) (s : String), f.sectionName = some s →
            (inputs.given? f ≠ none → ∃ es, at? [nameKey s] (.map entries) = some (.map es))
            ∧ ((∀ g : Field, g.sectionName = some s → inputs.given? g = none) →
                at? [nameKey s] (.map entries) = at? [nameKey s] (.map file)) := by
  refine ⟨load_of_ok h, ?_⟩
  obtain ⟨file, layer, hfile, henv, rfl⟩ := gather_eq_ok_iff.1 h
  rw [layered_eq_setFields henv hplain]
  have harguments := nodup_keys_argumentSets hdistinct
  have hvariables := (keys_variableSets_sublist inputs.lead inputs.environment Field.all).nodup
    (by decide)
  have hvariable : ∀ f : Field, find? f (variableSets inputs.lead inputs.environment Field.all)
      = f.inEnvironment? inputs.lead inputs.environment := fun f =>
    find?_variableSets (by decide) f.mem_all
  -- a field is given exactly if one of the two sequences sets it
  have hgiven : ∀ f : Field, inputs.given? f = none ↔
      f ∉ keys (argumentSets inputs.arguments)
        ∧ f ∉ keys (variableSets inputs.lead inputs.environment Field.all) := fun f => by
    rw [Inputs.given?, Option.or_eq_none_iff, ← find?_argumentSets hdistinct, ← hvariable,
      Assoc.find?_eq_none_iff, Assoc.find?_eq_none_iff]
  refine ⟨file, isFileLayer_of_fileLayer hfile, fun f => ⟨?_, ?_⟩, fun path hpath => ?_,
    fun f s hf => ⟨fun hset => ?_, fun hnone => ?_⟩⟩
  · exact (readFields_eq_ok henv).2 f f.mem_all
  · rw [at?_setFields harguments, at?_setFields hvariables, find?_argumentSets hdistinct,
      hvariable, Inputs.given?, Option.or_assoc]
  · rw [at?_setFields_of_apart hpath, at?_setFields_of_apart hpath]
  · rw [ne_eq, hgiven, Decidable.not_and_iff_not_or_not, Decidable.not_not, Decidable.not_not]
      at hset
    rcases hset with hset | hset
    · exact at?_section_setFields_of_mem hf hset _
    · exact at?_section_setFields hf _ (at?_section_setFields_of_mem hf hset _)
  · have hunset : ∀ g : Field, g.sectionName = some s →
        g ∉ keys (argumentSets inputs.arguments)
          ∧ g ∉ keys (variableSets inputs.lead inputs.environment Field.all) := fun g hg =>
      (hgiven g).1 (hnone g hg)
    rw [at?_section_setFields_of_not_mem hf fun g hg hs => (hunset g hs).1 hg,
      at?_section_setFields_of_not_mem hf fun g hg hs => (hunset g hs).2 hg]

/-- In a file with a number for its paths and a timeout, the replacement comes from an argument, the
separator and the timeout from variables, as the argument for the timeout is `null`; the paths
become a mapping. -/
theorem gather_precedence_number_for_paths :
    let inputs : Inputs :=
      { files := fun p =>
          if p = "b.json".toList then
            some (.file (Utf8.encode "\x7b\"paths\": 1, \"headers\": \x7b\"timeout\": 5\x7d\x7d".toList))
          else none
        environment := [("DLKIT_TIMEOUT".toList, " 7".toList), ("DLKIT_SEPARATOR".toList, [':'])]
        arguments := [(nameKey "timeout", .null), (nameKey "replacement", .text ['+'])] }
    ∃ entries, gather inputs none ["a.json".toList, "b.json".toList] = .ok entries
      ∧ at? Field.replacement.path (.map entries) = some (.text ['+'])
      ∧ at? Field.separator.path (.map entries) = some (.text [':'])
      ∧ at? Field.timeout.path (.map entries) = some (.int 7)
      ∧ ∃ es, at? [nameKey "paths"] (.map entries) = some (.map es) := by
  intro inputs
  have hok : (gather inputs none ["a.json".toList, "b.json".toList]).isOk = true := by
    decide +kernel
  have hplain : ∀ a ∈ inputs.arguments, ¬ IsMapping a.2 := by
    intro a ha
    simp only [inputs, List.mem_cons, List.not_mem_nil, or_false] at ha
    rcases ha with rfl | rfl <;> exact id
  cases hgather : gather inputs none ["a.json".toList, "b.json".toList] with
  | error e =>
    rw [hgather] at hok
    cases hok
  | ok entries =>
    obtain ⟨-, file, -, hfields, -, hsections⟩ :=
      gather_precedence (by decide +kernel) hplain hgather
    have hreplacement : inputs.given? .replacement = some (.text ['+']) := rfl
    have hseparator : inputs.given? .separator = some (.text [':']) := rfl
    have htimeout : inputs.given? .timeout = some (.int 7) := rfl
    refine ⟨entries, rfl, ?_, ?_, ?_, (hsections .replacement "paths" rfl).1 ?_⟩
    · rw [(hfields _).2, hreplacement, Option.some_or]
    · rw [(hfields _).2, hseparator, Option.some_or]
    · rw [(hfields _).2, htimeout, Option.some_or]
    · simp [hreplacement]

end DownloadNames.Settings
