import DownloadNames.Proofs.Value.Merge

/-
Merging nested mappings, path by path, and merging three of them.

A path into merged mappings is followed in the upper one for as long as that goes through mappings:
where the upper mapping ends it at something else, the upper one decides; where it does not bind it,
the lower one; and where it leads to a mapping, that is merged over what the lower one has there
(`at?_mergeEntries_of_ends`, `at?_mergeEntries_of_eq_none`, `at?_mergeEntries_of_map`).  The merged
mapping names no key twice, at no depth (`KeysDistinct.mergeEntries`), so it may be merged again.
Three mappings may be merged from either side, unless the middle one puts something else in the way
of two mappings (`mergeEntries_assoc`).
-/

namespace DownloadNames.Value

open Assoc (keys)

variable {a b c lower upper : Entries} {k : Scalar} {p : List Scalar} {v : Value}
  {x : Option Value}

/-! ## Over a mapping or over anything else -/

theorem mergeValue_map_of_ne (h : ∀ lower, x ≠ some (.map lower)) (upper : Entries) :
    mergeValue x (.map upper) = .map upper := by
  refine mergeValue_map_of_not (fun w hw hmapping => ?_) upper
  obtain ⟨lower, rfl⟩ := isMapping_iff.1 hmapping
  exact h lower hw

/-- A mapping is merged over a mapping and replaces anything else. -/
theorem mergeValue_map_cases (x : Option Value) (upper : Entries) :
    (∃ lower, x = some (.map lower)
        ∧ mergeValue x (.map upper) = .map (mergeEntries lower upper))
      ∨ ((∀ lower, x ≠ some (.map lower)) ∧ mergeValue x (.map upper) = .map upper) := by
  by_cases hx : ∃ lower, x = some (.map lower)
  · obtain ⟨lower, rfl⟩ := hx
    exact .inl ⟨lower, rfl, mergeValue_map_map lower upper⟩
  · have hne : ∀ lower, x ≠ some (.map lower) := fun lower h => hx ⟨lower, h⟩
    exact .inr ⟨hne, mergeValue_map_of_ne hne upper⟩

/-! ## Mappings without equal keys, at every depth -/

/-- No mapping that a path of keys leads to names a key twice. -/
inductive KeysDistinct : Value → Prop
  | scalar (s : Scalar) : KeysDistinct (.scalar s)
  | list (items : List Value) : KeysDistinct (.list items)
  | map {entries : Entries} (distinct : Distinct entries)
      (values : ∀ e ∈ entries, KeysDistinct e.2) : KeysDistinct (.map entries)

theorem KeysDistinct.distinct (h : KeysDistinct (.map a)) : Distinct a := by
  cases h with
  | map distinct _ => exact distinct

theorem KeysDistinct.of_lookup? (h : KeysDistinct (.map a)) (hv : lookup? k a = some v) :
    KeysDistinct v := by
  cases h with
  | map _ values =>
    obtain ⟨e, he, rfl⟩ := Option.map_eq_some_iff.1 hv
    exact values e (List.mem_of_find?_eq_some he)

/-- Induction along the mappings within a mapping. -/
theorem KeysDistinct.induction {motive : Entries → Prop}
    (step : ∀ entries, Distinct entries → (∀ e ∈ entries, KeysDistinct e.2) →
      (∀ e ∈ entries, ∀ inner, e.2 = .map inner → motive inner) → motive entries)
    (h : KeysDistinct (.map a)) : motive a := by
  suffices ∀ v, KeysDistinct v → ∀ entries, v = .map entries → motive entries from
    this _ h a rfl
  intro v hv
  induction hv with
  | scalar => exact fun _ h => nomatch h
  | list => exact fun _ h => nomatch h
  | map distinct values ih =>
    intro entries heq
    cases heq
    exact step _ distinct values ih

/-- In a mapping that names no key twice, a key leads to the value that stands beside it. -/
theorem lookup?_of_mem {e : Scalar × Value} (h : Distinct a) (he : e ∈ a) :
    lookup? e.1 a = some e.2 := by
  induction a with
  | nil => cases he
  | cons e' a ih =>
    obtain ⟨hnew, ha⟩ := distinct_cons_iff.1 h
    rw [lookup?_cons]
    rcases List.mem_cons.1 he with rfl | he
    · rw [if_pos rfl]
    · have hne : e'.1.keyForm ≠ e.1.keyForm := Ne.symm (lookup?_eq_none_iff.1 hnew e he)
      rw [if_neg hne, ih ha he]

theorem KeysDistinct.putEntry (ha : KeysDistinct (.map a)) (hv : KeysDistinct v) (k : Scalar) :
    KeysDistinct (.map (putEntry a k v)) := by
  refine .map (ha.distinct.putEntry k v) fun e he => ?_
  have hfound := lookup?_of_mem (ha.distinct.putEntry k v) he
  rw [lookup?_putEntry] at hfound
  split at hfound
  · cases hfound
    exact hv
  · exact ha.of_lookup? hfound

/-- Merging names no key twice either. -/
theorem KeysDistinct.mergeEntries (ha : KeysDistinct (.map a)) (hb : KeysDistinct (.map b)) :
    KeysDistinct (.map (mergeEntries a b)) := by
  refine hb.induction (motive := fun b => ∀ a, KeysDistinct (.map a) →
    KeysDistinct (.map (Value.mergeEntries a b))) ?_ a ha
  intro b hdistinct hvalues ih
  clear hdistinct
  induction b with
  | nil => simp
  | cons e rest ihrest =>
    intro a ha
    obtain ⟨k, v⟩ := e
    obtain ⟨hv, hrest⟩ := List.forall_mem_cons.1 hvalues
    obtain ⟨hinner, hothers⟩ := List.forall_mem_cons.1 ih
    have hmerged : KeysDistinct (mergeValue (lookup? k a) v) := by
      cases v with
      | map upper =>
        obtain ⟨lower, hlower, hmerge⟩ | ⟨-, hmerge⟩ := mergeValue_map_cases (lookup? k a) upper
        · rw [hmerge]
          exact hinner upper rfl lower (ha.of_lookup? hlower)
        · rwa [hmerge]
      | scalar => rwa [mergeValue_of_not id]
      | list => rwa [mergeValue_of_not id]
    rw [mergeEntries_cons]
    exact ihrest hrest hothers _ (ha.putEntry hmerged k)

/-! ## Paths through merged mappings -/

/-- A non-empty beginning of the path leads to something that is no mapping. -/
def Ends (p : List Scalar) (entries : Entries) : Prop :=
  ∃ q v, q ≠ [] ∧ q <+: p ∧ at? q (.map entries) = some v ∧ ¬ IsMapping v

theorem at?_cons_of_not_isMapping (h : ¬ IsMapping v) (k : Scalar) (p : List Scalar) :
    at? (k :: p) v = none := by
  cases v with
  | map => exact absurd trivial h
  | scalar => rfl
  | list => rfl

/-- A path goes on from a mapping only. -/
theorem bind_at?_cons_of_ne (h : ∀ lower, x ≠ some (.map lower)) (k : Scalar) (p : List Scalar) :
    x.bind (at? (k :: p)) = none := by
  cases x with
  | none => rfl
  | some w =>
    refine at?_cons_of_not_isMapping (fun hmapping => ?_) k p
    obtain ⟨lower, rfl⟩ := isMapping_iff.1 hmapping
    exact h lower rfl

theorem not_ends_nil (entries : Entries) : ¬ Ends [] entries := by
  rintro ⟨q, v, hq, hprefix, -⟩
  exact hq (List.prefix_nil.1 hprefix)

/-- A path ends at its first key or further on in the mapping that this leads to. -/
theorem ends_cons_iff :
    Ends (k :: p) a ↔ ∃ v, lookup? k a = some v
      ∧ (¬ IsMapping v ∨ ∃ inner, v = .map inner ∧ Ends p inner) := by
  constructor
  · rintro ⟨q, v, hq, hprefix, hat, hv⟩
    obtain ⟨k', q, rfl⟩ := List.exists_cons_of_ne_nil hq
    obtain ⟨rfl, hrest⟩ := List.cons_prefix_cons.1 hprefix
    rw [at?_cons, Option.bind_eq_some_iff] at hat
    obtain ⟨w, hw, hat⟩ := hat
    refine ⟨w, hw, ?_⟩
    cases q with
    | nil =>
      cases hat
      exact Or.inl hv
    | cons k'' q =>
      cases w with
      | map inner => exact Or.inr ⟨inner, rfl, _, v, List.cons_ne_nil _ _, hrest, hat, hv⟩
      | scalar => cases hat
      | list => cases hat
  · rintro ⟨v, hv, hnot | ⟨inner, rfl, q, w, hq, hprefix, hat, hw⟩⟩
    · refine ⟨[k], v, List.cons_ne_nil _ _, by simp, ?_, hnot⟩
      rw [at?_singleton, hv]
    · refine ⟨k :: q, w, List.cons_ne_nil _ _, List.cons_prefix_cons.2 ⟨rfl, hprefix⟩, ?_, hw⟩
      rw [at?_cons, hv, Option.bind_some, hat]

/-- The first key of a path leads to what merging makes of both values. -/
theorem at?_mergeEntries_cons (h : Distinct upper) (lower : Entries) (k : Scalar)
    (p : List Scalar) :
    at? (k :: p) (.map (mergeEntries lower upper))
      = (((lookup? k upper).map (mergeValue (lookup? k lower))).or (lookup? k lower)).bind
          (at? p) := by
  rw [at?_cons, lookup?_mergeEntries h]

theorem KeysDistinct.of_at? {w : Value} (h : KeysDistinct w) (hv : at? p w = some v) :
    KeysDistinct v := by
  induction p generalizing w with
  | nil =>
    cases hv
    exact h
  | cons k p ih =>
    cases w with
    | map entries =>
      rw [at?_cons, Option.bind_eq_some_iff] at hv
      obtain ⟨inner, hinner, hv⟩ := hv
      exact ih (h.of_lookup? hinner) hv
    | scalar => cases hv
    | list => cases hv

/-- Where the upper mapping ends a path, the upper mapping decides. -/
theorem at?_mergeEntries_of_ends (hb : KeysDistinct (.map b)) (h : Ends p b) :
    at? p (.map (mergeEntries a b)) = at? p (.map b) := by
  induction p generalizing a b with
  | nil => exact absurd h (not_ends_nil b)
  | cons k p ih =>
    obtain ⟨v, hv, hends⟩ := ends_cons_iff.1 h
    rw [at?_mergeEntries_cons hb.distinct, at?_cons, hv, Option.map_some, Option.some_or,
      Option.bind_some, Option.bind_some]
    rcases hends with hnot | ⟨inner, rfl, hinner⟩
    · rw [mergeValue_of_not hnot]
    · obtain ⟨base, -, hmerge⟩ | ⟨-, hmerge⟩ := mergeValue_map_cases (lookup? k a) inner
      · rw [hmerge, ih (hb.of_lookup? hv) hinner]
      · rw [hmerge]

/-- Where the upper mapping neither binds a path nor ends it, the lower mapping decides. -/
theorem at?_mergeEntries_of_eq_none (hb : KeysDistinct (.map b)) (hnone : at? p (.map b) = none)
    (h : ¬ Ends p b) : at? p (.map (mergeEntries a b)) = at? p (.map a) := by
  induction p generalizing a b with
  | nil => cases hnone
  | cons k p ih =>
    rw [at?_mergeEntries_cons hb.distinct, at?_cons]
    cases hv : lookup? k b with
    | none => rw [Option.map_none, Option.none_or]
    | some v =>
      rw [at?_cons, hv, Option.bind_some] at hnone
      rw [Option.map_some, Option.some_or, Option.bind_some]
      rw [ends_cons_iff] at h
      cases v with
      | scalar => exact absurd ⟨_, hv, Or.inl id⟩ h
      | list => exact absurd ⟨_, hv, Or.inl id⟩ h
      | map inner =>
        have hinner : ¬ Ends p inner := fun hends => h ⟨_, hv, Or.inr ⟨inner, rfl, hends⟩⟩
        obtain ⟨base, hbase, hmerge⟩ | ⟨hne, hmerge⟩ := mergeValue_map_cases (lookup? k a) inner
        · rw [hmerge, hbase, Option.bind_some, ih (hb.of_lookup? hv) hnone hinner]
        · -- the path is not empty, as it would lead to the mapping `inner`
          cases p with
          | nil => cases hnone
          | cons k' p => rw [hmerge, hnone, bind_at?_cons_of_ne hne]

/-- Where the upper mapping has a mapping, that is merged over what the lower one has there. -/
theorem at?_mergeEntries_of_map (hb : KeysDistinct (.map b))
    (h : at? p (.map b) = some (.map upper)) :
    at? p (.map (mergeEntries a b)) = some (mergeValue (at? p (.map a)) (.map upper)) := by
  induction p generalizing a b with
  | nil =>
    cases h
    rw [at?, at?, mergeValue_map_map]
  | cons k p ih =>
    rw [at?_cons, Option.bind_eq_some_iff] at h
    obtain ⟨v, hv, hat⟩ := h
    rw [at?_mergeEntries_cons hb.distinct, at?_cons, hv, Option.map_some, Option.some_or,
      Option.bind_some]
    cases v with
    | scalar => cases p <;> cases hat
    | list => cases p <;> cases hat
    | map inner =>
      obtain ⟨base, hbase, hmerge⟩ | ⟨hne, hmerge⟩ := mergeValue_map_cases (lookup? k a) inner
      · rw [hmerge, hbase, Option.bind_some, ih (hb.of_lookup? hv) hat]
      · rw [hmerge, hat]
        cases p with
        | nil =>
          cases hat
          rw [bind_at?_nil, mergeValue_map_of_ne hne]
        | cons k' p => rw [bind_at?_cons_of_ne hne, mergeValue_none]

/-! ## Three mappings -/

/-- No path leads to mappings in the first and the last mapping and to something else in the middle
one. -/
def Unblocked (a b c : Entries) : Prop :=
  ∀ p lower upper v, at? p (.map a) = some (.map lower) → at? p (.map c) = some (.map upper) →
    at? p (.map b) = some v → IsMapping v

/-- What holds of all paths holds of those that go on from a key. -/
theorem Unblocked.of_lookup? {l m u : Entries} (h : Unblocked a b c)
    (ha : lookup? k a = some (.map l)) (hb : lookup? k b = some (.map m))
    (hc : lookup? k c = some (.map u)) : Unblocked l m u := by
  intro p lower upper v hl hu hm
  apply h (k :: p) lower upper v
  · rw [at?_cons, ha, Option.bind_some, hl]
  · rw [at?_cons, hc, Option.bind_some, hu]
  · rw [at?_cons, hb, Option.bind_some, hm]

/-- Three mappings may be merged from either side if their values may be, key by key. -/
theorem mergeEntries_assoc_of_values (hb : Distinct b) (hc : Distinct c)
    (h : ∀ e ∈ c, mergeValue (lookup? e.1 a) (mergeValue (lookup? e.1 b) e.2)
      = mergeValue (lookup? e.1 (mergeEntries a b)) e.2) :
    mergeEntries (mergeEntries a b) c = mergeEntries a (mergeEntries b c) := by
  induction c generalizing b with
  | nil => simp
  | cons e rest ih =>
    obtain ⟨k, v⟩ := e
    obtain ⟨hnew, hrest⟩ := distinct_cons_iff.1 hc
    obtain ⟨hfirst, hothers⟩ := List.forall_mem_cons.1 h
    have hput : putEntry (mergeEntries a b) k (mergeValue (lookup? k (mergeEntries a b)) v)
        = mergeEntries a (putEntry b k (mergeValue (lookup? k b) v)) := by
      rw [mergeEntries_putEntry hb, hfirst]
    rw [mergeEntries_cons, mergeEntries_cons, hput]
    refine ih (hb.putEntry _ _) hrest fun e he => ?_
    -- the entry put for `k` is not met again
    have hne : k.keyForm ≠ e.1.keyForm := Ne.symm (lookup?_eq_none_iff.1 hnew e he)
    rw [← hput, lookup?_putEntry, if_neg hne, lookup?_putEntry, if_neg hne, hothers e he]

/-- Three values may be merged from either side if three mappings may be, and if nothing else stands
between two mappings. -/
theorem mergeValue_assoc {y : Option Value}
    (hmaps : ∀ l m u, x = some (.map l) → y = some (.map m) → v = .map u →
      mergeEntries (mergeEntries l m) u = mergeEntries l (mergeEntries m u))
    (hblock : ∀ l u, x = some (.map l) → v = .map u → ∀ w ∈ y, IsMapping w) :
    mergeValue x (mergeValue y v) = mergeValue ((y.map (mergeValue x)).or x) v := by
  cases v with
  | scalar => rw [mergeValue_of_not id, mergeValue_of_not id, mergeValue_of_not id]
  | list => rw [mergeValue_of_not id, mergeValue_of_not id, mergeValue_of_not id]
  | map u =>
    cases y with
    | none => rw [mergeValue_none, Option.map_none, Option.none_or]
    | some w =>
      rw [Option.map_some, Option.some_or]
      by_cases hx : ∃ l, x = some (.map l)
      · obtain ⟨l, rfl⟩ := hx
        obtain ⟨m, rfl⟩ := isMapping_iff.1 (hblock l u rfl rfl w rfl)
        rw [mergeValue_map_map, mergeValue_map_map, mergeValue_map_map, mergeValue_map_map,
          hmaps l m u rfl rfl rfl]
      · -- without a mapping below, whatever is laid over it stands as it is
        have hstands := mergeValue_map_of_ne fun l hl => hx ⟨l, hl⟩
        by_cases hw : IsMapping w
        · obtain ⟨m, rfl⟩ := isMapping_iff.1 hw
          rw [hstands, mergeValue_map_map, hstands]
        · rw [mergeValue_of_not hw, mergeValue_map_of_not (by simpa using hw), hstands]

/-- Three mappings may be merged from either side. -/
theorem mergeEntries_assoc (hb : KeysDistinct (.map b)) (hc : KeysDistinct (.map c))
    (h : Unblocked a b c) :
    mergeEntries (mergeEntries a b) c = mergeEntries a (mergeEntries b c) := by
  -- on the mappings within the last one
  refine hc.induction (motive := fun c => ∀ a b, KeysDistinct (.map b) → Unblocked a b c →
    mergeEntries (mergeEntries a b) c = mergeEntries a (mergeEntries b c)) ?_ a b hb h
  intro c distinct _ ih a b hb h
  refine mergeEntries_assoc_of_values hb.distinct distinct fun e he => ?_
  have hfound := lookup?_of_mem distinct he
  rw [lookup?_mergeEntries hb.distinct]
  apply mergeValue_assoc
  · intro l m u hl hm hu
    rw [hu] at hfound
    exact ih e he u hu l m (hb.of_lookup? hm) (h.of_lookup? hl hm hfound)
  · intro l u hl hu w hw
    rw [hu] at hfound
    refine h [e.1] l u w ?_ ?_ ?_
    · rw [at?_singleton, hl]
    · rw [at?_singleton, hfound]
    · rw [at?_singleton, hw]

/-! ## Merging as a whole -/

/-- What stands at each path of two merged mappings, in which order the keys of the merged mappings
within them come, and that it does not matter which two of three mappings are merged first. -/
theorem merge_along_paths (a b c : Entries) (hb : KeysDistinct (.map b))
    (hc : KeysDistinct (.map c)) :
    (∀ p,
      (Ends p b → at? p (.map (mergeEntries a b)) = at? p (.map b))
      ∧ (at? p (.map b) = none → ¬ Ends p b → at? p (.map (mergeEntries a b)) = at? p (.map a))
      ∧ ∀ upper, at? p (.map b) = some (.map upper) →
          (∀ lower, at? p (.map a) = some (.map lower) →
            at? p (.map (mergeEntries a b)) = some (.map (mergeEntries lower upper))
            ∧ keys (mergeEntries lower upper)
                = keys lower ++ (keys upper).filter fun k => (lookup? k lower).isNone)
          ∧ ((∀ lower, at? p (.map a) ≠ some (.map lower)) →
            at? p (.map (mergeEntries a b)) = some (.map upper)))
    ∧ (Unblocked a b c →
        mergeEntries (mergeEntries a b) c = mergeEntries a (mergeEntries b c)) := by
  refine ⟨fun p => ⟨at?_mergeEntries_of_ends hb, at?_mergeEntries_of_eq_none hb, ?_⟩,
    mergeEntries_assoc hb hc⟩
  intro upper hupper
  constructor
  · intro lower hlower
    constructor
    · rw [at?_mergeEntries_of_map hb hupper, hlower, mergeValue_map_map]
    · exact keys_mergeEntries (hb.of_at? hupper).distinct lower
  · intro hlower
    rw [at?_mergeEntries_of_map hb hupper, mergeValue_map_of_ne hlower]

/-- Below `s` the key `1` is met again as `true`; `l` holds a mapping in the upper one only. -/
theorem merge_along_paths_equal_keys :
    let a : Entries := [(.text ['s'], .map [(.int 1, .text ['o']), (.text ['x'], .int 2)]),
      (.text ['l'], .int 5)]
    let b : Entries := [(.text ['s'], .map [(.bool true, .text ['n']), (.text ['z'], .int 3)]),
      (.text ['l'], .map [(.text ['w'], .int 0)])]
    let c : Entries := [(.text ['s'], .map [(.text ['z'], .int 4)])]
    at? [.text ['s'], .int 1] (.map (mergeEntries a b)) = some (.text ['n'])
      ∧ at? [.text ['s'], .text ['x']] (.map (mergeEntries a b)) = some (.int 2)
      ∧ (∃ merged, at? [.text ['s']] (.map (mergeEntries a b)) = some (.map merged)
        ∧ keys merged = [.int 1, .text ['x'], .text ['z']])
      ∧ at? [.text ['l']] (.map (mergeEntries a b)) = some (.map [(.text ['w'], .int 0)])
      ∧ mergeEntries (mergeEntries a b) c = mergeEntries a (mergeEntries b c) := by
  intro a b c
  have hb : KeysDistinct (.map b) := by
    refine .map (by decide) (List.forall_mem_cons.2 ⟨?_, List.forall_mem_singleton.2 ?_⟩)
    · exact .map (by decide) (by simp [KeysDistinct.scalar])
    · exact .map (by decide) (by simp [KeysDistinct.scalar])
  have hc : KeysDistinct (.map c) := by
    refine .map (by decide) (List.forall_mem_singleton.2 ?_)
    exact .map (by decide) (by simp [KeysDistinct.scalar])
  have hunblocked : Unblocked a b c := by
    intro p lower upper v ha hc hv
    match p with
    | [] =>
      cases hv
      trivial
    | [k] =>
      rw [at?_singleton] at hc hv
      simp only [b, c, lookup?_cons, lookup?_nil] at hc hv
      split at hc
      · next hk =>
        rw [if_pos hk] at hv
        cases hv
        trivial
      · cases hc
    | k :: k' :: p =>
      -- below the first key the last mapping holds a number only
      simp only [c, at?_cons, lookup?_cons, lookup?_nil] at hc
      split at hc
      · rw [Option.bind_some, at?_cons, lookup?_cons, lookup?_nil] at hc
        split at hc
        · cases p <;> cases hc
        · cases hc
      · cases hc
  obtain ⟨hpaths, hassoc⟩ := merge_along_paths a b c hb hc
  refine ⟨?_, ?_, ⟨_, (((hpaths [.text ['s']]).2.2 _ rfl).1 _ rfl).1, ?_⟩, ?_, hassoc hunblocked⟩
  · refine (hpaths [.text ['s'], .int 1]).1 ?_
    exact ⟨_, _, List.cons_ne_nil _ _, List.prefix_rfl, rfl, id⟩
  · refine (hpaths [.text ['s'], .text ['x']]).2.1 rfl ?_
    simp [ends_cons_iff, b, lookup?_cons, not_ends_nil, IsMapping, Scalar.keyForm]
  · exact (((hpaths [.text ['s']]).2.2 _ rfl).1 _ rfl).2
  · refine ((hpaths [.text ['l']]).2.2 _ rfl).2 fun lower h => ?_
    cases h

end DownloadNames.Value
