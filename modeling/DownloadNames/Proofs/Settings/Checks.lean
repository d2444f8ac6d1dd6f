import DownloadNames.Settings.Store
import DownloadNames.Proofs.Assoc
import DownloadNames.Proofs.Path.Clean

/-
What the checks of values accept.

Each check of `Settings/Check` is described by the values that it accepts and by what it makes of
them.  Two checks rewrite a table: they lower-case its names, which may make two entries into one.
On a table with lower-cased names, none twice, this changes nothing (`lowerNames_eq_self`).
-/

namespace DownloadNames.Settings

open Assoc (keys putAll)

/-! ## Results of combined checks -/

namespace Checked

variable {α β : Type} {a : α} {b : β}

theorem map_eq_ok_iff {f : α → β} {c : Checked α} :
    Except.map f c = .ok b ↔ ∃ a, c = .ok a ∧ f a = b := by
  cases c <;> simp [Except.map]

@[simp] theorem under_eq_ok_iff {step : Step} {c : Checked α} :
    c.under step = .ok a ↔ c = .ok a := by
  cases c <;> simp [under]

@[simp] theorem both_eq_ok_iff {c : Checked α} {d : Checked β} :
    c.both d = .ok (a, b) ↔ c = .ok a ∧ d = .ok b := by
  cases c <;> cases d <;> simp [both]

theorem of_toOption {c : Checked α} (h : c.toOption = some a) : c = .ok a := by
  cases c with
  | error is => cases h
  | ok b => exact congrArg Except.ok (Option.some.inj h)

theorem all_cons_eq_ok_iff {c : Checked α} {cs : List (Checked α)} {l : List α} :
    all (c :: cs) = .ok l ↔ ∃ a as, l = a :: as ∧ c = .ok a ∧ all cs = .ok as := by
  rw [all]
  cases hboth : c.both (all cs) with
  | error is =>
    refine iff_of_false (fun h => nomatch h) ?_
    rintro ⟨a, as, -, hc, hcs⟩
    rw [both_eq_ok_iff.2 ⟨hc, hcs⟩] at hboth
    cases hboth
  | ok found =>
    obtain ⟨hc, hcs⟩ := both_eq_ok_iff.1 hboth
    rw [hc, hcs]
    simp [eq_comm]

/-- Where every check gives a result, all together give all results. -/
theorem all_map_ok {f : α → Checked β} {g : α → β} {l : List α} (h : ∀ a ∈ l, f a = .ok (g a)) :
    all (l.map f) = .ok (l.map g) := by
  induction l with
  | nil => rfl
  | cons a l ih =>
    have hrest : all (l.map f) = .ok (l.map g) := ih fun b hb => h b (List.mem_cons_of_mem a hb)
    rw [List.map_cons, all, h a List.mem_cons_self, hrest]
    rfl

section Entry

variable {es : Entries} {name : String} {standard : α} {check : Value → Checked α}

theorem entry_eq_ok_iff :
    entry es name standard check = .ok a ↔
      (Value.entry? name.toList es = none ∧ standard = a)
        ∨ ∃ v, Value.entry? name.toList es = some v ∧ check v = .ok a := by
  rw [entry]
  cases Value.entry? name.toList es <;> simp

/-- An entry that is there gives what the check makes of it. -/
theorem entry_of_some {v : Value} (hfound : Value.entry? name.toList es = some v)
    (hcheck : check v = .ok a) : entry es name standard check = .ok a :=
  entry_eq_ok_iff.2 (Or.inr ⟨v, hfound, hcheck⟩)

/-- What an entry gives is the standard or has passed the check. -/
theorem entry_induction {P : α → Prop} (hstandard : P standard)
    (hcheck : ∀ v b, check v = .ok b → P b) (h : entry es name standard check = .ok a) : P a := by
  rcases entry_eq_ok_iff.1 h with ⟨-, rfl⟩ | ⟨v, -, hv⟩
  · exact hstandard
  · exact hcheck v a hv

end Entry
end Checked

/-! ## Single values -/

section Values

variable {v : Value} {t : Text}

/-- What is accepted as a text is one, or is given as bytes. -/
theorem eq_text_or_bytes_of_checkText (h : checkText v = .ok t) :
    v = .text t ∨ ∃ b, v = .scalar (.bytes b) := by
  unfold checkText at h
  split at h
  · cases h
    exact Or.inl rfl
  · next b => exact Or.inr ⟨b, rfl⟩
  · cases h

/-- A replacement is accepted if it is clean. -/
theorem checkReplacement_eq_ok_iff :
    checkReplacement v = .ok t ↔ checkText v = .ok t ∧ Path.CleanName t := by
  rw [checkReplacement]
  cases checkText v with
  | error is => simp
  | ok s =>
    have hclean : s.filter Path.isForbiddenInName = [] ↔ Path.CleanName s := by
      simp [List.filter_eq_nil_iff, Text.Lacks]
    by_cases hs : Path.CleanName s
    · simp only [hclean.2 hs, if_true, Except.ok.injEq]
      exact ⟨fun h => ⟨h, h ▸ hs⟩, fun h => h.1⟩
    · simp only [mt hclean.1 hs, if_false, Except.ok.injEq]
      refine iff_of_false (by simp [Checked.broken]) ?_
      rintro ⟨rfl, h⟩
      exact hs h

theorem checkSeparator_eq_ok_iff : checkSeparator v = .ok t ↔ checkText v = .ok t ∧ t ≠ [] := by
  rw [checkSeparator]
  cases checkText v with
  | error is => simp
  | ok s =>
    cases s with
    | nil =>
      refine iff_of_false (by simp [Checked.broken]) ?_
      rintro ⟨h, hne⟩
      exact hne (Except.ok.inj h).symm
    | cons c cs =>
      simp only [Except.ok.injEq, ne_eq, iff_self_and]
      rintro rfl
      simp

theorem checkWithin_eq_ok_iff {least most : Nat} {i : Int} :
    checkWithin least most v = .ok i ↔ checkInteger v = .ok i ∧ least ≤ i ∧ i ≤ most := by
  rw [checkWithin]
  cases checkInteger v with
  | error is => simp
  | ok j =>
    simp only [Except.ok.injEq]
    split
    · next h => exact iff_of_false (by simp [Checked.broken]) (by rintro ⟨rfl, h1, -⟩; omega)
    · split
      · next h => exact iff_of_false (by simp [Checked.broken]) (by rintro ⟨rfl, -, h1⟩; omega)
      · simp only [Except.ok.injEq, iff_self_and]
        rintro rfl
        omega

end Values

/-! ## Tables -/

theorem map_eq_self {α : Type} {f : α → α} {l : List α} (h : ∀ a ∈ l, f a = a) : l.map f = l :=
  (List.map_congr_left h).trans (List.map_id l)

/-- The names of the table are lower-cased, and none comes twice. -/
structure Lowered (table : List (Text × Text)) : Prop where
  lower_eq : ∀ e ∈ table, Text.lower e.1 = e.1
  nodup : (keys table).Nodup

instance (table : List (Text × Text)) : Decidable (Lowered table) :=
  decidable_of_iff ((∀ e ∈ table, Text.lower e.1 = e.1) ∧ (keys table).Nodup)
    ⟨fun h => ⟨h.1, h.2⟩, fun h => ⟨h.1, h.2⟩⟩

theorem mem_lowerNames {table : List (Text × Text)} {e : Text × Text} (h : e ∈ lowerNames table) :
    ∃ name, (name, e.2) ∈ table ∧ e.1 = Text.lower name := by
  obtain ⟨k, w⟩ := e
  rcases Assoc.mem_putAll h with h | h
  · cases h
  · obtain ⟨⟨name, v⟩, hmem, heq⟩ := List.mem_map.1 h
    cases heq
    exact ⟨name, hmem, rfl⟩

theorem lowered_lowerNames (table : List (Text × Text)) : Lowered (lowerNames table) where
  lower_eq e he := by
    obtain ⟨name, -, hname⟩ := mem_lowerNames he
    rw [hname, Text.lower_lower]
  nodup := Assoc.nodup_keys_putAll_nil _

/-- Lower-casing names that are lower-cased already makes no two entries into one. -/
theorem lowerNames_eq_self {table : List (Text × Text)} (h : Lowered table) :
    lowerNames table = table := by
  have hlower : lowerNames table = putAll [] table :=
    congrArg (putAll []) (map_eq_self fun e he => Prod.ext (h.lower_eq e he) rfl)
  have hkeys : (keys ([] ++ table)).Nodup := h.nodup
  rw [hlower, Assoc.putAll_of_nodup hkeys, List.nil_append]

/-- A mapping in which a key or a value is given as bytes. -/
def GivesBytes (v : Value) : Prop :=
  ∃ entries, v = .map entries ∧ ∃ e ∈ entries, ∃ b, e.1 = .bytes b ∨ e.2 = .scalar (.bytes b)

theorem checkPair_eq_ok {k : Scalar} {v : Value} {e : Text × Text} (h : checkPair k v = .ok e) :
    (k, v) = (.text e.1, .text e.2) ∨ ∃ b, k = .bytes b ∨ v = .scalar (.bytes b) := by
  rw [checkPair, Checked.under_eq_ok_iff, Checked.both_eq_ok_iff, Checked.under_eq_ok_iff] at h
  obtain ⟨hkey, hvalue⟩ := h
  rcases eq_text_or_bytes_of_checkText hkey with hk | ⟨b, hb⟩
  · rcases eq_text_or_bytes_of_checkText hvalue with hv | ⟨b, hb⟩
    · exact Or.inl (Prod.ext (Value.scalar.inj hk) hv)
    · exact Or.inr ⟨b, Or.inr hb⟩
  · exact Or.inr ⟨b, Or.inl (Value.scalar.inj hb)⟩

/-- Entries without bytes that are accepted as pairs of texts are these pairs. -/
theorem eq_map_of_all_checkPair {entries : Entries} {pairs : List (Text × Text)}
    (hbytes : ∀ e ∈ entries, ¬ ∃ b, e.1 = .bytes b ∨ e.2 = .scalar (.bytes b))
    (h : Checked.all (entries.map fun (k, v) => checkPair k v) = .ok pairs) :
    entries = pairs.map fun (k, v) => (.text k, .text v) := by
  induction entries generalizing pairs with
  | nil =>
    cases h
    rfl
  | cons e es ih =>
    obtain ⟨he, hes⟩ := List.forall_mem_cons.1 hbytes
    rw [List.map_cons, Checked.all_cons_eq_ok_iff] at h
    obtain ⟨pair, rest, rfl, hpair, hrest⟩ := h
    rw [List.map_cons, ← ih hes hrest]
    exact congrArg (· :: es) ((checkPair_eq_ok hpair).resolve_right he)

/-- A mapping without bytes is accepted as a table of texts only if it is one. -/
theorem eq_tableEntries_of_checkTexts {v : Value} {table : List (Text × Text)}
    (h : checkTexts v = .ok table) (hbytes : ¬ GivesBytes v) :
    v = LoadedSettings.tableEntries table := by
  cases v with
  | scalar s => cases h
  | list items => cases h
  | map entries =>
    rw [checkTexts, Checked.map_eq_ok_iff] at h
    obtain ⟨pairs, hpairs, htable⟩ := h
    have hentries := eq_map_of_all_checkPair
      (fun e he hb => hbytes ⟨entries, rfl, e, he, hb⟩) hpairs
    have hkeys : (entries.all fun (k, _) => isTextKey k) = true := by
      rw [hentries]
      simp [isTextKey]
    rw [if_pos hkeys] at htable
    rw [← htable, LoadedSettings.tableEntries, ← hentries]

/-- A table given as entries is read as it is. -/
theorem checkTexts_tableEntries (table : List (Text × Text)) :
    checkTexts (LoadedSettings.tableEntries table) = .ok table := by
  have hpairs : Checked.all (table.map fun e => checkPair (.text e.1) (.text e.2)) = .ok table :=
    (Checked.all_map_ok (g := id) fun e _ => rfl).trans (by rw [List.map_id])
  have hkeys : (table.all fun e => isTextKey (.text e.1)) = true := by simp [isTextKey]
  simp only [LoadedSettings.tableEntries, checkTexts, List.map_map, List.all_map,
    Function.comp_def, hpairs, hkeys, if_true, Except.map]

theorem checkPresets_eq_ok_iff {v : Value} {presets : List (Text × Text)} :
    checkPresets v = .ok presets ↔
      ∃ table, checkTexts v = .ok table ∧ (∀ e ∈ table, e.2 ≠ []) ∧ lowerNames table = presets := by
  rw [checkPresets]
  cases checkTexts v with
  | error is => simp
  | ok table =>
    simp only [Except.ok.injEq, exists_eq_left']
    split
    · next name template hfind =>
      refine iff_of_false (by simp [Checked.broken]) fun h => ?_
      exact h.1 _ (List.mem_of_find?_eq_some hfind) (by simpa using List.find?_some hfind)
    · next hnone =>
      have hall : ∀ e ∈ table, e.2 ≠ [] := fun e he => by
        simpa using List.find?_eq_none.1 hnone e he
      rw [Except.ok.injEq]
      exact (and_iff_right hall).symm

theorem checkOverrides_eq_ok_iff {v : Value} {overrides : List (Text × Text)} :
    checkOverrides v = .ok overrides ↔
      ∃ table, checkTexts v = .ok table
        ∧ lowerNames (table.map fun (name, ext) => (name, ext.dropWhile (· == '.')))
            = overrides := by
  rw [checkOverrides]
  cases checkTexts v <;> simp

/-- Leading dots are dropped from no extension where none has any. -/
theorem dropDots_eq_self {table : List (Text × Text)} (h : ∀ e ∈ table, e.2.head? ≠ some '.') :
    (table.map fun (name, ext) => (name, ext.dropWhile (· == '.'))) = table := by
  refine map_eq_self fun e he => ?_
  obtain ⟨name, ext⟩ := e
  have hext : ext.head? ≠ some '.' := h _ he
  cases ext with
  | nil => rfl
  | cons c cs =>
    have hc : (c == '.') = false := by simpa using hext
    simp [hc]

/-! ## Sections and whole settings -/

theorem checkSection_eq_ok_iff {α : Type} {name : String} {check : Entries → Checked α} {v : Value}
    {a : α} : checkSection name check v = .ok a ↔ ∃ es, v = .map es ∧ check es = .ok a := by
  cases v <;> simp [checkSection, Checked.broken]

theorem check_eq_ok_iff {es : Entries} {s : Settings} :
    check es = .ok s ↔
      Checked.entry es "version" ({} : Settings).version checkText = .ok s.version
        ∧ Checked.entry es "templates" {} checkTemplateSection = .ok s.templates
        ∧ Checked.entry es "paths" {} checkPathSection = .ok s.paths
        ∧ Checked.entry es "headers" {} checkHeaderSection = .ok s.headers
        ∧ Checked.entry es "verbose" false checkTruth = .ok s.verbose
        ∧ Checked.entry es "debug" false checkTruth = .ok s.debug
        ∧ checkKnown es = .ok () := by
  rw [check, Checked.map_eq_ok_iff]
  constructor
  · rintro ⟨⟨⟨v, t⟩, ⟨p, h⟩, ⟨b, d⟩, ⟨⟩⟩, hboth, rfl⟩
    simpa only [Checked.both_eq_ok_iff, and_assoc] using hboth
  · intro h
    refine ⟨((s.version, s.templates), (s.paths, s.headers), (s.verbose, s.debug), ()), ?_, rfl⟩
    simpa only [Checked.both_eq_ok_iff, and_assoc] using h

end DownloadNames.Settings
