import DownloadNames.Proofs.Template.Layout
import DownloadNames.Proofs.Template.Names

/-
What the expansion of a template depends on.

It depends on the values that a table has for the names of the template, and on whether the table
has the empty name, which an empty alternative asks for.  Each name matters: a table that gives all
other names empty values, the empty name included, expands a template to more than its literal text
as soon as this name has a value (`expand_probe_eq_iff`).
-/

namespace DownloadNames

/-! ## Tables that differ in one value -/

namespace Bindings

/-- Two tables have the same names, and they give all of them but one the same values. -/
structure DifferOnlyAt (n : Text) (a b : Bindings) : Prop where
  names_eq : a.names = b.names
  get?_eq : ∀ m, Text.lower m ≠ n → a.get? m = b.get? m
  get?_ne : a.get? n ≠ b.get? n

/-- Entries that give one of several names a value and the others nothing. -/
def probe (ns : List Text) (n value : Text) : Entries :=
  ns.map fun m => (.text m, .text (if m = n then value else []))

section Probe

variable {ns : List Text} {n value : Text} (hnodup : ns.Nodup)
  (hlower : ∀ m ∈ ns, Text.lower m = m)
include hnodup hlower

theorem entries_probe :
    (ofEntries (probe ns n value)).entries = ns.map fun m => (m, if m = n then value else []) := by
  let shown : Bindings := ⟨ns.map fun m => (m, if m = n then value else [])⟩
  have hnames : shown.names = ns := by
    rw [names, Assoc.keys, List.map_map]
    exact List.map_id ns
  have hentries : probe ns n value = shown.toEntries := by
    rw [probe, toEntries, List.map_map]
    rfl
  rw [hentries, ofEntries_toEntries (by rwa [hnames]) (by rwa [hnames])]

theorem names_probe : (ofEntries (probe ns n value)).names = ns := by
  rw [names, entries_probe hnodup hlower, Assoc.keys, List.map_map]
  exact List.map_id ns

theorem get?_probe {m : Text} (hm : Text.lower m ∈ ns) :
    (ofEntries (probe ns n value)).get? m = some (if Text.lower m = n then value else []) := by
  rw [get?, Assoc.find?_eq_some_iff (by
    rw [← names, names_probe hnodup hlower]
    exact hnodup), entries_probe hnodup hlower]
  exact List.mem_map.2 ⟨_, hm, rfl⟩

theorem get?_probe_of_not_mem {m : Text} (hm : Text.lower m ∉ ns) :
    (ofEntries (probe ns n value)).get? m = none := by
  rw [get?, Assoc.find?_eq_none_iff, ← names, names_probe hnodup hlower]
  exact hm

/-- Two values for one of the names make tables that differ there only. -/
theorem differOnlyAt_probe {v w : Text} (hn : n ∈ ns) (hne : v ≠ w) :
    DifferOnlyAt n (ofEntries (probe ns n v)) (ofEntries (probe ns n w)) where
  names_eq := by rw [names_probe hnodup hlower, names_probe hnodup hlower]
  get?_eq m hm := by
    by_cases hmem : Text.lower m ∈ ns
    · rw [get?_probe hnodup hlower hmem, get?_probe hnodup hlower hmem, if_neg hm, if_neg hm]
    · rw [get?_probe_of_not_mem hnodup hlower hmem, get?_probe_of_not_mem hnodup hlower hmem]
  get?_ne := by
    have hlow : Text.lower n = n := hlower n hn
    have hmem : Text.lower n ∈ ns := by rwa [hlow]
    rw [get?_probe hnodup hlower hmem, get?_probe hnodup hlower hmem, if_pos hlow, if_pos hlow]
    exact fun heq => hne (Option.some.inj heq)

end Probe
end Bindings

namespace Template

/-! ## What an expansion depends on -/

section Dependence

variable {template : Text} {a b table : Bindings}

theorem firstUsable_congr {alternatives : List Alternative}
    (h : ∀ alt ∈ alternatives, a.get? alt.name = b.get? alt.name) :
    firstUsable a alternatives = firstUsable b alternatives := by
  induction alternatives with
  | nil => rfl
  | cons alt rest ih =>
    obtain ⟨halt, hrest⟩ := List.forall_mem_cons.1 h
    rw [firstUsable, firstUsable, halt, ih hrest]

/-- Tables that agree on the names of a template and on the empty name expand it to one text. -/
theorem expand_congr (hnames : ∀ n ∈ names template, a.get? n = b.get? n)
    (hempty : a.get? [] = b.get? []) : expand template a = expand template b := by
  obtain ⟨l, hl⟩ := Layout.exists_of template
  rw [hl.expand_eq, hl.expand_eq]
  apply Layout.fill_congr
  intro p hp
  apply firstUsable_congr
  intro alt halt
  rw [← hl.placeholders_eq] at hp
  by_cases hname : alt.name = []
  · rw [hname, hempty]
  · have hmem := lower_name_mem_names hp halt hname
    rw [← a.get?_lower, ← b.get?_lower, hnames _ hmem]

/-- Where all names are in the table, alternatives stand for nothing if they all have empty values,
and only then. -/
theorem firstUsable_eq_nil_iff {alternatives : List Alternative}
    (hpresent : ∀ alt ∈ alternatives, table.get? alt.name ≠ none) :
    firstUsable table alternatives = [] ↔
      ∀ alt ∈ alternatives, table.get? alt.name = some [] := by
  induction alternatives with
  | nil => simp [firstUsable]
  | cons alt rest ih =>
    obtain ⟨halt, hrest⟩ := List.forall_mem_cons.1 hpresent
    rw [firstUsable, List.forall_mem_cons]
    cases hvalue : table.get? alt.name with
    | none => exact absurd hvalue halt
    | some value =>
      cases value with
      | nil => simp [ih hrest]
      | cons c cs => simp [padZeros]

theorem nodup_nil_cons_names (template : Text) : ([] :: names template).Nodup :=
  List.nodup_cons.2 ⟨fun hmem => (mem_names_iff.1 hmem).2 rfl, names_nodup template⟩

theorem lower_of_mem_nil_cons_names : ∀ m ∈ [] :: names template, Text.lower m = m :=
  List.forall_mem_cons.2 ⟨rfl, fun _ => lower_of_mem_names⟩

/-- A table with a value for one of the names of a template, and empty values for the others and
for the empty name. -/
def probe (template n value : Text) : Bindings :=
  .ofEntries (Bindings.probe ([] :: names template) n value)

/-- The table has a value for every alternative of the template. -/
theorem get?_probe {n value : Text} {p : Placeholder} {alt : Alternative}
    (hp : p ∈ placeholders template) (halt : alt ∈ p.alternatives) :
    (probe template n value).get? alt.name
      = some (if Text.lower alt.name = n then value else []) := by
  apply Bindings.get?_probe (nodup_nil_cons_names template) lower_of_mem_nil_cons_names
  by_cases hname : alt.name = []
  · rw [hname]
    exact List.mem_cons_self
  · exact List.mem_cons_of_mem _ (lower_name_mem_names hp halt hname)

/-- A value for a name of a template shows in the expansion, unless it is empty. -/
theorem expand_probe_eq_iff {n value : Text} (hn : n ∈ names template) :
    expand template (probe template n value) = literalText template ↔ value = [] := by
  rw [expand_eq_literalText_iff]
  -- all alternatives are in the table, so a placeholder stands for nothing unless it asks for `n`
  have hvalue : ∀ p ∈ placeholders template, p.value (probe template n value) = [] ↔
      ∀ alt ∈ p.alternatives, Text.lower alt.name = n → value = [] := by
    intro p hp
    have hpresent : ∀ alt ∈ p.alternatives, (probe template n value).get? alt.name ≠ none := by
      intro alt halt
      rw [get?_probe hp halt]
      simp
    rw [Placeholder.value, firstUsable_eq_nil_iff hpresent]
    refine forall₂_congr fun alt halt => ?_
    rw [get?_probe hp halt]
    by_cases hname : Text.lower alt.name = n <;> simp [hname]
  constructor
  · intro h
    obtain ⟨p, hp, halt⟩ := List.mem_flatMap.1 (mem_names_iff.1 hn).1
    obtain ⟨alt, halt, hname⟩ := List.mem_map.1 halt
    exact (hvalue p hp).1 (h p hp) alt halt hname
  · rintro rfl p hp
    exact (hvalue p hp).2 fun _ _ _ => rfl

/-- The names of a template are the names that its expansion depends on.  They are those mentioned
in it, but for the empty name, each once, in lower case and in the order of their first use; tables
that agree on them and on the empty name expand the template to one text; and for each of them there
are two tables that differ only there and expand the template to two texts. -/
theorem names_dependence (template : Text) :
    (names template).Nodup
      ∧ (∀ n ∈ names template, n ≠ [] ∧ Text.lower n = n)
      ∧ (∀ n, n ∈ names template ↔ n ∈ mentioned template ∧ n ≠ [])
      ∧ (names template).Pairwise
          (fun m n => (mentioned template).idxOf m < (mentioned template).idxOf n)
      ∧ (∀ a b : Bindings, (∀ n ∈ names template, a.get? n = b.get? n) → a.get? [] = b.get? [] →
          expand template a = expand template b)
      ∧ ∀ n ∈ names template, ∃ a b : Entries,
          Bindings.DifferOnlyAt n (.ofEntries a) (.ofEntries b)
            ∧ expand template (.ofEntries a) ≠ expand template (.ofEntries b) := by
  have hnodup := nodup_nil_cons_names template
  refine ⟨names_nodup template, fun n hn => ⟨(mem_names_iff.1 hn).2, lower_of_mem_names hn⟩,
    fun n => mem_names_iff, foldl_addName_pairwise (mentioned template),
    fun a b => expand_congr, fun n hn => ?_⟩
  have hmem : n ∈ [] :: names template := List.mem_cons_of_mem _ hn
  refine ⟨Bindings.probe ([] :: names template) n ['x'],
    Bindings.probe ([] :: names template) n [],
    Bindings.differOnlyAt_probe hnodup lower_of_mem_nil_cons_names hmem (by decide), ?_⟩
  -- with the empty value only the literal text is left
  have hliteral : expand template (probe template n []) = literalText template :=
    (expand_probe_eq_iff hn).2 rfl
  have hshown : expand template (probe template n ['x']) ≠ literalText template :=
    mt (expand_probe_eq_iff hn).1 (List.cons_ne_nil 'x' [])
  rw [← hliteral] at hshown
  exact hshown

/-- Names behind others, behind an empty alternative and in capitals are found, each once. -/
example : names "<##A|b||C>/<B|a>".toList = [['a'], ['b'], ['c']] := by decide

end Dependence

end Template
end DownloadNames
