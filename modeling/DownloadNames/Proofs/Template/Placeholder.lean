import DownloadNames.Template.Placeholder
import DownloadNames.Proofs.Text.Pieces

/-
Alternatives and the texts they are written as.

Reading the text between two brackets and writing the alternatives that were read gives the text
back.  The other way round, alternatives are read as they were written if their names can stand
there: no name begins with `#` or holds a bar.
-/

namespace DownloadNames.Template

/-! ## One alternative -/

namespace Alternative

/-- The name can stand behind the `#` of an alternative. -/
structure Writable (a : Alternative) : Prop where
  no_pad : a.name.head? ≠ some '#'
  no_bar : '|' ∉ a.name

theorem takeWhile_pad_eq (s : Text) :
    s.takeWhile (· == '#') = List.replicate (s.takeWhile (· == '#')).length '#' := by
  apply List.eq_replicate_of_mem
  intro c hc
  have hall := List.all_eq_true.1 (List.all_takeWhile (p := (· == '#')) (l := s)) c hc
  simpa using hall

/-- Writing an alternative undoes reading it. -/
theorem print_parse (s : Text) : (parse s).print = s := by
  rw [parse, print, ← takeWhile_pad_eq]
  exact List.takeWhile_append_dropWhile

/-- Reading an alternative undoes writing it. -/
theorem parse_print {a : Alternative} (h : a.name.head? ≠ some '#') : parse a.print = a := by
  obtain ⟨width, name⟩ := a
  -- the padding ends where the name begins
  have hname : name.takeWhile (· == '#') = [] ∧ name.dropWhile (· == '#') = name := by
    cases name with
    | nil => simp
    | cons c cs =>
      have hc : c ≠ '#' := by simpa using h
      simp [hc]
  simp [parse, print, hname]

/-- A name that was read does not begin with `#`. -/
theorem name_parse_head (s : Text) : (parse s).name.head? ≠ some '#' := by
  intro h
  have hdrop := List.head?_dropWhile_not (· == '#') s
  rw [parse] at h
  simp [h] at hdrop

theorem name_parse_subset (s : Text) : (parse s).name ⊆ s :=
  (List.dropWhile_sublist _).subset

end Alternative

/-! ## Alternatives between bars -/

/-- Alternatives as they are written between brackets. -/
def printAll (alternatives : List Alternative) : Text :=
  Text.joinWith ['|'] (alternatives.map Alternative.print)

namespace Placeholder

/-- Writing the alternatives of a placeholder undoes reading them. -/
theorem printAll_alternatives_parse (s : Text) : printAll (parse s).alternatives = s := by
  have hprint : Alternative.print ∘ Alternative.parse = id := funext Alternative.print_parse
  rw [printAll, parse, List.map_map, hprint, List.map_id, Text.joinWith_splitBy]

/-- Reading alternatives undoes writing them. -/
theorem alternatives_parse_printAll {alternatives : List Alternative} (hne : alternatives ≠ [])
    (h : ∀ a ∈ alternatives, a.Writable) :
    (parse (printAll alternatives)).alternatives = alternatives := by
  -- the only bars are those written between the alternatives
  have hbar : ∀ w ∈ alternatives.map Alternative.print, '|' ∉ w := by
    intro w hw
    obtain ⟨a, ha, rfl⟩ := List.mem_map.1 hw
    have hname := (h a ha).no_bar
    simp [Alternative.print, hname]
  rw [parse, printAll, Text.splitBy_joinWith (by simpa using hne) hbar, List.map_map]
  have hparse : alternatives.map (Alternative.parse ∘ Alternative.print) = alternatives.map id :=
    List.map_congr_left fun a ha => Alternative.parse_print (h a ha).no_pad
  rw [hparse, List.map_id]

/-- Alternatives that were read can be written. -/
theorem writable_of_mem_parse {s : Text} {a : Alternative} (ha : a ∈ (parse s).alternatives) :
    a.Writable := by
  obtain ⟨w, hw, rfl⟩ := List.mem_map.1 ha
  refine ⟨Alternative.name_parse_head w, fun hbar => ?_⟩
  have hpiece := (Text.mem_splitBy_iff.1 hw).1 '|' (Alternative.name_parse_subset w hbar)
  simp at hpiece

/-- The names of alternatives that were read stand in the text. -/
theorem name_subset_of_mem_parse {s : Text} {a : Alternative}
    (ha : a ∈ (parse s).alternatives) : a.name ⊆ s := by
  obtain ⟨w, hw, rfl⟩ := List.mem_map.1 ha
  obtain ⟨-, before, after, rfl, -, -⟩ := Text.mem_splitBy_iff.1 hw
  intro c hc
  have hcw := Alternative.name_parse_subset w hc
  simp [hcw]

/-- Reading the alternatives of a text gives at least one. -/
theorem alternatives_parse_ne_nil (inner : Text) : (parse inner).alternatives ≠ [] := by
  simpa [parse] using Text.splitBy_ne_nil (· == '|') inner

theorem checkedValue_of_ne_nil {p : Placeholder} (h : p.alternatives ≠ []) (table : Bindings) :
    p.checkedValue table = .ok (p.value table) :=
  if_neg h

/-- Only a placeholder without alternatives is refused. -/
theorem checkedValue_eq_error_iff {p : Placeholder} {table : Bindings} {e : NoAlternatives} :
    p.checkedValue table = .error e ↔ p.alternatives = [] ∧ e = ⟨p.raw⟩ := by
  rw [checkedValue]
  by_cases h : p.alternatives = []
  · simp [h, eq_comm]
  · simp [h]

theorem hasEmptyName_eq_false_iff {p : Placeholder} :
    p.hasEmptyName = false ↔ ∀ a ∈ p.alternatives, a.name ≠ [] := by
  simp [hasEmptyName]

end Placeholder
end DownloadNames.Template
