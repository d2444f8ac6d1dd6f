import DownloadNames.Template.Expand
import DownloadNames.Proofs.Assoc
import DownloadNames.Proofs.Text.LowerCase

/-
What a table of variables holds.

Entries are stored one after the other under their lower-cased names.  So a name has the value of
the last entry for it in any spelling, and the names stand in the order in which they first came
(`get?_ofEntries`, `names_ofEntries`).  Names and values of a table are texts in the form in which
they are stored, and a table made of them is the same table (`ofEntries_toEntries`).
-/

namespace DownloadNames.Bindings

open Assoc (keys lastValue?)

variable {table : Bindings}

/-- A look-up ignores letter case, so it may be asked in lower case. -/
@[simp] theorem get?_lower (table : Bindings) (name : Text) :
    table.get? (Text.lower name) = table.get? name := by
  rw [get?, get?, Text.lower_lower]

theorem has_iff {name : Text} : table.has name = true ↔ ∃ value, table.get? name = some value :=
  Option.isSome_iff_exists

theorem size_eq (table : Bindings) : table.size = table.names.length :=
  (List.length_map _).symm

/-! ## Tables made of entries -/

section Entries

variable (es : Entries)

/-- A name has the value of the last entry whose name is the same in lower case. -/
theorem get?_ofEntries (k : Text) :
    (ofEntries es).get? k
      = (lastValue? (fun name => Text.lower name.display = Text.lower k) es).map stored := by
  have hentries : es.map storedEntry
      = (es.map fun e => (e.1, stored e.2)).map fun e => (Text.lower e.1.display, e.2) := by
    rw [List.map_map]
    rfl
  calc (ofEntries es).get? k
      = Assoc.find? (Text.lower k) (Assoc.putAll []
          ((es.map fun e => (e.1, stored e.2)).map fun e => (Text.lower e.1.display, e.2))) := by
        rw [get?, ofEntries, hentries]
    _ = lastValue? (fun name => Text.lower name.display = Text.lower k)
          (es.map fun e => (e.1, stored e.2)) :=
        Assoc.find?_putAll_map (fun name : Scalar => Text.lower name.display) _ _
    _ = _ := Assoc.lastValue?_map_values stored es

theorem has_ofEntries_iff {k : Text} :
    (ofEntries es).has k = true ↔ ∃ e ∈ es, Text.lower e.1.display = Text.lower k := by
  rw [has, get?_ofEntries, Option.isSome_map, Assoc.lastValue?_isSome_iff]
  simp

/-- The names stand in lower case and in the order in which they first come. -/
theorem names_ofEntries :
    (ofEntries es).names = (es.map fun e => Text.lower e.1.display).eraseDups := by
  rw [names, ofEntries, Assoc.keys_putAll, keys, List.map_map]
  rfl

theorem lower_of_mem_names_ofEntries {n : Text} (hn : n ∈ (ofEntries es).names) :
    Text.lower n = n := by
  rw [names_ofEntries, List.mem_eraseDups] at hn
  obtain ⟨e, -, rfl⟩ := List.mem_map.1 hn
  exact Text.lower_lower _

theorem nodup_names_ofEntries : (ofEntries es).names.Nodup :=
  Assoc.nodup_keys_putAll_nil _

end Entries

/-! ## Tables made of tables -/

/-- A table with lower-cased names, none of which comes twice, is made again from its entries. -/
theorem ofEntries_toEntries (hnodup : table.names.Nodup)
    (hlower : ∀ n ∈ table.names, Text.lower n = n) : ofEntries table.toEntries = table := by
  have hstored : table.toEntries.map storedEntry = table.entries := by
    rw [toEntries, List.map_map, List.map_congr_left, List.map_id]
    rintro ⟨name, value⟩ he
    exact Prod.ext (hlower name (List.mem_map_of_mem he)) rfl
  have hkeys : (keys ([] ++ table.entries)).Nodup := hnodup
  rw [ofEntries, hstored, Assoc.putAll_of_nodup hkeys, List.nil_append]

/-- What a table of variables and named arguments holds.  A name is in it if some entry has this
name in any case, and its value is that of the last such entry, the named arguments counting after
the others; the names stand in lower case in the order in which they first come, and their number is
the size of the table.  A table made of a table is the same, so that an expansion is the same for
variables, for the table of them and for the entries of that table. -/
theorem ofGroups_holds_last (vars named : Entries) :
    let table := ofGroups vars named
    let given := vars ++ named
    (∀ k, (table.has k = true ↔ ∃ e ∈ given, Text.lower e.1.display = Text.lower k)
        ∧ table.get? k
          = (lastValue? (fun name => Text.lower name.display = Text.lower k) given).map stored)
      ∧ table.names = (given.map fun e => Text.lower e.1.display).eraseDups
      ∧ table.size = (given.map fun e => Text.lower e.1.display).eraseDups.length
      ∧ ofEntries table.toEntries = table
      ∧ ∀ template,
          Template.expand template (ofGiven (.entries given))
              = Template.expand template (ofGiven (.table table))
            ∧ Template.expand template (ofGiven (.entries table.toEntries))
              = Template.expand template (ofGiven (.table table)) := by
  intro table given
  have hagain : ofEntries table.toEntries = table :=
    ofEntries_toEntries (nodup_names_ofEntries given) fun _ hn =>
      lower_of_mem_names_ofEntries given hn
  refine ⟨fun k => ⟨has_ofEntries_iff given, get?_ofEntries given k⟩, names_ofEntries given, ?_,
    hagain, fun template => ⟨rfl, ?_⟩⟩
  · rw [size_eq, ← names_ofEntries]
    rfl
  · rw [ofGiven, ofGiven, hagain]

/-- The number `1` and the text `1` are one name, and so are `B` and `b`. -/
example :
    (ofGroups [(.text ['B'], .text ['x']), (.int 1, .text ['y']), (.text ['b'], .null)]
      [(.text ['1'], .bool true)]).entries = [(['b'], []), (['1'], "True".toList)] := by
  decide

end DownloadNames.Bindings
