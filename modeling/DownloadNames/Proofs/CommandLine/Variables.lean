import DownloadNames.CommandLine.Run
import DownloadNames.Proofs.Assoc

/-
Which of the values given on the command line a variable has.

Options are collected by the exact spelling of their names, and only then are names lower-cased.  A
spelling keeps the place at which it is first given, so of two spellings of one name the one that is
given first later decides, with its last value.  That need not be the last value given for the name.
-/

namespace DownloadNames.CommandLine

open Assoc (keys lastValue?)

/-- Of texts given as variables a name has the last one, letter case of names ignored. -/
theorem get?_tableOf (values : List (Text × Text)) (n : Text) :
    (tableOf values).get? n = lastValue? (fun m => Text.lower m = Text.lower n) values := by
  have hentries : (tableOf values).entries
      = Assoc.putAll [] (values.map fun e => (Text.lower e.1, e.2)) := by
    rw [tableOf, Bindings.ofEntries, List.map_map]
    rfl
  rw [Bindings.get?, hentries, Assoc.find?_putAll_map]

variable {items : List Text} {given : List (Text × Text)}

theorem readVariables_of_ok (h : items.mapM assignment = .ok given) :
    readVariables items = .ok (Assoc.putAll [] given) := by
  rw [readVariables, h]
  rfl

/-- The value that options give a name: of its spellings, in the order in which they are first
given, the last one counts, and of the values given with that spelling the last.  Where all options
spell the name alike it is the last value that is given for it. -/
theorem get?_tableOf_readVariables (h : items.mapM assignment = .ok given) (n : Text) :
    ∃ values, readVariables items = .ok values
      ∧ (tableOf values).get? n
          = (((keys given).eraseDups.filter fun m => Text.lower m = Text.lower n).getLast?.bind
              fun m => lastValue? (· = m) given)
      ∧ ((∀ a ∈ keys given, ∀ b ∈ keys given,
            Text.lower a = Text.lower n → Text.lower b = Text.lower n → a = b) →
          (tableOf values).get? n
            = lastValue? (fun m => Text.lower m = Text.lower n) given) := by
  refine ⟨_, readVariables_of_ok h, ?_, fun hsame => ?_⟩
  -- the options leave each spelling once, where it came first, with its last value
  · rw [get?_tableOf, Assoc.lastValue?_eq_bind (Assoc.nodup_keys_putAll_nil given),
      Assoc.keys_putAll]
    congr 1
    funext m
    rw [Assoc.find?_putAll, Assoc.find?_nil, Option.or_none]
  · rw [get?_tableOf]
    by_cases hgiven : ∃ a ∈ keys given, Text.lower a = Text.lower n
    · obtain ⟨a, hmem, ha⟩ := hgiven
      exact Assoc.lastValue?_putAll_of_forall_eq (decide_eq_true ha)
        fun b hb hn => hsame b hb a hmem (of_decide_eq_true hn) ha
    -- where no option gives the name, any spelling of it will do
    · exact Assoc.lastValue?_putAll_of_forall_eq (decide_eq_true rfl)
        fun b hb hn => absurd ⟨b, hb, of_decide_eq_true hn⟩ hgiven

/-- Between two values of one spelling stands that of another, and it is the one that counts. -/
theorem get?_tableOf_readVariables_two_spellings :
    let items := ["a=1".toList, "A=2".toList, "a=3".toList]
    items.mapM assignment
        = .ok [("a".toList, "1".toList), ("A".toList, "2".toList), ("a".toList, "3".toList)]
      ∧ ∃ values, readVariables items = .ok values
        ∧ (tableOf values).get? "a".toList = some "2".toList := by
  intro items
  have hread : items.mapM assignment
      = .ok [("a".toList, "1".toList), ("A".toList, "2".toList), ("a".toList, "3".toList)] := rfl
  obtain ⟨values, hvalues, hget, -⟩ := get?_tableOf_readVariables hread "a".toList
  exact ⟨hread, values, hvalues, hget.trans (by decide)⟩

/-- The last value that is given for a name need not be its value. -/
theorem not_all_last_given_counts :
    ¬ ∀ items given values, items.mapM assignment = .ok given → readVariables items = .ok values →
      ∀ n v, lastValue? (fun m => Text.lower m = Text.lower n) given = some v →
        (tableOf values).get? n = some v := by
  intro hall
  have hlast := hall ["a=1".toList, "A=2".toList, "a=3".toList]
    [("a".toList, "1".toList), ("A".toList, "2".toList), ("a".toList, "3".toList)]
    [("a".toList, "3".toList), ("A".toList, "2".toList)]
    rfl rfl "a".toList "3".toList (by decide)
  exact absurd hlast (by decide)

end DownloadNames.CommandLine
