import DownloadNames.Proofs.Template.Layout

/-
What a chain of alternatives falls back to.

An alternative is passed over when its name has an empty value.  The first of the others decides,
whatever stands behind it, so a placeholder depends only on its alternatives without those that are
passed over (`firstUsable_eq`).  Only a placeholder without any alternatives is refused, and no
template has one: expanding a template goes through (`checkedExpand_eq_ok`).
-/

namespace DownloadNames.Template

/-! ## The first usable alternative -/

/-- The table lacks the name of the alternative or has a value for it that is not empty. -/
def Alternative.usable (table : Bindings) (a : Alternative) : Bool :=
  table.get? a.name ≠ some []

/-- What a usable alternative stands for: its name where the table lacks it, and otherwise the value
filled up to the width. -/
def Alternative.standsFor (table : Bindings) (a : Alternative) : Text :=
  (table.get? a.name).elim a.name (padZeros a.padWidth)

section Chain

variable {table : Bindings} {a : Alternative} {alternatives front others : List Alternative}

theorem Alternative.usable_eq_false_iff : a.usable table = false ↔ table.get? a.name = some [] := by
  simp [usable]

theorem firstUsable_cons_of_usable (ha : a.usable table = true) (after : List Alternative) :
    firstUsable table (a :: after) = a.standsFor table := by
  rw [firstUsable, Alternative.standsFor]
  cases hvalue : table.get? a.name with
  | none => rfl
  | some value =>
    cases value with
    | nil => simp [Alternative.usable, hvalue] at ha
    | cons c cs => rfl

theorem firstUsable_cons_of_not_usable (ha : a.usable table = false) (after : List Alternative) :
    firstUsable table (a :: after) = firstUsable table after := by
  rw [firstUsable, Alternative.usable_eq_false_iff.1 ha]

/-- Of the alternatives that are not passed over the first decides. -/
theorem firstUsable_eq (table : Bindings) (alternatives : List Alternative) :
    firstUsable table alternatives
      = (alternatives.filter (·.usable table)).head?.elim [] (·.standsFor table) := by
  induction alternatives with
  | nil => rfl
  | cons a after ih =>
    cases ha : a.usable table with
    | true => rw [firstUsable_cons_of_usable ha, List.filter_cons_of_pos ha]; rfl
    | false =>
      rw [firstUsable_cons_of_not_usable ha, ih, List.filter_cons_of_neg (by simp [ha])]

/-- Alternatives that are passed over can be left out before any others. -/
theorem firstUsable_append_of_not_usable (hfront : ∀ b ∈ front, b.usable table = false)
    (others : List Alternative) :
    firstUsable table (front ++ others) = firstUsable table others := by
  have hpassed : front.filter (·.usable table) = [] := by
    simpa [List.filter_eq_nil_iff] using hfront
  rw [firstUsable_eq, firstUsable_eq, List.filter_append, hpassed, List.nil_append]

/-- A name that the table lacks stands for itself if all alternatives before it have empty values. -/
theorem firstUsable_append_cons_of_none (hfront : ∀ b ∈ front, b.usable table = false)
    (hnone : table.get? a.name = none) (after : List Alternative) :
    firstUsable table (front ++ a :: after) = a.name := by
  have ha : a.usable table = true := by simp [Alternative.usable, hnone]
  rw [firstUsable_append_of_not_usable hfront, firstUsable_cons_of_usable ha,
    Alternative.standsFor, hnone]
  rfl

/-- A value that is not empty is filled up if all alternatives before it have empty values. -/
theorem firstUsable_append_cons_of_some (hfront : ∀ b ∈ front, b.usable table = false)
    {value : Text} (hne : value ≠ []) (hvalue : table.get? a.name = some value)
    (after : List Alternative) :
    firstUsable table (front ++ a :: after) = padZeros a.padWidth value := by
  have ha : a.usable table = true := by simpa [Alternative.usable, hvalue] using hne
  rw [firstUsable_append_of_not_usable hfront, firstUsable_cons_of_usable ha,
    Alternative.standsFor, hvalue]
  rfl

/-- What stands behind a usable alternative does not matter. -/
theorem firstUsable_append_congr (ha : a.usable table = true)
    (front after others : List Alternative) :
    firstUsable table (front ++ a :: after) = firstUsable table (front ++ a :: others) := by
  rw [firstUsable_eq, firstUsable_eq, List.filter_append, List.filter_append,
    List.filter_cons_of_pos ha, List.filter_cons_of_pos ha, List.head?_append, List.head?_append,
    List.head?_cons, List.head?_cons]

/-- Nothing is left of a chain of alternatives that are all passed over. -/
theorem firstUsable_eq_nil (h : ∀ a ∈ alternatives, a.usable table = false) :
    firstUsable table alternatives = [] := by
  have hend := firstUsable_append_of_not_usable h []
  rwa [List.append_nil] at hend

end Chain

/-! ## Placeholders that are refused -/

/-- A placeholder without alternatives is a template fault, whatever the context. -/
theorem NoAlternatives.build_draft (e : NoAlternatives) (freshId : Text) (ctx : Context) :
    ∃ fault, (Fault.build freshId e.draft ctx).2 = .ok fault ∧ fault.kind = .template :=
  ⟨_, rfl, rfl⟩

/-- No placeholder of a template is refused. -/
theorem checkedExpand_eq_ok (template : Text) (table : Bindings) :
    checkedExpand template table = .ok (expand template table) := by
  apply Text.Pattern.replaceChecked_eq_ok
  intro inner
  exact Placeholder.checkedValue_of_ne_nil (Placeholder.alternatives_parse_ne_nil inner) table

/-! ## The law of the chain -/

/-- A placeholder is refused, with a template fault that names its text, exactly if it has no
alternatives.  Otherwise alternatives with empty values can be put in and left out anywhere, as long
as one alternative is left, and those behind one that is not passed over can be any.  If all are
passed over nothing is left; the first of the others stands for its name as it is written where the
table lacks it, and else for its value with zeros before it up to the width.  Expanding a template
never comes upon a placeholder that is refused. -/
theorem checkedValue_fallback (alternatives : List Alternative) (raw : Text) (table : Bindings) :
    let result (chain : List Alternative) := (⟨chain, raw⟩ : Placeholder).checkedValue table
    (∀ e, result alternatives = .error e ↔ alternatives = [] ∧ e = ⟨raw⟩)
      ∧ (∀ e, result alternatives = .error e → ∀ freshId ctx, ∃ fault,
          (Fault.build freshId e.draft ctx).2 = .ok fault ∧ fault.kind = .template)
      ∧ (∀ others, alternatives ≠ [] → others ≠ [] →
          others.filter (·.usable table) = alternatives.filter (·.usable table) →
          result others = result alternatives)
      ∧ (∀ front a after, alternatives = front ++ a :: after → a.usable table = true →
          ∀ others, result (front ++ a :: others) = result alternatives)
      ∧ (alternatives ≠ [] → (∀ a ∈ alternatives, table.get? a.name = some []) →
          result alternatives = .ok [])
      ∧ (∀ front a after, alternatives = front ++ a :: after →
          (∀ b ∈ front, table.get? b.name = some []) →
          (table.get? a.name = none → result alternatives = .ok a.name)
            ∧ ∀ value, value ≠ [] → table.get? a.name = some value →
                result alternatives
                  = .ok (List.replicate (a.padWidth - value.length) '0' ++ value))
      ∧ ∀ template, checkedExpand template table = .ok (expand template table) := by
  intro result
  have hresult : ∀ {chain}, chain ≠ [] → result chain = .ok (firstUsable table chain) :=
    fun hne => Placeholder.checkedValue_of_ne_nil hne table
  have hcons : ∀ front a after,
      result (front ++ a :: after) = .ok (firstUsable table (front ++ a :: after)) :=
    fun _ _ _ => hresult (by simp)
  refine ⟨fun e => Placeholder.checkedValue_eq_error_iff, fun e _ => e.build_draft, ?_, ?_, ?_, ?_,
    fun template => checkedExpand_eq_ok template table⟩
  · -- the filtered chain is all that either result depends on
    intro others hne hothers hsame
    rw [hresult hothers, hresult hne, firstUsable_eq, firstUsable_eq, hsame]
  · rintro front a after rfl ha others
    rw [hcons, hcons, firstUsable_append_congr ha front others after]
  · intro hne hempty
    rw [hresult hne,
      firstUsable_eq_nil fun a ha => Alternative.usable_eq_false_iff.2 (hempty a ha)]
  · rintro front a after rfl hfront
    have hpassed : ∀ b ∈ front, b.usable table = false := fun b hb =>
      Alternative.usable_eq_false_iff.2 (hfront b hb)
    constructor
    · intro hnone
      rw [hcons, firstUsable_append_cons_of_none hpassed hnone]
    · intro value hne hvalue
      rw [hcons, firstUsable_append_cons_of_some hpassed hne hvalue, padZeros]

/-- Of `a` without a value, `N` with `7` and `x`, which is not in the table, `N` decides. -/
example :
    let table : Bindings := ⟨[(['a'], []), (['n'], ['7'])]⟩
    let chain : List Alternative := [⟨9, ['A']⟩, ⟨3, ['N']⟩, ⟨5, ['X']⟩]
    firstUsable table chain = ['0', '0', '7'] ∧ firstUsable table (chain.eraseIdx 1) = ['X'] := by
  decide

end DownloadNames.Template
