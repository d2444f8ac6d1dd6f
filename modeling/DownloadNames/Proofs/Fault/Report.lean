import DownloadNames.Proofs.Fault.Suggestions
import DownloadNames.Proofs.Text.Pieces

/-
The suggestions that a report shows.

A report is that of the same fault without suggestions, followed by a listing of the first three
(`report_eq`).  The most urgent suggestions of a list (`MostUrgent`) are in order, as many as may be
shown, and none that is left out is more urgent; without ties they are the only ones
(`MostUrgent.eq_take_inOrder`).  The front of a list that was put in order has them
(`mostUrgent_inOrder`), but a list is put in order only when something is added to it.  So a report
shows the most urgent suggestions unless all of them were given at once, with the fault adding none
of its own; these are shown as they were given (`report_mostUrgent_iff`).
-/

namespace DownloadNames

namespace Suggestion

variable {k : Nat} {selected list list' : List Suggestion}

/-! ## The most urgent suggestions -/

/-- The selection has the `k` most urgent suggestions of a list, or all if it has fewer: it is in
order, and nothing that is left out is more urgent than something selected. -/
structure MostUrgent (k : Nat) (selected list : List Suggestion) : Prop where
  rising : Rising selected
  length_eq : selected.length = min k list.length
  leftOut : ∃ left, (selected ++ left).Perm list
    ∧ ∀ s ∈ selected, ∀ t ∈ left, s.priority ≤ t.priority

/-- The first `k` suggestions of a list are in order, and none behind them is more urgent. -/
def FrontInOrder (k : Nat) (list : List Suggestion) : Prop :=
  Rising (list.take k) ∧ ∀ s ∈ list.take k, ∀ t ∈ list.drop k, s.priority ≤ t.priority

instance (k : Nat) (list : List Suggestion) : Decidable (FrontInOrder k list) :=
  inferInstanceAs (Decidable (_ ∧ _))

theorem Rising.frontInOrder (h : Rising list) (k : Nat) : FrontInOrder k list := by
  have hcut : Rising (list.take k ++ list.drop k) := by rwa [List.take_append_drop]
  obtain ⟨hfront, -, hcross⟩ := List.pairwise_append.1 hcut
  exact ⟨hfront, hcross⟩

/-- The suggestions in front are the most urgent ones exactly if they are in order and none behind
them is more urgent. -/
theorem mostUrgent_take_iff : MostUrgent k (list.take k) list ↔ FrontInOrder k list := by
  constructor
  · intro h
    obtain ⟨left, hperm, hcross⟩ := h.leftOut
    -- what is left out is what stands behind
    have hbehind : left.Perm (list.drop k) := by
      rw [← List.perm_append_left_iff (list.take k), List.take_append_drop]
      exact hperm
    exact ⟨h.rising, fun s hs t ht => hcross s hs t (hbehind.mem_iff.2 ht)⟩
  · rintro ⟨hrising, hcross⟩
    refine ⟨hrising, List.length_take, list.drop k, ?_, hcross⟩
    rw [List.take_append_drop]

/-- The order of a list does not count. -/
theorem MostUrgent.of_perm (h : MostUrgent k selected list) (hperm : list.Perm list') :
    MostUrgent k selected list' where
  rising := h.rising
  length_eq := by rw [h.length_eq, hperm.length_eq]
  leftOut := by
    obtain ⟨left, hleft, hcross⟩ := h.leftOut
    exact ⟨left, hleft.trans hperm, hcross⟩

/-- The most urgent suggestions are in front once the list has been put in order. -/
theorem mostUrgent_inOrder (k : Nat) (list : List Suggestion) :
    MostUrgent k ((inOrder list).take k) list := by
  have hfront := (inOrderOf_inOrder list).rising.frontInOrder k
  exact (mostUrgent_take_iff.2 hfront).of_perm (perm_inOrder list)

/-- Without ties these are the only ones. -/
theorem MostUrgent.eq_take_inOrder (h : MostUrgent k selected list)
    (hties : ∀ s ∈ list, ∀ t ∈ list, s.priority = t.priority → s = t) :
    selected = (inOrder list).take k := by
  obtain ⟨left, hleft, hcross⟩ := h.leftOut
  -- the selection, continued by what is left out in order, is the whole list in order
  have hperm : (selected ++ inOrder left).Perm (inOrder list) :=
    ((perm_inOrder left).append_left selected).trans (hleft.trans (perm_inOrder list).symm)
  have hrising : Rising (selected ++ inOrder left) :=
    List.pairwise_append.2 ⟨h.rising, (inOrderOf_inOrder left).rising,
      fun s hs t ht => hcross s hs t ((perm_inOrder left).mem_iff.1 ht)⟩
  have hwhole : selected ++ inOrder left = inOrder list := by
    refine List.Perm.eq_of_pairwise ?_ hrising (inOrderOf_inOrder list).rising hperm
    intro s t hs ht hst hts
    have hslist : s ∈ list := (perm_inOrder list).mem_iff.1 (hperm.mem_iff.1 hs)
    have htlist : t ∈ list := (perm_inOrder list).mem_iff.1 ht
    exact hties s hslist t htlist (Int.le_antisymm hst hts)
  have hlength : (selected ++ inOrder left).length = list.length :=
    hperm.length_eq.trans (perm_inOrder list).length_eq
  rw [List.length_append] at hlength
  have hcount := h.length_eq
  have hfront : selected.take k = selected := List.take_of_length_le (by omega)
  -- fewer than `k` are selected only if none is left out
  have hnoMore : (inOrder left).take (k - selected.length) = [] := by
    rw [List.take_eq_nil_iff, ← List.length_eq_zero_iff]
    omega
  rw [← hwhole, List.take_append, hfront, hnoMore, List.append_nil]

/-- What a report says of the suggestions that it shows. -/
def listing : List Suggestion → Text
  | [] => []
  | selected => ("\nSuggested solutions:".toList :: numbered 1 selected).flatMap (['\n'] ++ ·)

end Suggestion

namespace Fault

variable (f : Fault)

/-! ## Reports -/

/-- The fault without its suggestions. -/
def withoutSuggestions : Fault := { f with suggestions := [] }

theorem withoutSuggestions_foldl_suggest (added : List Suggestion) :
    (added.foldl suggest f).withoutSuggestions = f.withoutSuggestions := by
  induction added generalizing f with
  | nil => rfl
  | cons s rest ih => exact ih (f.suggest s)

/-- A report lists the first three suggestions and says nothing else about them. -/
theorem report_eq (ctx : Context) :
    f.report ctx
      = f.withoutSuggestions.report ctx ++ Suggestion.listing (f.suggestions.take 3) := by
  have hlines (first : Text) (codes ids rest : List Text) :
      Text.joinWith ['\n'] ([first] ++ codes ++ ids ++ rest)
        = Text.joinWith ['\n'] ([first] ++ codes ++ ids ++ []) ++ rest.flatMap (['\n'] ++ ·) := by
    rw [List.append_nil]
    exact Text.joinWith_append (by simp) rest
  rw [report, hlines]
  cases f.suggestions with
  | nil => rfl
  | cons s rest => rfl

/-- A fault has its given suggestions as they are if it has no other ones, and otherwise all of them
in order. -/
theorem suggestions_ofDraft_foldl_suggest (draft : Draft) (added : List Suggestion) :
    let own := (standardSuggestion? draft.kind draft.finalCode).toList
    (added.foldl suggest (ofDraft draft)).suggestions
      = if own ++ added = [] then draft.suggestions
        else Suggestion.inOrder (draft.suggestions ++ own ++ added) := by
  intro own
  have hfold : (added.foldl suggest (ofDraft draft)).suggestions
      = (own ++ added).foldl Suggestion.add draft.suggestions := by
    rw [List.foldl_append, ← initialSuggestions_eq]
    exact suggestions_foldl_suggest (ofDraft draft) added
  rw [hfold]
  split
  · next hnone =>
    rw [hnone, List.foldl_nil]
  · next hsome =>
    rw [Suggestion.foldl_add _ hsome, List.append_assoc]

/-- The report of a fault of any kind lists three of its suggestions, or all if it has fewer: as
they were given, or in order if it has one that was not given with the others.  They are the most
urgent ones exactly in the latter case, or if the most urgent ones were given first and in order. -/
theorem report_mostUrgent_iff (freshId : Text) (draft : Draft) (ctx : Context)
    (hextras : draft.extras = []) (hsealed : draft.sealed = false) :
    ∃ fault, (build freshId draft ctx).2 = .ok fault
      ∧ ∀ (added : List Suggestion) (now : Context),
          let own := (standardSuggestion? draft.kind draft.finalCode).toList
          let arrived := draft.suggestions ++ own ++ added
          let shown := (if own ++ added = [] then draft.suggestions
            else Suggestion.inOrder arrived).take 3
          (added.foldl suggest fault).report now
              = fault.withoutSuggestions.report now ++ Suggestion.listing shown
            ∧ shown.length = min 3 arrived.length
            ∧ (Suggestion.MostUrgent 3 shown arrived
              ↔ own ++ added ≠ [] ∨ Suggestion.FrontInOrder 3 draft.suggestions) := by
  refine ⟨ofDraft draft, build_eq_ok hextras hsealed, ?_⟩
  intro added now own arrived shown
  have hreport : (added.foldl suggest (ofDraft draft)).report now
      = (ofDraft draft).withoutSuggestions.report now ++ Suggestion.listing shown := by
    rw [report_eq, withoutSuggestions_foldl_suggest, suggestions_ofDraft_foldl_suggest]
  by_cases hnone : own ++ added = []
  · have harrived : arrived = draft.suggestions := by
      rw [← List.append_nil draft.suggestions, ← hnone, ← List.append_assoc]
    have hshown : shown = draft.suggestions.take 3 := congrArg (List.take 3) (if_pos hnone)
    rw [harrived, hshown, Suggestion.mostUrgent_take_iff]
    exact ⟨hshown ▸ hreport, List.length_take, (or_iff_right (not_not_intro hnone)).symm⟩
  · have hshown : shown = (Suggestion.inOrder arrived).take 3 :=
      congrArg (List.take 3) (if_neg hnone)
    have hurgent : Suggestion.MostUrgent 3 shown arrived :=
      hshown ▸ Suggestion.mostUrgent_inOrder 3 arrived
    exact ⟨hreport, hurgent.length_eq, iff_of_true hurgent (.inl hnone)⟩

/-- With the least urgent of four suggestions given first, the most urgent one is left out until a
fifth one is added. -/
theorem report_mostUrgent_iff_least_first :
    let suggestion (action : Char) (priority : Int) : Suggestion :=
      { action := [action], description := [], priority }
    let given := [suggestion 'd' 4, suggestion 'c' 3, suggestion 'b' 2, suggestion 'a' 1]
    let listedFirst := [suggestion 'd' 4, suggestion 'c' 3, suggestion 'b' 2]
    let listedThen := [suggestion 'a' 1, suggestion 'b' 2, suggestion 'e' 2]
    let draft : Draft := { subject := .general (.text ['m']), suggestions := given }
    ∃ fault, (build ['0'] draft {}).2 = .ok fault
      ∧ fault.report {} = fault.withoutSuggestions.report {} ++ Suggestion.listing listedFirst
      ∧ ¬ Suggestion.MostUrgent 3 listedFirst given
      ∧ (fault.suggest (suggestion 'e' 2)).report {}
        = fault.withoutSuggestions.report {} ++ Suggestion.listing listedThen
      ∧ Suggestion.MostUrgent 3 listedThen (given ++ [suggestion 'e' 2]) := by
  intro suggestion given listedFirst listedThen draft
  obtain ⟨fault, hbuilt, hlisted⟩ := report_mostUrgent_iff ['0'] draft {} rfl rfl
  obtain ⟨hfirst, -, hgiven⟩ := hlisted [] {}
  obtain ⟨hthen, -, hadded⟩ := hlisted [suggestion 'e' 2] {}
  have horder : (Suggestion.inOrder (given ++ [suggestion 'e' 2])).take 3 = listedThen := by
    have hall : Suggestion.inOrder (given ++ [suggestion 'e' 2])
        = listedThen ++ [suggestion 'c' 3, suggestion 'd' 4] :=
      Suggestion.inOrder_eq_iff.2 (by decide)
    rw [hall]
    rfl
  refine ⟨fault, hbuilt, hfirst, fun h => absurd (hgiven.1 h) (by decide), ?_, ?_⟩
  · rw [← horder]
    exact hthen
  · rw [← horder]
    exact hadded.2 (.inl (List.cons_ne_nil _ _))

/-- No list of the most urgent suggestions can be read out of every report: with the least urgent of
four given first, the report begins with it. -/
theorem not_all_report_mostUrgent :
    ¬ ∀ (freshId : Text) (draft : Draft) (ctx now : Context) (fault : Fault)
        (added : List Suggestion),
      draft.extras = [] → draft.sealed = false → (build freshId draft ctx).2 = .ok fault →
      ∃ shown, (added.foldl suggest fault).report now
          = fault.withoutSuggestions.report now ++ Suggestion.listing shown
        ∧ Suggestion.MostUrgent 3 shown (draft.suggestions
          ++ (standardSuggestion? draft.kind draft.finalCode).toList ++ added) := by
  intro hall
  let suggestion (action : Char) (priority : Int) : Suggestion :=
    { action := [action], description := [], priority }
  let given := [suggestion 'd' 4, suggestion 'c' 3, suggestion 'b' 2, suggestion 'a' 1]
  let draft : Draft := { subject := .general (.text ['m']), suggestions := given }
  obtain ⟨shown, hreport, hurgent⟩ := hall ['0'] draft {} {} (ofDraft draft) [] rfl rfl rfl
  -- there are no ties, so the report would have to list the first three in order
  have horder : Suggestion.inOrder given
      = [suggestion 'a' 1, suggestion 'b' 2, suggestion 'c' 3, suggestion 'd' 4] :=
    Suggestion.inOrder_eq_iff.2 (by decide)
  have hshown : shown = (Suggestion.inOrder given).take 3 :=
    hurgent.eq_take_inOrder (by decide)
  rw [hshown, horder] at hreport
  revert hreport
  decide

end Fault
end DownloadNames
