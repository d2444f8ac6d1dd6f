import DownloadNames.Fault.Basic

/-
The suggestions of a fault, however they were added.

A list is in stable order of another (`InOrderOf`) if its priorities do not fall and the suggestions
of each priority are those of the other list in the same order.  There is one such list only
(`InOrderOf.unique`), and putting a list in order gives it.  So it does not matter that a list is put
in order whenever a suggestion is added (`inOrder_append`): the suggestions of a fault are those that
it was given, its own and the added ones, put in order once.
-/

namespace DownloadNames

namespace Suggestion

variable {sorted sorted' list : List Suggestion}

/-! ## Stable order -/

/-- The suggestions of one priority, in their order. -/
def ofPriority (p : Int) (list : List Suggestion) : List Suggestion :=
  list.filter fun s => s.priority = p

@[simp] theorem ofPriority_append (p : Int) (a b : List Suggestion) :
    ofPriority p (a ++ b) = ofPriority p a ++ ofPriority p b := List.filter_append ..

theorem ofPriority_cons (p : Int) (s : Suggestion) (list : List Suggestion) :
    ofPriority p (s :: list)
      = if s.priority = p then s :: ofPriority p list else ofPriority p list := by
  rw [ofPriority, List.filter_cons]
  simp only [decide_eq_true_eq]
  rfl

/-- Lists with the same suggestions of each priority have the same suggestions. -/
theorem mem_iff_of_ofPriority_eq (h : ∀ p, ofPriority p sorted = ofPriority p sorted')
    {s : Suggestion} : s ∈ sorted ↔ s ∈ sorted' := by
  have hs : s ∈ ofPriority s.priority sorted ↔ s ∈ ofPriority s.priority sorted' := by
    rw [h s.priority]
  simpa [ofPriority] using hs

/-- The priorities do not fall from one suggestion to a later one. -/
def Rising (list : List Suggestion) : Prop := list.Pairwise fun a b => a.priority ≤ b.priority

theorem Rising.head_le {a s : Suggestion} (h : Rising (a :: list)) (hs : s ∈ a :: list) :
    a.priority ≤ s.priority := by
  rcases List.mem_cons.1 hs with rfl | hs
  · exact Int.le_refl _
  · exact List.rel_of_pairwise_cons h hs

/-- Rising lists with the same suggestions of each priority are equal. -/
theorem Rising.eq_of_ofPriority_eq (hsorted : Rising sorted) (hsorted' : Rising sorted')
    (h : ∀ p, ofPriority p sorted = ofPriority p sorted') : sorted = sorted' := by
  induction sorted generalizing sorted' with
  | nil =>
    cases sorted' with
    | nil => rfl
    | cons b bs => exact absurd ((mem_iff_of_ofPriority_eq h).2 List.mem_cons_self) (by simp)
  | cons a as ih =>
    cases sorted' with
    | nil => exact absurd ((mem_iff_of_ofPriority_eq h).1 List.mem_cons_self) (by simp)
    | cons b bs =>
      -- each head is in the other list and comes no later than what is there
      have hab : a.priority ≤ b.priority :=
        hsorted.head_le ((mem_iff_of_ofPriority_eq h).2 List.mem_cons_self)
      have hba : b.priority ≤ a.priority :=
        hsorted'.head_le ((mem_iff_of_ofPriority_eq h).1 List.mem_cons_self)
      have heq : b.priority = a.priority := Int.le_antisymm hba hab
      have hheads := h a.priority
      rw [ofPriority_cons, ofPriority_cons, if_pos rfl, if_pos heq] at hheads
      obtain ⟨rfl, -⟩ := List.cons.inj hheads
      rw [ih hsorted.of_cons hsorted'.of_cons fun p => ?_]
      have hp := h p
      rw [ofPriority_cons, ofPriority_cons] at hp
      split at hp
      · exact (List.cons.inj hp).2
      · exact hp

/-- The first list is the second in order of priority, and equal priorities keep their order. -/
structure InOrderOf (sorted list : List Suggestion) : Prop where
  rising : Rising sorted
  stable : ∀ p, ofPriority p sorted = ofPriority p list

instance (list : List Suggestion) : Decidable (Rising list) :=
  inferInstanceAs (Decidable (List.Pairwise _ list))

/-- Only the priorities that occur need to be looked at. -/
theorem inOrderOf_iff :
    InOrderOf sorted list ↔
      Rising sorted ∧ ∀ s ∈ sorted ++ list,
        ofPriority s.priority sorted = ofPriority s.priority list := by
  refine ⟨fun h => ⟨h.rising, fun s _ => h.stable s.priority⟩, fun ⟨hrising, h⟩ => ⟨hrising, ?_⟩⟩
  intro p
  by_cases hp : ∃ s ∈ sorted ++ list, s.priority = p
  · obtain ⟨s, hs, rfl⟩ := hp
    exact h s hs
  · have hnone : ∀ s ∈ sorted ++ list, ¬ s.priority = p := fun s hs heq => hp ⟨s, hs, heq⟩
    obtain ⟨hsorted, hlist⟩ := List.forall_mem_append.1 hnone
    have hnil : ∀ l : List Suggestion, (∀ s ∈ l, ¬ s.priority = p) → ofPriority p l = [] := by
      intro l hl
      rw [ofPriority, List.filter_eq_nil_iff]
      simpa using hl
    rw [hnil sorted hsorted, hnil list hlist]

instance (sorted list : List Suggestion) : Decidable (InOrderOf sorted list) :=
  decidable_of_iff _ inOrderOf_iff.symm

/-- A list has only one stable order. -/
theorem InOrderOf.unique (h : InOrderOf sorted list) (h' : InOrderOf sorted' list) :
    sorted = sorted' :=
  h.rising.eq_of_ofPriority_eq h'.rising fun p => (h.stable p).trans (h'.stable p).symm

theorem noLater_trans (a b c : Suggestion) (hab : a.noLater b = true) (hbc : b.noLater c = true) :
    a.noLater c = true := by
  simp only [noLater, decide_eq_true_eq] at hab hbc ⊢
  omega

theorem noLater_total (a b : Suggestion) : (a.noLater b || b.noLater a) = true := by
  simp only [noLater, Bool.or_eq_true, decide_eq_true_eq]
  omega

theorem perm_inOrder (list : List Suggestion) : (inOrder list).Perm list :=
  List.mergeSort_perm list noLater

/-- Putting a list in order gives its stable order. -/
theorem inOrderOf_inOrder (list : List Suggestion) : InOrderOf (inOrder list) list where
  rising := by
    have h := List.pairwise_mergeSort noLater_trans noLater_total list
    exact h.imp fun hab => by simpa [noLater] using hab
  stable p := by
    -- what has one priority is in order already, so sorting leaves it in its order
    have hordered : (ofPriority p list).Pairwise fun a b => a.noLater b = true := by
      refine List.pairwise_of_forall_mem_list fun a ha b hb => ?_
      obtain ⟨-, rfl⟩ : a ∈ list ∧ a.priority = p := by simpa [ofPriority] using ha
      obtain ⟨-, hb⟩ : b ∈ list ∧ b.priority = a.priority := by simpa [ofPriority] using hb
      simp [noLater, hb]
    have hsub : (ofPriority p list).Sublist (inOrder list) :=
      List.sublist_mergeSort noLater_trans noLater_total hordered List.filter_sublist
    have hin : (ofPriority p list).Sublist (ofPriority p (inOrder list)) := by
      have hfilter := hsub.filter fun s => s.priority = p
      simpa [ofPriority] using hfilter
    refine (hin.eq_of_length ?_).symm
    exact ((perm_inOrder list).filter _).length_eq.symm

/-- Only the stable order counts. -/
theorem inOrder_eq_iff : inOrder list = sorted ↔ InOrderOf sorted list :=
  ⟨fun h => h ▸ inOrderOf_inOrder list, (inOrderOf_inOrder list).unique⟩

/-- What comes first may be put in order before the rest comes. -/
theorem inOrder_append (earlier later : List Suggestion) :
    inOrder (inOrder earlier ++ later) = inOrder (earlier ++ later) := by
  rw [inOrder_eq_iff]
  have hall := inOrderOf_inOrder (earlier ++ later)
  refine ⟨hall.rising, fun p => ?_⟩
  rw [hall.stable p, ofPriority_append, ofPriority_append, (inOrderOf_inOrder earlier).stable p]

/-- Adding suggestions to a list that is in order puts all of them in order. -/
theorem foldl_add_inOrder (earlier added : List Suggestion) :
    added.foldl add (inOrder earlier) = inOrder (earlier ++ added) := by
  induction added generalizing earlier with
  | nil => rw [List.foldl_nil, List.append_nil]
  | cons s rest ih =>
    rw [List.foldl_cons, add, inOrder_append, ih, List.append_assoc, List.singleton_append]

/-- A list to which something is added ends up in order, whether it was in order or not. -/
theorem foldl_add (earlier : List Suggestion) {added : List Suggestion} (h : added ≠ []) :
    added.foldl add earlier = inOrder (earlier ++ added) := by
  obtain ⟨s, rest, rfl⟩ := List.exists_cons_of_ne_nil h
  rw [List.foldl_cons, add, foldl_add_inOrder, List.append_assoc, List.singleton_append]

end Suggestion

namespace Fault

variable {freshId : Text} {draft : Draft} {ctx : Context}

/-- A draft without unknown details is built, unless its suggestions take no further one. -/
theorem build_eq_ok (hextras : draft.extras = []) (hsealed : draft.sealed = false) :
    (build freshId draft ctx).2 = .ok (ofDraft draft) := by
  have hrefused : draft.refusedAtOnce = false := by
    rw [Draft.refusedAtOnce, hextras]
    split <;> rfl
  rw [build, hrefused, hsealed, if_pos hextras]
  rfl

/-- The suggestions that a fault starts with are the given ones and its own, in order if it has one
of its own. -/
theorem initialSuggestions_eq (kind : Kind) (code : FaultCode) (given : List Suggestion) :
    initialSuggestions kind code given
      = (standardSuggestion? kind code).toList.foldl Suggestion.add given := by
  rw [initialSuggestions]
  cases standardSuggestion? kind code <;> rfl

theorem suggestions_foldl_suggest (f : Fault) (added : List Suggestion) :
    (added.foldl suggest f).suggestions = added.foldl Suggestion.add f.suggestions := by
  induction added generalizing f with
  | nil => rfl
  | cons s rest ih => rw [List.foldl_cons, List.foldl_cons, ih, suggest]

/-- A fault of any kind has the suggestions it was given, the one that belongs to its code and those
that were added since, in order of priority and otherwise of arrival, as soon as it has one that was
not given with the others. -/
theorem suggestions_in_order (freshId : Text) (draft : Draft) (ctx : Context)
    (hextras : draft.extras = []) (hsealed : draft.sealed = false) :
    ∃ fault, (build freshId draft ctx).2 = .ok fault
      ∧ ∀ added : List Suggestion,
          let own := (standardSuggestion? draft.kind draft.finalCode).toList
          let arrived := draft.suggestions ++ own ++ added
          let shown := (added.foldl suggest fault).suggestions
          added ≠ [] ∨ own ≠ [] →
            shown = Suggestion.inOrder arrived ∧ shown.Perm arrived
              ∧ Suggestion.InOrderOf shown arrived := by
  refine ⟨ofDraft draft, build_eq_ok hextras hsealed, ?_⟩
  intro added own arrived shown h
  have hshown : shown = (own ++ added).foldl Suggestion.add draft.suggestions := by
    rw [List.foldl_append, ← initialSuggestions_eq]
    exact suggestions_foldl_suggest (ofDraft draft) added
  have hne : own ++ added ≠ [] := by
    intro hnil
    obtain ⟨hown, hadded⟩ := List.append_eq_nil_iff.1 hnil
    exact h.elim (fun hne => hne hadded) (fun hne => hne hown)
  rw [Suggestion.foldl_add _ hne, ← List.append_assoc] at hshown
  rw [hshown]
  exact ⟨rfl, Suggestion.perm_inOrder arrived, Suggestion.inOrderOf_inOrder arrived⟩

/-- A failed connection, with given and added suggestions of three priorities. -/
theorem suggestions_in_order_connection :
    let suggestion (action : Char) (priority : Int) : Suggestion :=
      { action := [action], description := [], priority }
    let own : Suggestion :=
      { action := "Check internet connection".toList
        description := "Verify the URL is reachable and try again.".toList }
    let draft : Draft :=
      { subject := .network (.text ['m']) .null .null
        suggestions := [suggestion 'a' 2, suggestion 'b' 1, suggestion 'c' (-1)] }
    ∃ fault, (build ['0'] draft {}).2 = .ok fault
      ∧ ([suggestion 'd' 2, suggestion 'e' 1].foldl suggest fault).suggestions
        = [suggestion 'c' (-1), suggestion 'b' 1, own, suggestion 'e' 1, suggestion 'a' 2,
          suggestion 'd' 2] := by
  intro suggestion own draft
  obtain ⟨fault, hbuilt, hshown⟩ := suggestions_in_order ['0'] draft {} rfl rfl
  refine ⟨fault, hbuilt, ?_⟩
  obtain ⟨horder, -⟩ := hshown [suggestion 'd' 2, suggestion 'e' 1] (.inl (List.cons_ne_nil _ _))
  rw [horder, Suggestion.inOrder_eq_iff]
  decide

end Fault
end DownloadNames
