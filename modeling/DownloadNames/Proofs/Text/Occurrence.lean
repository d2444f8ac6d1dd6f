import DownloadNames.Proofs.Text.Pieces

/-
Occurrences of a text, and the pieces of another text between them.

A search from the left passes over the characters at which the text does not begin, comes to its
first occurrence and goes on behind it; `occurrence_induction` is the induction along such a search.
Occurrences of a text may overlap, as those of `aa` in `aaa` do.  Those of an unbordered text do
not, so that any occurrence is the first one or stands behind it (`Unbordered.eq_or_behind`).
-/

namespace DownloadNames.Text

/-! ## Searching from the left -/

section Search

variable {part u v w s : Text} {c : Char}

/-- No occurrence of `part` in `u ++ w` begins within `u`. -/
def BeginsOutside (part u w : Text) : Prop := ∀ q, q <:+ u → q ≠ [] → ¬ part <+: q ++ w

theorem beginsOutside_nil (part w : Text) : BeginsOutside part [] w := by
  intro q hq hne
  exact absurd (List.suffix_nil.1 hq) hne

theorem beginsOutside_cons_iff :
    BeginsOutside part (c :: u) w ↔ ¬ part <+: c :: (u ++ w) ∧ BeginsOutside part u w := by
  constructor
  · intro h
    refine ⟨h (c :: u) (List.suffix_refl _) (List.cons_ne_nil c u), ?_⟩
    exact fun q hq => h q (hq.trans (List.suffix_cons c u))
  · rintro ⟨hfront, hrest⟩ q hq hne
    rcases List.suffix_cons_iff.1 hq with rfl | hq
    · exact hfront
    · exact hrest q hq hne

theorem beginsOutside_nil_right (h : ¬ part <:+: u) : BeginsOutside part u [] := by
  intro q hq _ hbegin
  rw [List.append_nil] at hbegin
  exact h (hbegin.isInfix.trans hq.isInfix)

/-- Whether an occurrence begins before the first one is seen without what stands behind it. -/
theorem BeginsOutside.append (h : BeginsOutside part u part) (v : Text) :
    BeginsOutside part u (part ++ v) := by
  intro q hq hne hbegin
  rw [← List.append_assoc] at hbegin
  have hlength : part.length ≤ (q ++ part).length := by simp
  exact h q hq hne
    (List.prefix_of_prefix_length_le hbegin (List.prefix_append (q ++ part) v) hlength)

/-- In front of its first occurrence, a text does not hold `part`. -/
theorem BeginsOutside.not_isInfix (hpart : part ≠ []) (h : BeginsOutside part u part) :
    ¬ part <:+: u := by
  rintro ⟨before, after, rfl⟩
  rw [List.append_assoc] at h
  apply h (part ++ after) (List.suffix_append before _)
  · exact List.append_ne_nil_of_left_ne_nil hpart after
  · rw [List.append_assoc]
    exact List.prefix_append part _

/-- A text does not hold `part`, or it has a first occurrence of `part`. -/
theorem not_isInfix_or_first (hpart : part ≠ []) (s : Text) :
    ¬ part <:+: s ∨ ∃ u v, s = u ++ (part ++ v) ∧ BeginsOutside part u part := by
  induction s with
  | nil => exact Or.inl fun h => hpart (List.eq_nil_of_infix_nil h)
  | cons c cs ih =>
    by_cases hfront : part <+: c :: cs
    · obtain ⟨v, hv⟩ := hfront
      exact Or.inr ⟨[], v, hv.symm, beginsOutside_nil part part⟩
    · rcases ih with hnone | ⟨u, v, rfl, hu⟩
      · left
        intro h
        rcases List.infix_cons_iff.1 h with h | h
        · exact hfront h
        · exact hnone h
      · right
        refine ⟨c :: u, v, rfl, beginsOutside_cons_iff.2 ⟨fun h => hfront ?_, hu⟩⟩
        have hmore : c :: (u ++ part) <+: c :: (u ++ (part ++ v)) := ⟨v, by simp⟩
        exact h.trans hmore

/-- Induction along the occurrences of `part` that a search from the left finds. -/
@[elab_as_elim]
theorem occurrence_induction {part : Text} (hpart : part ≠ []) {motive : Text → Prop}
    (last : ∀ u, ¬ part <:+: u → motive u)
    (first : ∀ u v, BeginsOutside part u part → motive v → motive (u ++ (part ++ v)))
    (s : Text) : motive s := by
  rcases not_isInfix_or_first hpart s with hnone | ⟨u, v, rfl, hu⟩
  · exact last s hnone
  · have hshort : v.length < (u ++ (part ++ v)).length := by
      have hpos : 0 < part.length := List.length_pos_iff.2 hpart
      rw [List.length_append, List.length_append]
      omega
    exact first u v hu (occurrence_induction hpart last first v)
termination_by s.length

end Search

/-! ## Texts that do not overlap themselves -/

section Unbordered

variable {part u v x y : Text}

/-- No prefix of the text is a suffix as well, but for the empty text and the text itself. -/
def Unbordered (part : Text) : Prop :=
  ∀ w, w <+: part → w ≠ [] → w ≠ part → ¬ w <:+ part

theorem unbordered_iff_take :
    Unbordered part ↔ ∀ n < part.length, 0 < n → ¬ part.take n <:+ part := by
  constructor
  · intro h n hn hpos
    have hlength : (part.take n).length = n := by
      rw [List.length_take]
      omega
    apply h (part.take n) (List.take_prefix n part)
    · exact List.ne_nil_of_length_pos (by rwa [hlength])
    · intro hwhole
      rw [hwhole] at hlength
      omega
  · intro h w hw hne hproper
    have htake : part.take w.length = w := (List.prefix_iff_eq_take.1 hw).symm
    have hshort : w.length < part.length :=
      Nat.lt_of_le_of_ne hw.length_le fun hlength => hproper (hw.eq_of_length hlength)
    have hsuffix := h w.length hshort (List.length_pos_iff.2 hne)
    rwa [htake] at hsuffix

instance (part : Text) : Decidable (Unbordered part) :=
  decidable_of_iff _ unbordered_iff_take.symm

theorem unbordered_singleton (c : Char) : Unbordered [c] := by
  intro w hw hne hproper
  rcases List.prefix_cons_iff.1 hw with hnil | ⟨t, rfl, ht⟩
  · exact absurd hnil hne
  · rw [List.prefix_nil.1 ht] at hproper
    exact absurd rfl hproper

/-- In a text without `part`, no occurrence begins that ends in a following `part`. -/
theorem Unbordered.beginsOutside (h : Unbordered part) (hu : ¬ part <:+: u) :
    BeginsOutside part u part := by
  intro q hq hne hoccurs
  rcases List.prefix_or_prefix_of_prefix hoccurs (List.prefix_append q part) with hin | ⟨r, hr⟩
  · exact hu (hin.isInfix.trans hq.isInfix)
  · -- the occurrence ends with the beginning `r` of `part`
    have hsuffix : r <:+ part := ⟨q, hr⟩
    have hbegin : r <+: part := by
      rw [← hr] at hoccurs ⊢
      exact (List.prefix_append_right_inj q).1 hoccurs
    have hsome : r ≠ [] := by
      rintro rfl
      rw [List.append_nil] at hr
      exact hu (hr ▸ hq.isInfix)
    have hproper : r ≠ part := by
      rintro rfl
      exact hne (List.self_eq_append_left.1 hr.symm)
    exact h r hbegin hsome hproper hsuffix

/-- An occurrence in a text is the first one or stands behind it. -/
theorem Unbordered.eq_or_behind (h : Unbordered part) (hu : ¬ part <:+: u)
    (heq : x ++ (part ++ y) = u ++ (part ++ v)) :
    (x = u ∧ y = v) ∨ ∃ z, x = u ++ (part ++ z) ∧ v = z ++ (part ++ y) := by
  rcases List.append_eq_append_iff.1 heq with ⟨a, rfl, ha⟩ | ⟨a, rfl, ha⟩
  · by_cases hne : a = []
    · subst hne
      rw [List.nil_append, List.append_cancel_left_eq] at ha
      exact Or.inl ⟨(List.append_nil x).symm, ha⟩
    · -- it would begin before the first one
      have hbegin : part <+: a ++ (part ++ v) := ⟨y, ha⟩
      exact absurd hbegin ((h.beginsOutside hu).append v a (List.suffix_append x a) hne)
  · rcases List.append_eq_append_iff.1 ha with ⟨b, rfl, hb⟩ | ⟨b, hb, hrest⟩
    · exact Or.inr ⟨b, rfl, hb⟩
    · by_cases hnone : b = []
      · subst hnone
        rw [List.append_nil] at hb
        rw [List.nil_append] at hrest
        exact Or.inr ⟨[], by rw [hb, List.append_nil], hrest.symm⟩
      · -- it would begin within the first one, whose end `b` it begins with
        have hsuffix : b <:+ part := ⟨a, hb.symm⟩
        have hbegin : b <+: part :=
          List.prefix_of_prefix_length_le ⟨v, hrest.symm⟩ (List.prefix_append part y)
            hsuffix.length_le
        by_cases hwhole : b = part
        · subst hwhole
          obtain rfl : a = [] := List.self_eq_append_left.1 hb
          rw [List.nil_append, List.append_cancel_left_eq] at ha
          exact Or.inl ⟨List.append_nil u, ha.symm⟩
        · exact absurd hsuffix (h b hbegin hnone hwhole)

/-- The text ends with `part` behind its first occurrence, unless that stands at the end. -/
theorem Unbordered.suffix_append_iff (h : Unbordered part) (hu : ¬ part <:+: u) (v : Text) :
    part <:+ u ++ (part ++ v) ↔ v = [] ∨ part <:+ v := by
  constructor
  · rintro ⟨x, hx⟩
    have heq : x ++ (part ++ []) = u ++ (part ++ v) := by rw [List.append_nil, hx]
    rcases h.eq_or_behind hu heq with ⟨-, hnil⟩ | ⟨z, -, hz⟩
    · exact Or.inl hnil.symm
    · rw [List.append_nil] at hz
      exact Or.inr ⟨z, hz.symm⟩
  · rintro (rfl | hv)
    · rw [List.append_nil]
      exact List.suffix_append u part
    · exact hv.trans ((List.suffix_append part v).trans (List.suffix_append u _))

end Unbordered

/-! ## Pieces between occurrences -/

/-- The pieces between the occurrences of `part`, empty pieces included.  `skip` counts the
characters of the current occurrence still to be passed over. -/
def splitFrom (part : Text) : (skip : Nat) → Text → List Text
  | _, [] => [[]]
  | skip + 1, _ :: cs => splitFrom part skip cs
  | 0, c :: cs =>
    if beginsWith part (c :: cs) then [] :: splitFrom part (part.length - 1) cs
    else consFirst c (splitFrom part 0 cs)

/-- The pieces between the occurrences of `part`, from the left and without overlap. -/
def splitOn (part s : Text) : List Text := splitFrom part 0 s

section SplitOn

variable {part u v w s : Text}

theorem splitFrom_eq_drop (part : Text) (skip : Nat) (s : Text) :
    splitFrom part skip s = splitOn part (s.drop skip) := by
  induction s generalizing skip with
  | nil => cases skip <;> rfl
  | cons c cs ih =>
    cases skip with
    | zero => rfl
    | succ skip => exact ih skip

/-- Splitting passes over characters at which no occurrence begins. -/
theorem splitOn_append_of_beginsOutside (hu : BeginsOutside part u w) {first : Text}
    {others : List Text} (hw : splitOn part w = first :: others) :
    splitOn part (u ++ w) = (u ++ first) :: others := by
  induction u with
  | nil => exact hw
  | cons c cs ih =>
    obtain ⟨hfront, hrest⟩ := beginsOutside_cons_iff.1 hu
    have hbegin : ¬ beginsWith part (c :: (cs ++ w)) = true := fun h => hfront (beginsWith_iff.1 h)
    have hsplit : splitFrom part 0 (cs ++ w) = (cs ++ first) :: others := ih hrest
    rw [List.cons_append, splitOn, splitFrom, if_neg hbegin, hsplit]
    rfl

theorem splitOn_part_append (hpart : part ≠ []) (v : Text) :
    splitOn part (part ++ v) = [] :: splitOn part v := by
  have hbegin : beginsWith part (part ++ v) = true := beginsWith_iff.2 (List.prefix_append part v)
  obtain ⟨c, cs, hcons⟩ := List.exists_cons_of_ne_nil hpart
  have hlength : part.length - 1 = cs.length := by rw [hcons]; rfl
  have hrest : splitFrom part (part.length - 1) (cs ++ v) = splitOn part v := by
    rw [splitFrom_eq_drop, hlength, List.drop_left]
  have htext : part ++ v = c :: (cs ++ v) := by rw [hcons]; rfl
  rw [htext] at hbegin ⊢
  rw [splitOn, splitFrom, if_pos hbegin, hrest]

theorem splitOn_eq_singleton (h : ¬ part <:+: s) : splitOn part s = [s] := by
  have hsplit := splitOn_append_of_beginsOutside (beginsOutside_nil_right h)
    (rfl : splitOn part [] = [[]])
  rwa [List.append_nil] at hsplit

theorem splitOn_first (hpart : part ≠ []) (hu : BeginsOutside part u part) (v : Text) :
    splitOn part (u ++ (part ++ v)) = u :: splitOn part v := by
  have hsplit := splitOn_append_of_beginsOutside (hu.append v) (splitOn_part_append hpart v)
  rwa [List.append_nil] at hsplit

/-- An unbordered text between two texts has no part in the pieces of either. -/
theorem Unbordered.splitOn_append (h : Unbordered part) (hpart : part ≠ []) (u v : Text) :
    splitOn part (u ++ (part ++ v)) = splitOn part u ++ splitOn part v := by
  induction u using occurrence_induction hpart with
  | last u hu =>
    rw [splitOn_first hpart (h.beginsOutside hu), splitOn_eq_singleton hu, List.singleton_append]
  | first x y hx ih =>
    rw [List.append_assoc, List.append_assoc, splitOn_first hpart hx, ih, splitOn_first hpart hx,
      List.cons_append]

end SplitOn

end DownloadNames.Text
