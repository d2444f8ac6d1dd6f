import DownloadNames.Text.Pattern

/-
What the cuts of a text give, said without the loops that make them.

A piece of a split is a stretch without separators between two separators or the ends, and joining
pieces without separators is undone by splitting.  `occurs` is the infix relation of lists, and
replacing a text that does not occur changes nothing.
-/

namespace DownloadNames.Text

/-! ## Characters that a text lacks -/

/-- No character of the text satisfies `p`. -/
def Lacks (p : Char → Bool) (s : Text) : Prop := ∀ c ∈ s, p c = false

-- along the list: characters are too many to go through
instance (p : Char → Bool) (s : Text) : Decidable (Lacks p s) :=
  List.decidableBAll (fun c => p c = false) s

section Lacks

variable {p : Char → Bool} {c : Char} {s t : Text}

theorem lacks_nil : Lacks p [] := fun _ hc => nomatch hc

theorem lacks_cons_iff : Lacks p (c :: s) ↔ p c = false ∧ Lacks p s :=
  List.forall_mem_cons

theorem lacks_append_iff : Lacks p (s ++ t) ↔ Lacks p s ∧ Lacks p t :=
  List.forall_mem_append

theorem not_lacks_iff : ¬ Lacks p s ↔ ∃ c, p c = true ∧ c ∈ s := by
  simp [Lacks, and_comm]

theorem lacks_beq_iff : Lacks (· == c) s ↔ c ∉ s := by
  constructor
  · intro h hc
    have hne := h c hc
    simp at hne
  · intro h d hd
    rw [beq_eq_false_iff_ne]
    rintro rfl
    exact h hd

/-- A text has no character that satisfies `p`, or it has a first one. -/
theorem lacks_or_first (p : Char → Bool) (s : Text) :
    Lacks p s ∨ ∃ x c y, s = x ++ c :: y ∧ p c = true ∧ Lacks p x := by
  cases hfind : s.find? p with
  | none =>
    left
    intro c hc
    simpa using List.find?_eq_none.1 hfind c hc
  | some c =>
    right
    obtain ⟨hc, x, y, hs, hx⟩ := List.find?_eq_some_iff_append.1 hfind
    exact ⟨x, c, y, hs, hc, fun d hd => by simpa using hx d hd⟩

/-- Induction along the characters of a text that satisfy `p`, from the left. -/
@[elab_as_elim]
theorem separator_induction (p : Char → Bool) {motive : Text → Prop}
    (last : ∀ x, Lacks p x → motive x)
    (first : ∀ x c y, Lacks p x → p c = true → motive x → motive y → motive (x ++ c :: y))
    (s : Text) : motive s := by
  rcases lacks_or_first p s with hs | ⟨x, c, y, rfl, hc, hx⟩
  · exact last s hs
  · have hshort : y.length < (x ++ c :: y).length := by
      rw [List.length_append, List.length_cons]
      omega
    exact first x c y hx hc (last x hx) (separator_induction p last first y)
termination_by s.length

end Lacks

/-! ## Pieces of a split -/

section Split

variable {p : Char → Bool} {c : Char} {s w : Text}

/-- `w` is a stretch of `s` without separators that stands between two separators or the ends. -/
def IsPiece (p : Char → Bool) (w s : Text) : Prop :=
  Lacks p w ∧ ∃ before after, s = before ++ w ++ after
    ∧ (∀ c ∈ before.getLast?, p c = true) ∧ (∀ c ∈ after.head?, p c = true)

theorem splitBy_eq_singleton (h : Lacks p s) : splitBy p s = [s] := by
  induction s with
  | nil => rfl
  | cons c cs ih =>
    obtain ⟨hc, hcs⟩ := lacks_cons_iff.1 h
    rw [splitBy, hc, ih hcs]
    rfl

/-- A separator cuts a text into two that are split apart. -/
theorem splitBy_append_cons (hc : p c = true) (x y : Text) :
    splitBy p (x ++ c :: y) = splitBy p x ++ splitBy p y := by
  induction x with
  | nil => simp [splitBy, hc]
  | cons d ds ih =>
    rw [List.cons_append, splitBy, splitBy, ih]
    by_cases hd : p d = true
    · simp [hd]
    · -- `d` joins the first piece of `ds`, and there is one
      obtain ⟨v, vs, hv⟩ := List.exists_cons_of_ne_nil (splitBy_ne_nil p ds)
      simp [hd, hv, consFirst]

theorem isPiece_self (h : Lacks p s) : IsPiece p s s :=
  ⟨h, [], [], by simp, by simp, by simp⟩

/-- A piece behind a separator is a piece of the whole text. -/
theorem IsPiece.append_cons (hc : p c = true) (x : Text) {y : Text} (h : IsPiece p w y) :
    IsPiece p w (x ++ c :: y) := by
  obtain ⟨hw, before, after, rfl, hbefore, hafter⟩ := h
  refine ⟨hw, x ++ c :: before, after, by simp, ?_, hafter⟩
  intro d hd
  cases before with
  | nil =>
    have : d = c := by simpa [eq_comm] using hd
    rw [this, hc]
  | cons e es => exact hbefore d (by simpa using hd)

theorem isPiece_of_mem_splitBy {s : Text} (h : w ∈ splitBy p s) : IsPiece p w s := by
  induction s using separator_induction p with
  | last x hx =>
    rw [splitBy_eq_singleton hx, List.mem_singleton] at h
    rw [h]
    exact isPiece_self hx
  | first x c y hx hc _ ih =>
    rw [splitBy_append_cons hc, splitBy_eq_singleton hx, List.singleton_append] at h
    rcases List.mem_cons.1 h with rfl | h
    · exact ⟨hx, [], c :: y, by simp, by simp, by simpa using hc⟩
    · exact (ih h).append_cons hc x

theorem IsPiece.mem_splitBy (h : IsPiece p w s) : w ∈ splitBy p s := by
  obtain ⟨hw, before, after, rfl, hbefore, hafter⟩ := h
  have hfront : w ∈ splitBy p (w ++ after) := by
    cases after with
    | nil => simp [splitBy_eq_singleton hw]
    | cons c cs =>
      rw [splitBy_append_cons (hafter c rfl), splitBy_eq_singleton hw]
      exact List.mem_cons_self
  -- a separator right before the piece cuts off all that stands in front of it
  rcases List.eq_nil_or_concat before with rfl | ⟨x, c, rfl⟩
  · exact hfront
  · have hc : p c = true := hbefore c (by simp)
    have hcut : x ++ [c] ++ w ++ after = x ++ c :: (w ++ after) := by simp
    rw [List.concat_eq_append, hcut, splitBy_append_cons hc]
    exact List.mem_append_right _ hfront

/-- The pieces of a split are the stretches between separators or the ends. -/
theorem mem_splitBy_iff : w ∈ splitBy p s ↔ IsPiece p w s :=
  ⟨isPiece_of_mem_splitBy, IsPiece.mem_splitBy⟩

/-- Splitting undoes joining. -/
theorem splitBy_joinWith {ws : List Text} (hne : ws ≠ []) (h : ∀ w ∈ ws, c ∉ w) :
    splitBy (· == c) (joinWith [c] ws) = ws := by
  induction ws with
  | nil => exact absurd rfl hne
  | cons w ws ih =>
    have hw := lacks_beq_iff.2 (h w List.mem_cons_self)
    cases ws with
    | nil => exact splitBy_eq_singleton hw
    | cons x xs =>
      rw [joinWith_cons_cons, List.append_assoc, List.singleton_append,
        splitBy_append_cons (by simp), splitBy_eq_singleton hw,
        ih (by simp) fun v hv => h v (List.mem_cons_of_mem _ hv)]
      rfl

/-- The separator stands in front of every piece but the first. -/
theorem joinWith_cons (sep w : Text) (ws : List Text) :
    joinWith sep (w :: ws) = w ++ ws.flatMap (sep ++ ·) := by
  induction ws generalizing w with
  | nil => simp
  | cons x xs ih =>
    rw [joinWith_cons_cons, ih, List.flatMap_cons, List.append_assoc, List.append_assoc]

theorem joinWith_append {sep : Text} {ws : List Text} (hne : ws ≠ []) (xs : List Text) :
    joinWith sep (ws ++ xs) = joinWith sep ws ++ xs.flatMap (sep ++ ·) := by
  obtain ⟨v, vs, rfl⟩ := List.exists_cons_of_ne_nil hne
  rw [List.cons_append, joinWith_cons, joinWith_cons, List.flatMap_append, List.append_assoc]

/-- Behind another piece, the pieces come joined behind one more separator. -/
theorem flatMap_eq_append_joinWith {sep : Text} {ws : List Text} (hne : ws ≠ []) :
    ws.flatMap (sep ++ ·) = sep ++ joinWith sep ws := by
  obtain ⟨v, vs, rfl⟩ := List.exists_cons_of_ne_nil hne
  rw [joinWith_cons, List.flatMap_cons, List.append_assoc]

/-- Joined text holds what its pieces hold, the separator apart. -/
theorem mem_joinWith_iff {sep : Text} {ws : List Text} (hc : c ∉ sep) :
    c ∈ joinWith sep ws ↔ ∃ w ∈ ws, c ∈ w := by
  induction ws with
  | nil => simp
  | cons w ws ih =>
    cases ws with
    | nil => simp
    | cons x xs =>
      rw [joinWith_cons_cons]
      simp only [List.mem_append, ih, hc, or_false]
      simp

theorem prefix_joinWith (sep w : Text) (ws : List Text) : w <+: joinWith sep (w :: ws) := by
  cases ws with
  | nil => exact List.prefix_refl w
  | cons v vs =>
    rw [joinWith_cons_cons, List.append_assoc]
    exact List.prefix_append w _

/-- Before every piece but the first stands the separator. -/
theorem infix_joinWith {sep w x : Text} {ws : List Text} (h : w ∈ ws) :
    sep ++ w <:+: joinWith sep (x :: ws) := by
  induction ws generalizing x with
  | nil => cases h
  | cons v vs ih =>
    rw [joinWith_cons_cons, List.append_assoc]
    have hskip : sep ++ joinWith sep (v :: vs) <:+: x ++ (sep ++ joinWith sep (v :: vs)) :=
      (List.suffix_append x _).isInfix
    rcases List.mem_cons.1 h with rfl | h
    · exact ((List.prefix_append_right_inj sep).2 (prefix_joinWith sep w vs)).isInfix.trans hskip
    · exact ((ih h).trans (List.suffix_append sep _).isInfix).trans hskip

end Split

/-! ## Cutting at a character -/

theorem cutAt?_eq_some_iff {c : Char} {s a b : Text} :
    cutAt? c s = some (a, b) ↔ c ∉ a ∧ s = a ++ c :: b := by
  induction s generalizing a with
  | nil => simp [cutAt?]
  | cons d ds ih =>
    rw [cutAt?]
    by_cases hd : d = c
    · subst hd
      cases a with
      | nil => simp [eq_comm]
      | cons e es =>
        simp only [if_true, Option.some.injEq, Prod.mk.injEq, List.cons_append, List.cons.injEq,
          List.mem_cons, not_or]
        constructor
        · rintro ⟨h, -⟩
          exact absurd h (by simp)
        · rintro ⟨⟨hne, -⟩, he, -⟩
          exact absurd he hne
    · rw [if_neg hd, Option.map_eq_some_iff]
      constructor
      · rintro ⟨⟨x, y⟩, hxy, heq⟩
        cases heq
        obtain ⟨hx, rfl⟩ := ih.1 hxy
        exact ⟨by simp [hx, Ne.symm hd], rfl⟩
      · rintro ⟨hmem, heq⟩
        cases a with
        | nil => exact absurd (List.cons.inj heq).1 hd
        | cons e es =>
          obtain ⟨rfl, hds⟩ := List.cons.inj heq
          have hes : c ∉ es := fun hes => hmem (List.mem_cons_of_mem _ hes)
          exact ⟨(es, b), ih.2 ⟨hes, hds⟩, rfl⟩

/-! ## Stretches -/

section Stretch

variable {p : Char → Bool} {x t : Text}

/-- Taking stops where a stretch ends. -/
theorem takeWhile_append_stop (hx : ∀ c ∈ x, p c = true) (ht : ∀ c ∈ t.head?, p c = false) :
    (x ++ t).takeWhile p = x := by
  rw [List.takeWhile_append_of_pos hx]
  cases t with
  | nil => simp
  | cons c cs =>
    have hc : p c = false := ht c rfl
    simp [hc]

theorem dropWhile_append_stop (hx : ∀ c ∈ x, p c = true) (ht : ∀ c ∈ t.head?, p c = false) :
    (x ++ t).dropWhile p = t := by
  rw [List.dropWhile_append_of_pos hx]
  cases t with
  | nil => rfl
  | cons c cs =>
    have hc : p c = false := ht c rfl
    simp [hc]

theorem takeWhile_append_cons {d : Char} (hx : ∀ c ∈ x, p c = true) (hd : p d = false) (t : Text) :
    (x ++ d :: t).takeWhile p = x := by
  apply takeWhile_append_stop hx
  intro c hc
  rwa [← Option.some.inj hc]

theorem dropWhile_append_cons {d : Char} (hx : ∀ c ∈ x, p c = true) (hd : p d = false) (t : Text) :
    (x ++ d :: t).dropWhile p = d :: t := by
  apply dropWhile_append_stop hx
  intro c hc
  rwa [← Option.some.inj hc]

end Stretch

/-! ## Trimming -/

theorem mem_dropWhile_iff {p : Char → Bool} {c : Char} (hc : p c = false) {s : Text} :
    c ∈ s.dropWhile p ↔ c ∈ s := by
  induction s with
  | nil => simp
  | cons d ds ih =>
    rw [List.dropWhile_cons]
    split
    · next hd =>
      have hne : c ≠ d := by
        rintro rfl
        rw [hc] at hd
        cases hd
      rw [ih, List.mem_cons]
      exact ⟨Or.inr, fun h => h.resolve_left hne⟩
    · rfl

/-- Trimming drops no character but those that it trims. -/
theorem mem_trimBy_iff {p : Char → Bool} {c : Char} (hc : p c = false) {s : Text} :
    c ∈ trimBy p s ↔ c ∈ s := by
  rw [trimBy, List.mem_reverse, mem_dropWhile_iff hc, List.mem_reverse, mem_dropWhile_iff hc]

/-- Trimming leaves a text in which there is nothing to be trimmed. -/
theorem trimBy_eq_self {p : Char → Bool} {x : Text} (h : Lacks p x) : trimBy p x = x := by
  have hhead : ∀ {s : Text}, Lacks p s → s.dropWhile p = s := by
    intro s hs
    have hstop : ∀ c ∈ s.head?, p c = false := fun c hc => hs c (List.mem_of_mem_head? hc)
    exact dropWhile_append_stop (List.forall_mem_nil _) hstop
  have hreverse : Lacks p x.reverse := fun c hc => h c (List.mem_reverse.1 hc)
  rw [trimBy, hhead h, hhead hreverse, List.reverse_reverse]

theorem trimBy_append_left {p : Char → Bool} {w : Text} (hw : ∀ c ∈ w, p c = true) (s : Text) :
    trimBy p (w ++ s) = trimBy p s := by
  rw [trimBy, List.dropWhile_append_of_pos hw, trimBy]

theorem trimBy_append_right {p : Char → Bool} {w : Text} (hw : ∀ c ∈ w, p c = true) (s : Text) :
    trimBy p (s ++ w) = trimBy p s := by
  have hreverse : ∀ c ∈ w.reverse, p c = true := fun c hc => hw c (List.mem_reverse.1 hc)
  have hnil : w.dropWhile p = [] := by
    rw [← List.append_nil w, dropWhile_append_stop hw (by simp)]
  rw [trimBy, List.dropWhile_append, trimBy]
  split
  · next hempty => rw [hnil, List.isEmpty_iff.1 hempty]
  · rw [List.reverse_append, List.dropWhile_append_of_pos hreverse]

/-- Nothing is left of a text if all of it is trimmed. -/
theorem trimBy_eq_nil_iff {p : Char → Bool} {s : Text} :
    trimBy p s = [] ↔ ∀ c ∈ s, p c = true := by
  constructor
  · intro h c hc
    rw [← Bool.not_eq_false]
    intro hnot
    have hleft : c ∈ trimBy p s := (mem_trimBy_iff hnot).2 hc
    rw [h] at hleft
    cases hleft
  · intro h
    rw [← List.append_nil s, trimBy_append_left h]
    rfl

/-! ## Occurrences -/

theorem beginsWith_iff {lead s : Text} : beginsWith lead s = true ↔ lead <+: s := by
  rw [beginsWith, Option.isSome_iff_exists]
  constructor
  · rintro ⟨rest, h⟩
    exact ⟨rest, (after?_eq_some_iff.1 h).symm⟩
  · rintro ⟨rest, h⟩
    exact ⟨rest, after?_eq_some_iff.2 h.symm⟩

theorem firstSuffix?_isSome_iff {α : Type} {f : Text → Option α} {s : Text} :
    (firstSuffix? f s).isSome = true ↔ ∃ t, t <:+ s ∧ (f t).isSome = true := by
  induction s with
  | nil => simp [firstSuffix?, List.suffix_nil]
  | cons c cs ih =>
    rw [firstSuffix?, Option.isSome_or, Bool.or_eq_true, ih]
    constructor
    · rintro (h | ⟨t, ht, h⟩)
      · exact ⟨_, List.suffix_refl _, h⟩
      · exact ⟨t, ht.trans (List.suffix_cons c cs), h⟩
    · rintro ⟨t, ht, h⟩
      rcases List.suffix_cons_iff.1 ht with rfl | ht
      · exact Or.inl h
      · exact Or.inr ⟨t, ht, h⟩

theorem occurs_iff {part s : Text} : occurs part s = true ↔ part <:+: s := by
  rw [occurs, firstSuffix?_isSome_iff]
  constructor
  · rintro ⟨t, ht, h⟩
    exact (beginsWith_iff.1 h).isInfix.trans ht.isInfix
  · rintro ⟨x, y, rfl⟩
    refine ⟨part ++ y, ⟨x, by simp⟩, beginsWith_iff.2 (List.prefix_append part y)⟩

/-- The search is what to evaluate, since it goes through the text only once. -/
theorem not_isInfix_of_occurs {part s : Text} (h : occurs part s = false) : ¬ part <:+: s := by
  rw [← occurs_iff, h]
  exact Bool.false_ne_true

/-- Replacing a text that does not occur changes nothing. -/
theorem replaceAll_eq_self {part repl s : Text} (h : ¬ part <:+: s) :
    replaceAll part repl s = s := by
  apply Pattern.replace_eq_self
  intro t ht
  rw [Pattern.exactly, if_neg]
  intro hbegins
  exact h ((beginsWith_iff.1 hbegins).isInfix.trans ht.isInfix)

/-! ## Searches for a word -/

section Search

variable {α : Type} {f : Text → Option α} {p t : Text}

theorem firstSuffix?_of_some {a : α} (h : f t = some a) : firstSuffix? f t = some a := by
  cases t with
  | nil => exact h
  | cons c cs => rw [firstSuffix?, h, Option.some_or]

/-- A search finds nothing if nothing is found at any place. -/
theorem firstSuffix?_eq_none_iff : firstSuffix? f t = none ↔ ∀ s, s <:+ t → f s = none := by
  rw [← Option.isNone_iff_eq_none, ← Option.isSome_eq_false_iff, Bool.eq_false_iff, ne_eq,
    firstSuffix?_isSome_iff, not_exists]
  simp

/-- A search passes over a front at which nothing is found. -/
theorem firstSuffix?_append_of_none (h : ∀ q, q <:+ p → q ≠ [] → f (q ++ t) = none) :
    firstSuffix? f (p ++ t) = firstSuffix? f t := by
  induction p with
  | nil => rfl
  | cons c cs ih =>
    have hfront : f (c :: cs ++ t) = none := h _ (List.suffix_refl _) (List.cons_ne_nil c cs)
    rw [List.cons_append] at hfront ⊢
    rw [firstSuffix?, hfront, Option.none_or]
    exact ih fun q hq => h q (hq.trans (List.suffix_cons c cs))

/-- A word whose first character comes in it only once does not begin in a text without the word to
reach into a text that begins with this character. -/
theorem not_prefix_append {d : Char} {w q : Text} (hd : d ∉ w) (hp : ¬ d :: w <:+: p)
    (ht : t.head? = some d) (hq : q <:+ p) (hne : q ≠ []) : ¬ d :: w <+: q ++ t := by
  intro h
  rcases List.prefix_or_prefix_of_prefix h (List.prefix_append q t) with hin | ⟨r, hr⟩
  · exact hp (hin.isInfix.trans hq.isInfix)
  · rw [← hr, List.prefix_append_right_inj] at h
    cases r with
    | nil =>
      rw [List.append_nil] at hr
      exact hp (hr ▸ hq.isInfix)
    | cons c cs =>
      -- the word goes on in the text behind, whose first character it cannot have again
      obtain ⟨rest, rfl⟩ := h
      obtain rfl : c = d := by simpa using ht
      cases q with
      | nil => exact hne rfl
      | cons e es =>
        rw [List.cons_append] at hr
        exact hd ((List.cons.inj hr).2 ▸ List.mem_append_right es List.mem_cons_self)

/-- A search for a word, and more, passes over a text without the word. -/
theorem firstSuffix?_append_of_word {d : Char} {w : Text}
    (hf : ∀ s a, f s = some a → d :: w <+: s) (hd : d ∉ w) (hp : ¬ d :: w <:+: p)
    (ht : t.head? = some d) : firstSuffix? f (p ++ t) = firstSuffix? f t := by
  apply firstSuffix?_append_of_none
  intro q hq hne
  rw [Option.eq_none_iff_forall_ne_some]
  intro a ha
  exact not_prefix_append hd hp ht hq hne (hf _ a ha)

/-- A word without `c` stands on one side of a `c`. -/
theorem infix_append_cons_iff {c : Char} {w x y : Text} (hc : c ∉ w) (hne : w ≠ []) :
    w <:+: x ++ c :: y ↔ w <:+: x ∨ w <:+: y := by
  constructor
  · rintro ⟨before, after, h⟩
    rw [List.append_assoc, List.append_eq_append_iff] at h
    rcases h with ⟨a, rfl, h⟩ | ⟨a, rfl, h⟩
    · -- the word begins before `c`, so it ends before it as well
      rw [List.append_eq_append_iff] at h
      rcases h with ⟨b, rfl, -⟩ | ⟨b, rfl, h⟩
      · exact Or.inl ⟨before, b, by rw [List.append_assoc]⟩
      · cases b with
        | nil => exact Or.inl ⟨before, [], by simp⟩
        | cons e es =>
          obtain ⟨rfl, -⟩ := List.cons.inj h
          exact absurd (List.mem_append_right a List.mem_cons_self) hc
    · cases a with
      | nil =>
        cases w with
        | nil => exact absurd rfl hne
        | cons e es =>
          obtain ⟨rfl, -⟩ := List.cons.inj h
          exact absurd List.mem_cons_self hc
      | cons e es =>
        rw [List.cons_append] at h
        obtain ⟨-, rfl⟩ := List.cons.inj h
        exact Or.inr ⟨es, after, by rw [List.append_assoc]⟩
  · rintro (h | h)
    · exact h.trans (List.infix_append' [] x (c :: y))
    · exact h.trans ((List.suffix_cons c y).trans (List.suffix_append x _)).isInfix

end Search

end DownloadNames.Text
