import DownloadNames.Proofs.Template.Layout

/-
Templates put together from placeholders and other templates.

What stands between two brackets and the alternatives that are read from it determine each other,
and a template that is nothing but such a text between brackets has this one placeholder.  A search
of two templates, one after the other, is a search of each if the first leaves no bracket open
(`EndsClosed`): whether a placeholder stands at one of its characters is then settled within it.
This is the exact condition, since an open `<` takes the next template into its placeholder as soon
as there is a `>`.
-/

namespace DownloadNames.Template

/-! ## A single placeholder -/

/-- A text between brackets is found as one placeholder. -/
theorem placeholders_span {inner : Text} (hne : inner ≠ []) (hclose : '>' ∉ inner) :
    placeholders ('<' :: inner ++ ['>']) = [.parse inner] := by
  rw [placeholders, findAll_span hne hclose]
  rfl

/-- Reading what stands between brackets and writing alternatives undo each other.  The alternatives
that are read from a text are written as that text; there is at least one, and none has a name
that begins with `#` or holds a bar.  Any alternatives of this kind are read as they were written.
A template that consists of such a text between brackets has the placeholder that is read from it
and no other. -/
theorem parse_undoes_printAll (inner : Text) :
    printAll (Placeholder.parse inner).alternatives = inner
      ∧ (Placeholder.parse inner).raw = '<' :: inner ++ ['>']
      ∧ (Placeholder.parse inner).alternatives ≠ []
      ∧ (∀ a ∈ (Placeholder.parse inner).alternatives,
          a.name.head? ≠ some '#' ∧ '|' ∉ a.name)
      ∧ (∀ alternatives : List Alternative, alternatives ≠ [] →
          (∀ a ∈ alternatives, a.name.head? ≠ some '#' ∧ '|' ∉ a.name) →
          (Placeholder.parse (printAll alternatives)).alternatives = alternatives)
      ∧ (inner ≠ [] → '>' ∉ inner →
          placeholders ('<' :: inner ++ ['>']) = [.parse inner]) := by
  refine ⟨Placeholder.printAll_alternatives_parse inner, rfl,
    Placeholder.alternatives_parse_ne_nil inner, fun a ha => ?_, fun alternatives hne hnames => ?_,
    placeholders_span⟩
  · have hwritable := Placeholder.writable_of_mem_parse ha
    exact ⟨hwritable.no_pad, hwritable.no_bar⟩
  · have hwritable : ∀ a ∈ alternatives, a.Writable := fun a ha =>
      ⟨(hnames a ha).1, (hnames a ha).2⟩
    exact Placeholder.alternatives_parse_printAll hne hwritable

/-- A run of `#` without a name, a `<` in a name and nothing behind a bar. -/
example : (Placeholder.parse "##|#<a|".toList).alternatives
    = [⟨2, []⟩, ⟨1, ['<', 'a']⟩, ⟨0, []⟩] := by decide

/-! ## Templates that leave no bracket open -/

/-- The template has no `<` behind its last `>`, or no `<` at all. -/
def EndsClosed (template : Text) : Prop :=
  '<' ∉ template ∨ ∃ before behind, template = before ++ '>' :: behind
    ∧ '>' ∉ behind ∧ '<' ∉ behind

section Closed

variable {x y inner rest cs template : Text} {c : Char}

theorem endsClosed_iff_not_mem_afterLast :
    EndsClosed template ↔ '<' ∉ Path.afterLast '>' template := by
  constructor
  · rintro (hnone | ⟨before, behind, rfl, hclose, hopen⟩)
    · intro hmem
      rw [Path.afterLast, List.mem_reverse] at hmem
      exact hnone (List.mem_reverse.1 ((List.takeWhile_sublist _).mem hmem))
    · rwa [Path.afterLast_append_cons hclose]
  · intro hopen
    rcases Path.not_mem_or_last '>' template with hnone | ⟨before, behind, rfl, hclose⟩
    · rw [Path.afterLast_eq_self hnone] at hopen
      exact Or.inl hopen
    · rw [Path.afterLast_append_cons hclose] at hopen
      exact Or.inr ⟨before, behind, rfl, hclose, hopen⟩

/-- A template leaves no bracket open if every `<` has a `>` behind it. -/
theorem endsClosed_iff :
    EndsClosed template ↔ ∀ a b, template = a ++ '<' :: b → '>' ∈ b := by
  constructor
  · rintro (hnone | ⟨before, behind, rfl, -, hopen⟩) a b htemplate
    · exact absurd (by rw [htemplate]; simp) hnone
    · -- the `<` stands before the last `>`, since none stands behind it
      rcases List.append_eq_append_iff.1 htemplate with ⟨c, -, hc⟩ | ⟨c, -, hc⟩
      · cases c with
        | nil => cases hc
        | cons d ds =>
          obtain ⟨-, rfl⟩ := List.cons.inj hc
          exact absurd (by simp) hopen
      · cases c with
        | nil => cases hc
        | cons d ds =>
          obtain ⟨-, rfl⟩ := List.cons.inj hc
          simp
  · intro h
    rcases Path.not_mem_or_last '>' template with hnone | ⟨before, behind, rfl, hclose⟩
    · refine Or.inl fun hmem => ?_
      obtain ⟨a, b, rfl⟩ := List.append_of_mem hmem
      exact hnone (List.mem_append_right _ (List.mem_cons_of_mem _ (h a b rfl)))
    · refine Or.inr ⟨before, behind, rfl, hclose, fun hmem => ?_⟩
      obtain ⟨a, b, rfl⟩ := List.append_of_mem hmem
      have hb := h (before ++ '>' :: a) b (by simp)
      exact hclose (List.mem_append_right _ (List.mem_cons_of_mem _ hb))

instance : Decidable (EndsClosed template) :=
  decidable_of_iff ('<' ∉ Path.afterLast '>' template) endsClosed_iff_not_mem_afterLast.symm

theorem endsClosed_nil : EndsClosed [] := Or.inl List.not_mem_nil

theorem endsClosed_cons_iff : EndsClosed (c :: cs) ↔ (c = '<' → '>' ∈ cs) ∧ EndsClosed cs := by
  rw [endsClosed_iff, endsClosed_iff]
  constructor
  · intro h
    exact ⟨fun hc => h [] cs (by rw [hc]; rfl), fun a b hcs => h (c :: a) b (by rw [hcs]; rfl)⟩
  · rintro ⟨hc, hcs⟩ a b htemplate
    cases a with
    | nil =>
      obtain ⟨hopen, rfl⟩ := List.cons.inj htemplate
      exact hc hopen
    | cons d ds => exact hcs ds b (List.cons.inj htemplate).2

/-- Whether a bracket is open behind a `>` does not depend on what stands before it. -/
theorem endsClosed_append_close_iff : EndsClosed (x ++ '>' :: rest) ↔ EndsClosed rest := by
  induction x with
  | nil => simp [endsClosed_cons_iff]
  | cons c cs ih => simp [endsClosed_cons_iff, ih]

end Closed

/-! ## Searches of two templates -/

section Append

variable {x cs : Text} {c : Char}

/-- Where no placeholder stands, none begins when text is added, if a `<` there has its `>`. -/
theorem placeholderPattern_append_eq_none (hclosed : c = '<' → '>' ∈ cs)
    (hnone : placeholderPattern (c :: cs) = none) (y : Text) :
    placeholderPattern (c :: (cs ++ y)) = none := by
  rw [placeholderPattern_cons_eq_none_iff] at hnone ⊢
  intro hc
  have hhead := (hnone hc).resolve_right (not_not_intro (hclosed hc))
  obtain ⟨ds, rfl⟩ := List.head?_eq_some_iff.1 hhead
  exact Or.inl rfl

/-- Induction along the search of a template that leaves no bracket open.  Where no placeholder
stands, none stands with any `y` added behind the template. -/
@[elab_as_elim]
theorem EndsClosed.induction {motive : (x : Text) → EndsClosed x → Prop}
    (nil : motive [] endsClosed_nil)
    (literal : ∀ c cs (hx : EndsClosed (c :: cs)) (hcs : EndsClosed cs),
      (∀ y, placeholderPattern (c :: (cs ++ y)) = none) → motive cs hcs → motive (c :: cs) hx)
    (placeholder : ∀ inner rest (hx : EndsClosed ('<' :: inner ++ '>' :: rest))
      (hrest : EndsClosed rest), inner ≠ [] → '>' ∉ inner → motive rest hrest →
      motive ('<' :: inner ++ '>' :: rest) hx)
    (x : Text) (hx : EndsClosed x) : motive x hx := by
  induction x using search_induction with
  | nil => exact nil
  | literal c cs hnone ih =>
    obtain ⟨hc, hcs⟩ := endsClosed_cons_iff.1 hx
    exact literal c cs hx hcs (placeholderPattern_append_eq_none hc hnone) (ih hcs)
  | placeholder inner rest hne hclose ih =>
    have hrest := endsClosed_append_close_iff.1 hx
    exact placeholder inner rest hx hrest hne hclose (ih hrest)

theorem EndsClosed.findAll_append (hx : EndsClosed x) (y : Text) :
    placeholderPattern.findAll (x ++ y)
      = placeholderPattern.findAll x ++ placeholderPattern.findAll y := by
  induction x, hx using EndsClosed.induction with
  | nil => rfl
  | literal c cs _ _ hnone ih =>
    have hc : placeholderPattern (c :: cs) = none := by simpa using hnone []
    rw [List.cons_append, Text.Pattern.findAll_cons_of_none (hnone y),
      Text.Pattern.findAll_cons_of_none hc, ih]
  | placeholder inner rest _ _ hne hclose ih =>
    rw [List.append_assoc, List.cons_append (a := '>'), findAll_span hne hclose,
      findAll_span hne hclose, ih, List.cons_append]

theorem EndsClosed.replace_append (hx : EndsClosed x) (f : Text → Text) (y : Text) :
    placeholderPattern.replace f (x ++ y)
      = placeholderPattern.replace f x ++ placeholderPattern.replace f y := by
  induction x, hx using EndsClosed.induction with
  | nil => rfl
  | literal c cs _ _ hnone ih =>
    have hc : placeholderPattern (c :: cs) = none := by simpa using hnone []
    rw [List.cons_append, Text.Pattern.replace_cons_of_none (hnone y),
      Text.Pattern.replace_cons_of_none hc, ih, List.cons_append]
  | placeholder inner rest _ _ hne hclose ih =>
    rw [List.append_assoc, List.cons_append (a := '>'), replace_span hne hclose,
      replace_span hne hclose, ih, List.append_assoc]

theorem EndsClosed.placeholders_append (hx : EndsClosed x) (y : Text) :
    placeholders (x ++ y) = placeholders x ++ placeholders y := by
  rw [placeholders, hx.findAll_append, List.map_append, placeholders, placeholders]

theorem EndsClosed.expand_append (hx : EndsClosed x) (y : Text) (table : Bindings) :
    expand (x ++ y) table = expand x table ++ expand y table :=
  hx.replace_append _ y

/-- A text without `>` has no placeholders. -/
theorem findAll_eq_nil (h : '>' ∉ cs) : placeholderPattern.findAll cs = [] := by
  have hstray : Layout.Stray cs [] := by
    rintro a b rfl
    rw [List.append_nil]
    exact Or.inr fun hmem => h (by simp [hmem])
  simpa using Layout.findAll_stray hstray

/-- An open `<` takes what follows into a placeholder of its own. -/
theorem length_findAll_append_close (hx : ¬ EndsClosed x) :
    (placeholderPattern.findAll (x ++ ['a', '>'])).length
      = (placeholderPattern.findAll x).length + 1 := by
  induction x using search_induction with
  | nil => exact absurd endsClosed_nil hx
  | literal c cs hnone ih =>
    by_cases hopen : c = '<' ∧ '>' ∉ cs
    · obtain ⟨rfl, hclose⟩ := hopen
      have hspan : '<' :: cs ++ ['a', '>'] = '<' :: (cs ++ ['a']) ++ '>' :: [] := by simp
      rw [hspan, findAll_span (by simp) (by simp [hclose]),
        Text.Pattern.findAll_cons_of_none hnone, findAll_eq_nil hclose]
      rfl
    · -- the open bracket is one of those behind `c`
      have hclosed : c = '<' → '>' ∈ cs := Decidable.not_and_not_right.1 hopen
      have hcs : ¬ EndsClosed cs := fun h => hx (endsClosed_cons_iff.2 ⟨hclosed, h⟩)
      rw [List.cons_append,
        Text.Pattern.findAll_cons_of_none (placeholderPattern_append_eq_none hclosed hnone _),
        Text.Pattern.findAll_cons_of_none hnone, ih hcs]
  | placeholder inner rest hne hclose ih =>
    have hrest : ¬ EndsClosed rest := fun h => hx (endsClosed_append_close_iff.2 h)
    rw [List.append_assoc, List.cons_append (a := '>'), findAll_span hne hclose,
      findAll_span hne hclose, List.length_cons, ih hrest, List.length_cons]

/-- A template that leaves no bracket open can be put before any other: the placeholders are those
of the one and then those of the other, and so are the expansions.  No other template can. -/
theorem endsClosed_iff_searched_apart (x : Text) :
    EndsClosed x ↔
      ∀ y, placeholders (x ++ y) = placeholders x ++ placeholders y
        ∧ ∀ table, expand (x ++ y) table = expand x table ++ expand y table := by
  constructor
  · intro hx y
    exact ⟨hx.placeholders_append y, hx.expand_append y⟩
  · intro hall
    refine Decidable.byContradiction fun hx => ?_
    have hlength := congrArg List.length (hall ['a', '>']).1
    have hnone : placeholders ['a', '>'] = [] := by decide
    rw [hnone, List.append_nil, placeholders, placeholders, List.length_map, List.length_map,
      length_findAll_append_close hx] at hlength
    omega

/-- A `<` is closed by a `>` that makes no placeholder, and by one that belongs to another `<`. -/
example : EndsClosed "<>a<<b>c>".toList ∧ ¬ EndsClosed "<a>b<".toList := by decide

end Append
end DownloadNames.Template
