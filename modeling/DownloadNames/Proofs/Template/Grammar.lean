import DownloadNames.Proofs.Path.Clean
import DownloadNames.Proofs.Template.Layout

/-
The grammar of sound templates.

A template is well formed if it is put together from characters that a path allows and from
placeholders whose alternatives all have names.  The check of a template looks at five texts: the
template, its literal text with and without `<>`, the placeholders and the parts between slashes.
They give the grammar because leaving placeholders out brings no `<` and `>` together that stood
apart: whenever `<>` occurs in the literal text, it occurs in the template
(`isInfix_of_isInfix_literalText`).
-/

namespace DownloadNames.Template

/-! ## What the single checks say -/

/-- There are no problems when none of the five checks finds one. -/
theorem problems_eq_nil_iff_checks {template : Text} :
    problems template = [] ↔
      ¬ ['<', '>'] <:+: template
        ∧ (∀ c ∈ Text.replaceAll ['<', '>'] [] (literalText template), isBracket c = false)
        ∧ (∀ p ∈ placeholders template, p.hasEmptyName = false)
        ∧ (∀ c ∈ forbiddenLiterals, c ∉ literalText template)
        ∧ ¬ Text.IsPiece Path.isSeparator ['.', '.'] template := by
  have hite : ∀ {b : Prop} [Decidable b] {x : Problem}, (if b then [x] else []) = [] ↔ ¬ b := by
    intro b _ x
    by_cases hb : b <;> simp [hb]
  have hite' : ∀ {b : Prop} [Decidable b] {x : Problem}, (if b then [] else [x]) = [] ↔ b := by
    intro b _ x
    by_cases hb : b <;> simp [hb]
  simp only [problems, List.append_eq_nil_iff, hite, hite', List.map_eq_nil_iff,
    List.filter_eq_nil_iff, List.contains_iff_mem, Text.mem_splitBy_iff, List.any_eq_true,
    Text.occurs_iff, Bool.not_eq_true, not_exists, not_and, decide_eq_true_eq, and_assoc]

theorem isForbidden_iff {c : Char} :
    Path.isForbidden c = true ↔ isBracket c = true ∨ c ∈ forbiddenLiterals := by
  simp only [Path.isForbidden, isBracket, forbiddenLiterals, Bool.or_eq_true, beq_iff_eq,
    List.mem_cons, List.not_mem_nil, or_false]
  grind

/-! ## Brackets in literal text -/

/-- Literal text is found in the template. -/
theorem literalText_subset (template : Text) : literalText template ⊆ template := by
  induction template using search_induction with
  | nil => exact List.nil_subset _
  | literal c cs hnone ih =>
    rw [literalText, Text.Pattern.replace_cons_of_none hnone]
    exact List.cons_subset_cons c ih
  | placeholder inner rest hne hclose ih =>
    rw [literalText, replace_span hne hclose]
    exact fun c hc => by simp [ih hc]

/-- Leaving the placeholders out brings no `<` and `>` together. -/
theorem isInfix_of_isInfix_literalText {template : Text}
    (h : ['<', '>'] <:+: literalText template) : ['<', '>'] <:+: template := by
  induction template using search_induction with
  | nil => exact h
  | literal c cs hnone ih =>
    rw [literalText, Text.Pattern.replace_cons_of_none hnone] at h
    rcases List.infix_cons_iff.1 h with h | h
    · -- the literal text begins with `<>`: a `>` stands behind the `<`, and it stands right there
      obtain ⟨rfl, hclose⟩ := List.cons_prefix_cons.1 h
      have hmem : '>' ∈ cs := literalText_subset cs (hclose.subset List.mem_cons_self)
      have hhead : cs.head? = some '>' :=
        (placeholderPattern_cons_eq_none_iff.1 hnone rfl).resolve_right (not_not_intro hmem)
      obtain ⟨ds, rfl⟩ := List.head?_eq_some_iff.1 hhead
      exact ⟨[], ds, rfl⟩
    · exact (ih h).trans (List.suffix_cons c cs).isInfix
  | placeholder inner rest hne hclose ih =>
    rw [literalText, replace_span hne hclose] at h
    refine (ih h).trans ⟨'<' :: inner ++ ['>'], [], by simp⟩

/-- A closing bracket behind a text that neither holds one nor ends with `<` completes no `<>`. -/
theorem isInfix_append_close_iff {lead rest : Text} (hclose : '>' ∉ lead)
    (hlast : lead.getLast? ≠ some '<') :
    ['<', '>'] <:+: lead ++ '>' :: rest ↔ ['<', '>'] <:+: rest := by
  induction lead with
  | nil =>
    rw [List.nil_append, List.infix_cons_iff]
    simp
  | cons c cs ih =>
    have hcs : '>' ∉ cs := fun h => hclose (List.mem_cons_of_mem _ h)
    -- `lead` shrinks from the front, so its last character stays
    have hlast' : cs.getLast? ≠ some '<' := by
      intro h
      apply hlast
      cases cs with
      | nil => simp at h
      | cons d ds => simpa using h
    rw [List.cons_append, List.infix_cons_iff, ih hcs hlast']
    refine ⟨fun h => h.resolve_left fun hpre => ?_, Or.inr⟩
    obtain ⟨hc, hpre⟩ := List.cons_prefix_cons.1 hpre
    cases cs with
    | nil => exact hlast (by rw [← hc]; rfl)
    | cons d ds =>
      obtain ⟨hd, -⟩ := List.cons_prefix_cons.1 hpre
      exact hcs (by rw [hd]; exact List.mem_cons_self)

/-! ## The grammar -/

/-- The alternative has a name that can stand between brackets. -/
structure Alternative.Named (a : Alternative) : Prop extends a.Writable where
  nonempty : a.name ≠ []
  no_close : '>' ∉ a.name

/-- Templates put together from allowed characters and placeholders with named alternatives, none
of which ends with a `<` before the closing bracket. -/
inductive WellFormed : Text → Prop
  | nil : WellFormed []
  | literal {c : Char} {rest : Text} (hc : Path.isForbidden c = false) (hrest : WellFormed rest) :
      WellFormed (c :: rest)
  | placeholder {alternatives : List Alternative} {rest : Text} (hne : alternatives ≠ [])
      (hnamed : ∀ a ∈ alternatives, a.Named)
      (hlast : (printAll alternatives).getLast? ≠ some '<') (hrest : WellFormed rest) :
      WellFormed ('<' :: printAll alternatives ++ '>' :: rest)

/-- Named alternatives are written without a closing bracket, and not as nothing. -/
theorem printAll_named {alternatives : List Alternative} (hne : alternatives ≠ [])
    (hnamed : ∀ a ∈ alternatives, a.Named) :
    printAll alternatives ≠ [] ∧ '>' ∉ printAll alternatives := by
  constructor
  · intro h
    -- nothing at all is read as one alternative without a name
    have hread := Placeholder.alternatives_parse_printAll hne fun a ha => (hnamed a ha).toWritable
    rw [h] at hread
    have hempty : (⟨0, []⟩ : Alternative) ∈ alternatives := by
      rw [← hread]
      exact List.mem_cons_self
    exact (hnamed _ hempty).nonempty rfl
  · rw [printAll, Text.mem_joinWith_iff (by decide)]
    rintro ⟨w, hw, hc⟩
    obtain ⟨a, ha, rfl⟩ := List.mem_map.1 hw
    have hname := (hnamed a ha).no_close
    simp [Alternative.print, hname] at hc

section Grammar

variable {template : Text}

/-- The literal text of a well-formed template holds no character that a path excludes, its
placeholders have no empty alternative, and no `<` stands directly before a `>`. -/
theorem WellFormed.checks (h : WellFormed template) :
    Path.CleanPath (literalText template)
      ∧ (∀ p ∈ placeholders template, p.hasEmptyName = false)
      ∧ ¬ ['<', '>'] <:+: template := by
  induction h with
  | nil => exact ⟨Text.lacks_nil, by simp [placeholders], by simp⟩
  | @literal c rest hc hrest ih =>
    obtain ⟨hclean, hnamed, hwithin⟩ := ih
    -- brackets are excluded, so no placeholder stands here
    have hopen : c ≠ '<' := by
      rintro rfl
      exact absurd hc (by decide)
    have hnone : placeholderPattern (c :: rest) = none :=
      placeholderPattern_cons_eq_none_iff.2 fun e => absurd e hopen
    refine ⟨?_, ?_, ?_⟩
    · rw [literalText, Text.Pattern.replace_cons_of_none hnone]
      exact Text.lacks_cons_iff.2 ⟨hc, hclean⟩
    · rw [placeholders, Text.Pattern.findAll_cons_of_none hnone]
      exact hnamed
    · rw [List.infix_cons_iff, List.cons_prefix_cons]
      exact fun h => h.elim (fun h => hopen h.1.symm) hwithin
  | @placeholder alternatives rest hne hnamed hlast hrest ih =>
    obtain ⟨hclean, hnamedRest, hwithin⟩ := ih
    obtain ⟨hinner, hclose⟩ := printAll_named hne hnamed
    -- the placeholder that is found has the alternatives of the grammar
    have hread := Placeholder.alternatives_parse_printAll hne fun a ha => (hnamed a ha).toWritable
    refine ⟨?_, ?_, ?_⟩
    · rw [literalText, replace_span hinner hclose]
      exact hclean
    · rw [placeholders, findAll_span hinner hclose]
      refine List.forall_mem_cons.2 ⟨?_, hnamedRest⟩
      rw [Placeholder.hasEmptyName_eq_false_iff, hread]
      exact fun a ha => (hnamed a ha).nonempty
    · have hlast' : ('<' :: printAll alternatives).getLast? ≠ some '<' := by
        rwa [List.getLast?_cons_of_ne_nil hinner]
      rw [isInfix_append_close_iff (by simp [hclose]) hlast']
      exact hwithin

/-- A template passes the checks of its literal text and of its placeholders only if it is well
formed. -/
theorem wellFormed_of_checks (hclean : Path.CleanPath (literalText template))
    (hnamed : ∀ p ∈ placeholders template, p.hasEmptyName = false)
    (hwithin : ¬ ['<', '>'] <:+: template) : WellFormed template := by
  induction template using search_induction with
  | nil => exact .nil
  | literal c cs hnone ih =>
    rw [literalText, Text.Pattern.replace_cons_of_none hnone] at hclean
    rw [placeholders, Text.Pattern.findAll_cons_of_none hnone] at hnamed
    obtain ⟨hc, hcs⟩ := Text.lacks_cons_iff.1 hclean
    exact .literal hc (ih hcs hnamed fun h => hwithin (h.trans (List.suffix_cons c cs).isInfix))
  | placeholder inner rest hne hclose ih =>
    rw [literalText, replace_span hne hclose] at hclean
    rw [placeholders, findAll_span hne hclose] at hnamed
    obtain ⟨hinner, hrest⟩ := List.forall_mem_cons.1 hnamed
    -- a `<` at the end would stand directly before the closing bracket
    have hlast : inner.getLast? ≠ some '<' := by
      intro h
      obtain ⟨ds, rfl⟩ := List.getLast?_eq_some_iff.1 h
      exact hwithin ⟨'<' :: ds, rest, by simp⟩
    have hspan : ∀ {x : Text}, x <:+: rest → x <:+: '<' :: inner ++ '>' :: rest := fun h =>
      h.trans ⟨'<' :: inner ++ ['>'], [], by simp⟩
    -- the names come from between the brackets, where no `>` stands
    have hall : ∀ a ∈ (Placeholder.parse inner).alternatives, a.Named := fun a ha =>
      { Placeholder.writable_of_mem_parse ha with
        nonempty := Placeholder.hasEmptyName_eq_false_iff.1 hinner a ha
        no_close := fun h => hclose (Placeholder.name_subset_of_mem_parse ha h) }
    have hprint := Placeholder.printAll_alternatives_parse inner
    have h := WellFormed.placeholder (Placeholder.alternatives_parse_ne_nil inner) hall
      (by rwa [hprint]) (ih hclean hrest fun h => hwithin (hspan h))
    rwa [hprint] at h

/-- The literal text of a template passes both checks of its characters exactly when it holds none
that a path excludes, provided that the template holds no `<>`. -/
theorem literal_checks_iff (hwithin : ¬ ['<', '>'] <:+: template) :
    (∀ c ∈ Text.replaceAll ['<', '>'] [] (literalText template), isBracket c = false)
        ∧ (∀ c ∈ forbiddenLiterals, c ∉ literalText template) ↔
      Path.CleanPath (literalText template) := by
  -- with no `<>` in the literal text, taking `<>` out of it does nothing
  rw [Text.replaceAll_eq_self fun h => hwithin (isInfix_of_isInfix_literalText h)]
  constructor
  · rintro ⟨hbracket, hforbidden⟩ c hc
    rw [Bool.eq_false_iff, ne_eq, isForbidden_iff, not_or]
    exact ⟨by simp [hbracket c hc], fun h => hforbidden c h hc⟩
  · intro hclean
    refine ⟨fun c hc => ?_, fun c hc hmem => ?_⟩
    · rw [Bool.eq_false_iff]
      intro h
      exact absurd (hclean c hc) (by simp [isForbidden_iff.2 (Or.inl h)])
    · exact absurd (hclean c hmem) (by simp [isForbidden_iff.2 (Or.inr hc)])

theorem wellFormed_of_problems_eq_nil (h : problems template = []) : WellFormed template := by
  obtain ⟨hwithin, hbracket, hnamed, hforbidden, -⟩ := problems_eq_nil_iff_checks.1 h
  exact wellFormed_of_checks ((literal_checks_iff hwithin).1 ⟨hbracket, hforbidden⟩) hnamed hwithin

/-- A template without problems is well formed, and a well-formed template has no problem but the
one of a part `..`. -/
theorem problems_eq_nil_iff (template : Text) :
    problems template = [] ↔
      WellFormed template ∧ ¬ Text.IsPiece Path.isSeparator ['.', '.'] template := by
  constructor
  · intro h
    obtain ⟨-, -, -, -, hdots⟩ := problems_eq_nil_iff_checks.1 h
    exact ⟨wellFormed_of_problems_eq_nil h, hdots⟩
  · rintro ⟨hgrammar, hdots⟩
    obtain ⟨hclean, hnamed, hwithin⟩ := hgrammar.checks
    obtain ⟨hbracket, hforbidden⟩ := (literal_checks_iff hwithin).2 hclean
    exact problems_eq_nil_iff_checks.2 ⟨hwithin, hbracket, hnamed, hforbidden, hdots⟩

end Grammar
end DownloadNames.Template
