import DownloadNames.Proofs.Path.Pieces
import DownloadNames.Proofs.Template.Clean
import DownloadNames.Proofs.Template.Composition

/-
When a template without problems is expanded to a path that leads upwards.

The check finds the parts `..` of a template, and values without dots and slashes bring none with
them.  But a placeholder that stands for nothing brings together the dots around it: `.<a>.` with
an empty `a` is `..`.  This is the only way (`dots_mem_expandPath_iff`): the parts of an expansion
between slashes are the expansions of the parts of its template, because the template is cut at its
literal slashes and values have none.
-/

namespace DownloadNames.Template

open DownloadNames.Path (isSeparator isForbidden_of_isSeparator)
open DownloadNames.Text (Lacks)

/-! ## Well-formed texts one after the other -/

section Append

variable {x y template part : Text} {c : Char}

theorem WellFormed.append (hx : WellFormed x) (hy : WellFormed y) : WellFormed (x ++ y) := by
  induction hx with
  | nil => exact hy
  | literal hc _ ih => exact .literal hc ih
  | @placeholder alternatives rest hne hnamed hlast _ ih =>
    have h := WellFormed.placeholder hne hnamed hlast ih
    rwa [← List.cons_append, ← List.append_assoc] at h

/-- An allowed character is no opening bracket, so no placeholder stands there. -/
theorem placeholderPattern_literal (hc : Path.isForbidden c = false) (cs : Text) :
    placeholderPattern (c :: cs) = none := by
  rw [placeholderPattern_cons_eq_none_iff]
  rintro rfl
  cases hc

/-- A well-formed text leaves no bracket open, so it is searched by itself. -/
theorem WellFormed.endsClosed (hx : WellFormed x) : EndsClosed x := by
  induction hx with
  | nil => exact endsClosed_nil
  | literal hc _ ih =>
    refine endsClosed_cons_iff.2 ⟨?_, ih⟩
    rintro rfl
    cases hc
  | placeholder _ _ _ _ ih => exact endsClosed_append_close_iff.2 ih

end Append

/-! ## Parts of a template between slashes -/

/-- `part` is a stretch of a template without literal slashes that stands between two literal
slashes or the ends. -/
def IsPart (part template : Text) : Prop :=
  Lacks isSeparator (literalText part) ∧ ∃ before after, template = before ++ part ++ after
    ∧ WellFormed before ∧ WellFormed part ∧ WellFormed after
    ∧ (∀ c ∈ before.getLast?, isSeparator c = true) ∧ (∀ c ∈ after.head?, isSeparator c = true)

section Parts

variable {x y template part : Text} {c : Char} {table : Bindings}

/-- A slash at the end of a well-formed text is literal, since a placeholder ends with `>`. -/
theorem WellFormed.of_append_separator (hc : isSeparator c = true) (h : WellFormed (x ++ [c])) :
    WellFormed x := by
  generalize htext : x ++ [c] = text at h
  induction h generalizing x with
  | nil => simp at htext
  | @literal d rest hd hrest ih =>
    cases x with
    | nil => exact .nil
    | cons e es =>
      obtain ⟨rfl, hes⟩ := List.cons.inj htext
      exact .literal hd (ih hes)
  | @placeholder alternatives rest hne hnamed hlast hrest ih =>
    rcases List.eq_nil_or_concat rest with rfl | ⟨front, d, rfl⟩
    · -- the last character would be the closing bracket
      obtain ⟨-, hd⟩ := List.append_inj' htext rfl
      rw [List.cons.inj hd |>.1] at hc
      cases hc
    · have hcut : x ++ [c] = ('<' :: printAll alternatives ++ '>' :: front) ++ [d] := by
        rw [htext]
        simp
      obtain ⟨rfl, hd⟩ := List.append_inj' hcut rfl
      exact .placeholder hne hnamed hlast (ih (by rw [hd, List.concat_eq_append]))

/-- Literal text without slashes, or a first literal slash that cuts the template in two. -/
theorem WellFormed.lacks_or_first (h : WellFormed template) :
    Lacks isSeparator (literalText template)
      ∨ ∃ x c y, template = x ++ c :: y ∧ isSeparator c = true ∧ WellFormed x ∧ WellFormed y
          ∧ Lacks isSeparator (literalText x) := by
  induction h with
  | nil => exact Or.inl Text.lacks_nil
  | @literal d rest hd hrest ih =>
    by_cases hsep : isSeparator d = true
    · exact Or.inr ⟨[], d, rest, rfl, hsep, .nil, hrest, Text.lacks_nil⟩
    · have hkeep : ∀ {s : Text}, Lacks isSeparator (literalText s) →
          Lacks isSeparator (literalText (d :: s)) := by
        intro s hs
        rw [literalText, Text.Pattern.replace_cons_of_none (placeholderPattern_literal hd _)]
        exact Text.lacks_cons_iff.2 ⟨by simpa using hsep, hs⟩
      rcases ih with hnone | ⟨x, c, y, rfl, hc, hx, hy, hnone⟩
      · exact Or.inl (hkeep hnone)
      · exact Or.inr ⟨d :: x, c, y, rfl, hc, .literal hd hx, hy, hkeep hnone⟩
  | @placeholder alternatives rest hne hnamed hlast hrest ih =>
    obtain ⟨hinner, hclose⟩ := printAll_named hne hnamed
    have hskip : ∀ s : Text,
        literalText ('<' :: printAll alternatives ++ '>' :: s) = literalText s := fun s => by
      rw [literalText, replace_span hinner hclose]
      rfl
    rcases ih with hnone | ⟨x, c, y, rfl, hc, hx, hy, hnone⟩
    · exact Or.inl (by rwa [hskip])
    · refine Or.inr ⟨'<' :: printAll alternatives ++ '>' :: x, c, y, by simp, hc,
        .placeholder hne hnamed hlast hx, hy, ?_⟩
      rwa [hskip]

/-- The whole of a well-formed template is a part of it if nothing cuts it. -/
theorem isPart_self (h : WellFormed template) (hnone : Lacks isSeparator (literalText template)) :
    IsPart template template :=
  ⟨hnone, [], [], by simp, .nil, h, .nil, by simp, by simp⟩

/-- A part behind a literal slash is a part of the whole template. -/
theorem IsPart.append_cons (hx : WellFormed x) (hc : isSeparator c = true) (h : IsPart part y) :
    IsPart part (x ++ c :: y) := by
  obtain ⟨hnone, before, after, rfl, hbefore, hpart, hafter, hopen, hclose⟩ := h
  refine ⟨hnone, x ++ c :: before, after, by simp,
    hx.append (.literal (isForbidden_of_isSeparator hc) hbefore), hpart, hafter, ?_, hclose⟩
  intro d hd
  cases before with
  | nil =>
    have : d = c := by simpa [eq_comm] using hd
    rw [this, hc]
  | cons e es => exact hopen d (by simpa using hd)

/-- The placeholders of a part are placeholders of the template. -/
theorem IsPart.placeholders_subset (h : IsPart part template) :
    placeholders part ⊆ placeholders template := by
  obtain ⟨-, before, after, rfl, hbefore, hpart, -, -, -⟩ := h
  rw [List.append_assoc, hbefore.endsClosed.placeholders_append,
    hpart.endsClosed.placeholders_append]
  intro p hp
  simp [hp]

end Parts

/-! ## Parts of an expansion between slashes -/

section Expansion

variable {template part w : Text} {c : Char} {table : Bindings}

/-- A literal character expands to itself. -/
theorem expand_literal_cons (hc : Path.isForbidden c = false) (rest : Text) (table : Bindings) :
    expand (c :: rest) table = c :: expand rest table :=
  Text.Pattern.replace_cons_of_none (placeholderPattern_literal hc rest)

/-- What ends with a literal slash, if with anything, is expanded to such a text. -/
theorem WellFormed.expand_getLast? (h : WellFormed template)
    (hopen : ∀ c ∈ template.getLast?, isSeparator c = true) :
    ∀ c ∈ (expand template table).getLast?, isSeparator c = true := by
  rcases List.eq_nil_or_concat template with rfl | ⟨front, c, rfl⟩
  · simp [expand]
  · rw [List.concat_eq_append] at h hopen ⊢
    have hc : isSeparator c = true := hopen c (by simp)
    have hfront := h.of_append_separator hc
    rw [hfront.endsClosed.expand_append, expand_literal_cons (isForbidden_of_isSeparator hc)]
    simpa [expand] using hc

/-- What begins with a literal slash, if with anything, is expanded to such a text. -/
theorem WellFormed.expand_head? (hclose : ∀ c ∈ template.head?, isSeparator c = true) :
    ∀ c ∈ (expand template table).head?, isSeparator c = true := by
  cases template with
  | nil => simp [expand]
  | cons c rest =>
    have hc : isSeparator c = true := hclose c rfl
    rw [expand_literal_cons (isForbidden_of_isSeparator hc)]
    simpa using hc

/-- An expansion has no slashes if neither its literal text nor its values have any. -/
theorem lacks_expand (hliteral : Lacks isSeparator (literalText template))
    (hvalues : ∀ p ∈ placeholders template, Lacks isSeparator (p.value table)) :
    Lacks isSeparator (expand template table) := by
  intro c hc
  rcases mem_expand_iff.1 hc with hc | ⟨p, hp, hc⟩
  · exact hliteral c hc
  · exact hvalues p hp c hc

-- by the length of the template: what stands behind its first literal slash is cut next
theorem exists_isPart_of_mem_splitBy {template : Text} (h : WellFormed template)
    (hvalues : ∀ p ∈ placeholders template, Lacks isSeparator (p.value table))
    (hw : w ∈ Text.splitBy isSeparator (expand template table)) :
    ∃ part, IsPart part template ∧ expand part table = w := by
  rcases h.lacks_or_first with hnone | ⟨x, c, y, rfl, hc, hx, hy, hnone⟩
  · rw [Text.splitBy_eq_singleton (lacks_expand hnone hvalues), List.mem_singleton] at hw
    exact ⟨template, isPart_self h hnone, hw.symm⟩
  · have hcut : WellFormed (c :: y) := .literal (isForbidden_of_isSeparator hc) hy
    have hsub : placeholders (x ++ c :: y) = placeholders x ++ placeholders y := by
      rw [hx.endsClosed.placeholders_append, placeholders, placeholders,
        Text.Pattern.findAll_cons_of_none
          (placeholderPattern_literal (isForbidden_of_isSeparator hc) y), ← placeholders]
      rfl
    rw [hsub] at hvalues
    have hxvalues := fun p hp => hvalues p (List.mem_append_left _ hp)
    have hyvalues := fun p hp => hvalues p (List.mem_append_right _ hp)
    rw [hx.endsClosed.expand_append, expand_literal_cons (isForbidden_of_isSeparator hc),
      Text.splitBy_append_cons hc, Text.splitBy_eq_singleton (lacks_expand hnone hxvalues),
      List.singleton_append, List.mem_cons] at hw
    rcases hw with rfl | hw
    · exact ⟨x, ⟨hnone, [], c :: y, by simp, .nil, hx, hcut, by simp, by simpa using hc⟩, rfl⟩
    · obtain ⟨part, hpart, hexpand⟩ := exists_isPart_of_mem_splitBy hy hyvalues hw
      exact ⟨part, hpart.append_cons hx hc, hexpand⟩
termination_by template.length

/-- Where values have no slashes, the parts of an expansion between slashes are the expansions of
the parts of the template. -/
theorem mem_splitBy_expand_iff (h : WellFormed template)
    (hvalues : ∀ p ∈ placeholders template, Lacks isSeparator (p.value table)) :
    w ∈ Text.splitBy isSeparator (expand template table) ↔
      ∃ part, IsPart part template ∧ expand part table = w := by
  refine ⟨exists_isPart_of_mem_splitBy h hvalues, ?_⟩
  rintro ⟨part, hpart, rfl⟩
  have hlacks := lacks_expand hpart.1 fun p hp => hvalues p (hpart.placeholders_subset hp)
  obtain ⟨-, before, after, rfl, hbefore, hwell, -, hopen, hclose⟩ := hpart
  rw [List.append_assoc, hbefore.endsClosed.expand_append, hwell.endsClosed.expand_append,
    ← List.append_assoc]
  exact Text.mem_splitBy_iff.2 ⟨hlacks, _, _, rfl, hbefore.expand_getLast? hopen,
    WellFormed.expand_head? hclose⟩

/-! ## Parts that expand to two dots -/

/-- A dot, or a slash of either kind. -/
def isDotOrSlash (c : Char) : Bool := c == '.' || isSeparator c

/-- A text without placeholders is literal. -/
theorem literalText_eq_self (h : placeholders template = []) : literalText template = template := by
  obtain ⟨l, hl⟩ := Layout.exists_of template
  rw [hl.placeholders_eq] at h
  have hraw : l.fill Placeholder.raw = l.fill fun _ => [] := Layout.fill_congr (by simp [h])
  rw [hl.literalText_eq, ← Layout.fill_nil, ← hraw, hl.fill_raw]

/-- Values without dots give two dots only by standing for nothing around two literal dots. -/
theorem expand_eq_dots_iff (hvalues : ∀ p ∈ placeholders part, '.' ∉ p.value table) :
    expand part table = ['.', '.'] ↔
      literalText part = ['.', '.'] ∧ ∀ p ∈ placeholders part, p.value table = [] := by
  constructor
  · intro hdots
    have hnothing : ∀ p ∈ placeholders part, p.value table = [] := by
      intro p hp
      rw [List.eq_nil_iff_forall_not_mem]
      intro c hc
      -- every character of the expansion is a dot
      have hmem := mem_expand_iff.2 (Or.inr ⟨p, hp, hc⟩)
      have hdot : c = '.' := by simpa [hdots] using hmem
      exact hvalues p hp (by rwa [hdot] at hc)
    exact ⟨by rw [← expand_eq_literalText_iff.2 hnothing, hdots], hnothing⟩
  · rintro ⟨hdots, hnothing⟩
    rw [expand_eq_literalText_iff.2 hnothing, hdots]

end Expansion

/-! ## Paths that lead upwards -/

/-- A template without problems, expanded with a table that has all its names and gives them
values without dots and slashes, becomes a path with a part `..` exactly when two literal dots of
the template are brought together: some part of it between literal slashes has `..` for its literal
text, and besides at least one placeholder, and all its placeholders stand for nothing. -/
theorem dots_mem_expandPath_iff (template : Text) (table : Bindings)
    (hproblems : problems template = [])
    (hpresent : ∀ n ∈ names template, table.has n = true)
    (hvalues : ∀ n ∈ names template, ∀ value ∈ table.get? n, Lacks isDotOrSlash value) :
    ['.', '.'] ∈ Text.splitBy (· == '/') (expandPath template table ['_']) ↔
      ∃ part, IsPart part template ∧ literalText part = ['.', '.'] ∧ placeholders part ≠ []
        ∧ ∀ p ∈ placeholders part, p.value table = [] := by
  have hgrammar := wellFormed_of_problems_eq_nil hproblems
  have hnodots := (problems_eq_nil_iff_checks.1 hproblems).2.2.2.2
  have hlacks : ∀ p ∈ placeholders template, Lacks isDotOrSlash (p.value table) := fun p hp =>
    value_lacks (by decide) hgrammar hpresent hvalues hp
  have hslash : ∀ p ∈ placeholders template, Lacks isSeparator (p.value table) := fun p hp c hc =>
    (Bool.or_eq_false_iff.1 (hlacks p hp c hc)).2
  -- the parts of the path are those of the expansion, and these come from parts of the template
  rw [expandPath, Path.mem_splitBy_safePath_iff (by decide) (by decide) (by decide) (by decide)
    (by simp), mem_splitBy_expand_iff hgrammar hslash]
  have hparts : ∀ part, IsPart part template → (expand part table = ['.', '.'] ↔
      literalText part = ['.', '.'] ∧ placeholders part ≠ []
        ∧ ∀ p ∈ placeholders part, p.value table = []) := by
    intro part hpart
    have hdot : ∀ p ∈ placeholders part, '.' ∉ p.value table := fun p hp hmem =>
      absurd (hlacks p (hpart.placeholders_subset hp) '.' hmem) (by decide)
    rw [expand_eq_dots_iff hdot]
    constructor
    · rintro ⟨hliteral, hnothing⟩
      refine ⟨hliteral, fun hnone => ?_, hnothing⟩
      -- without a placeholder, the part would be a part `..` of the template itself
      have hself : part = ['.', '.'] := by rw [← hliteral, literalText_eq_self hnone]
      obtain ⟨hlit, before, after, htemplate, -, -, -, hopen, hclose⟩ := hpart
      rw [hliteral] at hlit
      rw [hself] at htemplate
      exact hnodots ⟨hlit, before, after, htemplate, hopen, hclose⟩
    · rintro ⟨hliteral, -, hnothing⟩
      exact ⟨hliteral, hnothing⟩
  constructor
  · rintro ⟨part, hpart, hdots⟩
    exact ⟨part, hpart, (hparts part hpart).1 hdots⟩
  · rintro ⟨part, hpart, hempty⟩
    exact ⟨part, hpart, (hparts part hpart).2 hempty⟩

/-- `a\\.<x|Y>.//<b>` with nothing for `x` and `y` becomes `a/../c`. -/
theorem dots_mem_expandPath_empty_values :
    let template : Text := "a\\.<x|Y>.//<b>".toList
    let table : Bindings := ⟨[(['x'], []), (['y'], []), (['b'], ['c'])]⟩
    problems template = [] ∧ (∀ n ∈ names template, table.has n = true)
      ∧ expandPath template table ['_'] = "a/../c".toList
      ∧ ∃ part, IsPart part template ∧ literalText part = ['.', '.'] ∧ placeholders part ≠ []
        ∧ ∀ p ∈ placeholders part, p.value table = [] := by
  intro template table
  have hproblems : problems template = [] := by decide
  have hpresent : ∀ n ∈ names template, table.has n = true := by decide
  have hpath : expandPath template table ['_'] = "a/../c".toList := by decide
  refine ⟨hproblems, hpresent, hpath, ?_⟩
  apply (dots_mem_expandPath_iff template table hproblems hpresent (by decide)).1
  rw [hpath]
  decide

/-- A template without problems can become a path with a part `..`, although no value holds a dot
or a slash: `.<a>.` does where `a` is empty. -/
theorem not_all_expandPath_without_dots :
    ¬ ∀ (template : Text) (table : Bindings), problems template = [] →
      (∀ n ∈ names template, table.has n = true) →
      (∀ e ∈ table.entries, Lacks isDotOrSlash e.2) →
      ['.', '.'] ∉ Text.splitBy (· == '/') (expandPath template table ['_']) := by
  intro hall
  have hnot := hall ".<a>.".toList ⟨[(['a'], [])]⟩ (by decide) (by decide)
    (by decide)
  exact hnot (by decide)

end DownloadNames.Template
