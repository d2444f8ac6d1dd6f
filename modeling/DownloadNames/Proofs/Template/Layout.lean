import DownloadNames.Template.Check
import DownloadNames.Proofs.Template.Placeholder

/-
Templates as literal texts with placeholders between them.

Finding the placeholders, expanding them and leaving them out are three searches of the template.
A layout says without any search where the placeholders are: it spells the template, and no `<` in
its literal texts opens a placeholder.  Each search reads its answer off any layout of the template
(`Layout.Of.placeholders_eq`, `Layout.Of.replace_eq`), and every template has one
(`Layout.exists_of`).  So the searches agree on what is literal text.
-/

namespace DownloadNames.Template

/-! ## The pattern of a placeholder -/

/-- The pattern fits where the text begins with a span of brackets around a text that is not empty
and holds no `>`. -/
theorem placeholderPattern_eq_some_iff {s inner : Text} {more : Nat} :
    placeholderPattern s = some (inner, more) ↔
      inner ≠ [] ∧ '>' ∉ inner ∧ more = inner.length + 1
        ∧ ∃ rest, s = '<' :: inner ++ '>' :: rest := by
  constructor
  · intro h
    cases s with
    | nil => simp [placeholderPattern] at h
    | cons c cs =>
      by_cases hc : c = '<'
      · cases hcut : Text.cutAt? '>' cs with
        | none => simp [placeholderPattern, hc, hcut] at h
        | some r =>
          obtain ⟨inner', rest⟩ := r
          obtain ⟨hclose, hcs⟩ := Text.cutAt?_eq_some_iff.1 hcut
          by_cases hne : inner' = []
          · simp [placeholderPattern, hc, hcut, hne] at h
          · obtain ⟨rfl, rfl⟩ : inner' = inner ∧ inner'.length + 1 = more := by
              simpa [placeholderPattern, hc, hcut, hne] using h
            exact ⟨hne, hclose, rfl, rest, by rw [hc, hcs]; rfl⟩
      · simp [placeholderPattern, hc] at h
  · rintro ⟨hne, hclose, rfl, rest, rfl⟩
    have hcut : Text.cutAt? '>' (inner ++ '>' :: rest) = some (inner, rest) :=
      Text.cutAt?_eq_some_iff.2 ⟨hclose, rfl⟩
    simp [placeholderPattern, hcut, hne]

/-- No placeholder stands at the front unless a `<` does, with a `>` behind it but not directly
behind it. -/
theorem placeholderPattern_cons_eq_none_iff {c : Char} {cs : Text} :
    placeholderPattern (c :: cs) = none ↔
      (c = '<' → cs.head? = some '>' ∨ '>' ∉ cs) := by
  constructor
  · rintro hnone rfl
    rw [Decidable.or_iff_not_imp_right, Decidable.not_not]
    intro hmem
    obtain ⟨inner, rest, rfl, hclose⟩ := List.eq_append_cons_of_mem hmem
    -- the pattern would fit if anything stood before the first `>`
    cases inner with
    | nil => rfl
    | cons d ds =>
      have hsome := placeholderPattern_eq_some_iff.2
        ⟨List.cons_ne_nil d ds, hclose, rfl, rest, rfl⟩
      rw [List.cons_append, hnone] at hsome
      cases hsome
  · intro h
    rw [Option.eq_none_iff_forall_ne_some]
    rintro ⟨inner, more⟩ hsome
    obtain ⟨hne, hclose, -, rest, hspan⟩ := placeholderPattern_eq_some_iff.1 hsome
    obtain ⟨hc, rfl⟩ := List.cons.inj hspan
    rcases h hc with hhead | hmem
    · cases inner with
      | nil => exact hne rfl
      | cons d ds =>
        have hd : d = '>' := by simpa using hhead
        exact hclose (by rw [hd]; exact List.mem_cons_self)
    · exact hmem (List.mem_append_right _ List.mem_cons_self)

section Span

variable {inner : Text} (hne : inner ≠ []) (hclose : '>' ∉ inner) (rest : Text)
include hne hclose

theorem findAll_span :
    placeholderPattern.findAll ('<' :: inner ++ '>' :: rest) =
      inner :: placeholderPattern.findAll rest := by
  have h := placeholderPattern_eq_some_iff.2 ⟨hne, hclose, rfl, rest, rfl⟩
  rw [List.cons_append] at h ⊢
  rw [Text.Pattern.findAll_cons_of_some h]
  simp

theorem replace_span (f : Text → Text) :
    placeholderPattern.replace f ('<' :: inner ++ '>' :: rest) =
      f inner ++ placeholderPattern.replace f rest := by
  have h := placeholderPattern_eq_some_iff.2 ⟨hne, hclose, rfl, rest, rfl⟩
  rw [List.cons_append] at h ⊢
  rw [Text.Pattern.replace_cons_of_some h]
  simp

end Span

/-- Induction along a search: a template is empty, begins with a character at which no
placeholder stands, or begins with a placeholder. -/
@[elab_as_elim]
theorem search_induction {motive : Text → Prop} (nil : motive [])
    (literal : ∀ c cs, placeholderPattern (c :: cs) = none → motive cs → motive (c :: cs))
    (placeholder : ∀ inner rest, inner ≠ [] → '>' ∉ inner → motive rest →
      motive ('<' :: inner ++ '>' :: rest)) :
    ∀ t, motive t
  | [] => nil
  | c :: cs => by
    cases h : placeholderPattern (c :: cs) with
    | none => exact literal c cs h (search_induction nil literal placeholder cs)
    | some r =>
      obtain ⟨inner, more⟩ := r
      obtain ⟨hne, hclose, -, rest, hspan⟩ := placeholderPattern_eq_some_iff.1 h
      -- the search goes on behind the span
      have hshort : rest.length < cs.length + 1 := by
        rw [← List.length_cons, hspan, List.cons_append, List.length_cons, List.length_append,
          List.length_cons]
        omega
      rw [hspan]
      exact placeholder inner rest hne hclose (search_induction nil literal placeholder rest)
termination_by t => t.length

/-! ## Layouts -/

/-- Literal text, then placeholders each with the literal text that follows it. -/
structure Layout where
  lead : Text
  rest : List (Placeholder × Text)

namespace Layout

/-- The part of a layout behind its first literal text, with `f p` in the place of each
placeholder `p`. -/
def fillRest (f : Placeholder → Text) (rest : List (Placeholder × Text)) : Text :=
  rest.flatMap fun (p, lit) => f p ++ lit

/-- The literal texts with `f p` in the place of each placeholder `p`. -/
def fill (f : Placeholder → Text) (l : Layout) : Text := l.lead ++ fillRest f l.rest

/-- The placeholders in order. -/
def placeholders (l : Layout) : List Placeholder := l.rest.map Prod.fst

/-- The literal texts one after the other. -/
def literal (l : Layout) : Text := l.lead ++ l.rest.flatMap Prod.snd

/-- Each `<` of literal text with `after` behind it is directly followed by a `>` or has no `>`
anywhere behind it. -/
def Stray (lit after : Text) : Prop :=
  ∀ a b, lit = a ++ '<' :: b → (b ++ after).head? = some '>' ∨ '>' ∉ b ++ after

/-- No `<` of the literal texts behind placeholders opens a placeholder. -/
def StrayRest : List (Placeholder × Text) → Prop
  | [] => True
  | (_, lit) :: rest => Stray lit (fillRest Placeholder.raw rest) ∧ StrayRest rest

/-- No `<` of the literal texts opens a placeholder. -/
def BracketsStray (l : Layout) : Prop :=
  Stray l.lead (fillRest Placeholder.raw l.rest) ∧ StrayRest l.rest

@[simp] theorem fillRest_nil (f : Placeholder → Text) : fillRest f [] = [] := rfl

@[simp] theorem fillRest_cons (f : Placeholder → Text) (p : Placeholder) (lit : Text)
    (rest : List (Placeholder × Text)) :
    fillRest f ((p, lit) :: rest) = f p ++ (lit ++ fillRest f rest) := by
  simp [fillRest]

/-- Leaving the placeholders out leaves the literal texts. -/
theorem fill_nil (l : Layout) : l.fill (fun _ => []) = l.literal := by
  simp [fill, fillRest, literal]

/-- What a layout is filled with matters only at its placeholders. -/
theorem fill_congr {f g : Placeholder → Text} {l : Layout}
    (h : ∀ p ∈ l.placeholders, f p = g p) : l.fill f = l.fill g := by
  have hrest : fillRest f l.rest = fillRest g l.rest := by
    rw [fillRest, fillRest, List.flatMap_def, List.flatMap_def]
    congr 1
    apply List.map_congr_left
    intro ⟨p, lit⟩ he
    have hp : f p = g p := h p (List.mem_map.2 ⟨_, he, rfl⟩)
    simp only [hp]
  rw [fill, fill, hrest]

/-- What a filled layout holds comes from its literal texts or from a placeholder. -/
theorem mem_fill_iff {f : Placeholder → Text} {l : Layout} {c : Char} :
    c ∈ l.fill f ↔ c ∈ l.literal ∨ ∃ p ∈ l.placeholders, c ∈ f p := by
  simp only [fill, fillRest, literal, placeholders, List.mem_append, List.mem_flatMap,
    List.mem_map]
  constructor
  · rintro (h | ⟨⟨p, lit⟩, hp, h | h⟩)
    · exact Or.inl (Or.inl h)
    · exact Or.inr ⟨p, ⟨_, hp, rfl⟩, h⟩
    · exact Or.inl (Or.inr ⟨_, hp, h⟩)
  · rintro ((h | ⟨q, hq, h⟩) | ⟨p, ⟨q, hq, rfl⟩, h⟩)
    · exact Or.inl h
    · exact Or.inr ⟨q, hq, Or.inr h⟩
    · exact Or.inr ⟨q, hq, Or.inl h⟩

/-- A filled layout is as long as its literal texts and what they are filled with. -/
theorem length_fill (f : Placeholder → Text) (l : Layout) :
    (l.fill f).length = l.literal.length + (l.placeholders.flatMap f).length := by
  obtain ⟨lead, rest⟩ := l
  have hrest : (fillRest f rest).length
      = (rest.flatMap Prod.snd).length + ((rest.map Prod.fst).flatMap f).length := by
    induction rest with
    | nil => rfl
    | cons e rest ih =>
      obtain ⟨p, lit⟩ := e
      simp only [fillRest_cons, List.flatMap_cons, List.map_cons, List.length_append, ih]
      omega
  rw [fill, literal, placeholders, List.length_append, List.length_append, hrest, Nat.add_assoc]

/-- Only nothing can be filled in without changing the literal texts. -/
theorem fill_eq_literal_iff {f : Placeholder → Text} {l : Layout} :
    l.fill f = l.literal ↔ ∀ p ∈ l.placeholders, f p = [] := by
  constructor
  · intro h
    have hlength := length_fill f l
    rw [h] at hlength
    have hnone : l.placeholders.flatMap f = [] := List.length_eq_zero_iff.1 (by omega)
    exact List.flatMap_eq_nil_iff.1 hnone
  · intro h
    rw [← fill_nil]
    exact fill_congr h

/-! ## Searching stray text -/

theorem stray_nil (after : Text) : Stray [] after := by
  intro a b h
  simp at h

/-- Text is stray if no placeholder stands at its first character and its rest is stray. -/
theorem stray_cons_iff {c : Char} {lit after : Text} :
    Stray (c :: lit) after ↔
      placeholderPattern (c :: (lit ++ after)) = none ∧ Stray lit after := by
  rw [placeholderPattern_cons_eq_none_iff]
  constructor
  · intro h
    exact ⟨fun hc => h [] lit (by rw [hc]; rfl), fun a b hlit => h (c :: a) b (by rw [hlit]; rfl)⟩
  · rintro ⟨hfront, hlit⟩ a b h
    cases a with
    | nil =>
      obtain ⟨rfl, rfl⟩ := List.cons.inj h
      exact hfront rfl
    | cons d ds => exact hlit ds b (List.cons.inj h).2

theorem findAll_stray {lit after : Text} (h : Stray lit after) :
    placeholderPattern.findAll (lit ++ after) = placeholderPattern.findAll after := by
  induction lit with
  | nil => rfl
  | cons c cs ih =>
    -- the pattern sees the text behind `lit` too, so strayness is judged with it
    obtain ⟨hnone, hcs⟩ := stray_cons_iff.1 h
    rw [List.cons_append, Text.Pattern.findAll_cons_of_none hnone, ih hcs]

theorem replace_stray {f : Text → Text} {lit after : Text} (h : Stray lit after) :
    placeholderPattern.replace f (lit ++ after) = lit ++ placeholderPattern.replace f after := by
  induction lit with
  | nil => rfl
  | cons c cs ih =>
    obtain ⟨hnone, hcs⟩ := stray_cons_iff.1 h
    rw [List.cons_append, Text.Pattern.replace_cons_of_none hnone, ih hcs]
    rfl

/-! ## The layout of a template -/

/-- The layout of a template: stray text, then spans of brackets around texts without a `>`, each
followed by stray text. -/
inductive Of : Layout → Text → Prop
  | literal {lit : Text} (hlit : Stray lit []) : Of ⟨lit, []⟩ lit
  | span {lead inner lit after : Text} {rest : List (Placeholder × Text)}
      (hlead : Stray lead ('<' :: inner ++ '>' :: after)) (hne : inner ≠ []) (hclose : '>' ∉ inner)
      (hafter : Of ⟨lit, rest⟩ after) :
      Of ⟨lead, (.parse inner, lit) :: rest⟩ (lead ++ ('<' :: inner ++ '>' :: after))

section Searches

variable {l : Layout} {template : Text}

/-- A layout spells its template. -/
theorem Of.fill_raw (h : l.Of template) : l.fill Placeholder.raw = template := by
  induction h with
  | literal => simp [fill]
  | span _ _ _ _ ih =>
    simp only [fill] at ih
    simp [fill, ih, Placeholder.parse]

/-- The search for placeholders finds those of the layout. -/
theorem Of.placeholders_eq (h : l.Of template) :
    Template.placeholders template = l.placeholders := by
  induction h with
  | literal hlit =>
    have h := findAll_stray hlit
    rw [List.append_nil] at h
    rw [Template.placeholders, h]
    rfl
  | span hlead hne hclose _ ih =>
    -- the search passes over the stray text, takes the span and goes on behind it
    rw [Template.placeholders, findAll_stray hlead, findAll_span hne hclose, List.map_cons]
    rw [Template.placeholders] at ih
    rw [ih]
    rfl

/-- A search that replaces the placeholders fills the layout. -/
theorem Of.replace_eq (h : l.Of template) (f : Placeholder → Text) :
    placeholderPattern.replace (fun inner => f (.parse inner)) template = l.fill f := by
  induction h with
  | literal hlit =>
    -- nothing stands behind the last literal text
    have h := replace_stray (f := fun inner => f (.parse inner)) hlit
    rw [List.append_nil] at h
    simpa [fill] using h
  | span hlead hne hclose _ ih =>
    rw [replace_stray hlead, replace_span hne hclose, ih]
    simp [fill]

theorem Of.expand_eq (h : l.Of template) (table : Bindings) :
    expand template table = l.fill (·.value table) :=
  h.replace_eq fun p => p.value table

theorem Of.literalText_eq (h : l.Of template) : literalText template = l.literal := by
  rw [← fill_nil]
  exact h.replace_eq fun _ => []

/-- No `<` in the literal texts of a layout opens a placeholder. -/
theorem Of.bracketsStray (h : l.Of template) : l.BracketsStray := by
  induction h with
  | literal hlit => exact ⟨hlit, trivial⟩
  | @span lead inner lit after rest hlead hne hclose hafter ih =>
    -- what stands behind the first literal text is what the placeholders and the others spell
    have hraw : fillRest Placeholder.raw ((.parse inner, lit) :: rest) =
        '<' :: inner ++ '>' :: after := by
      rw [← hafter.fill_raw]
      simp [fill, Placeholder.parse]
    refine ⟨?_, ih⟩
    rw [hraw]
    exact hlead

/-- A character at which no placeholder stands joins the first literal text. -/
theorem Of.cons {c : Char} {cs lead : Text} {rest : List (Placeholder × Text)}
    (hc : placeholderPattern (c :: cs) = none) (h : Of ⟨lead, rest⟩ cs) :
    Of ⟨c :: lead, rest⟩ (c :: cs) := by
  cases h with
  | literal hlit => exact .literal (stray_cons_iff.2 ⟨by simpa using hc, hlit⟩)
  | span hlead hne hclose hafter =>
    exact .span (stray_cons_iff.2 ⟨hc, hlead⟩) hne hclose hafter

end Searches

/-- Every template has a layout. -/
theorem exists_of (template : Text) : ∃ l : Layout, l.Of template := by
  induction template using search_induction with
  | nil => exact ⟨_, .literal (stray_nil [])⟩
  | literal c cs hnone ih =>
    obtain ⟨⟨lead, rest⟩, h⟩ := ih
    exact ⟨_, h.cons hnone⟩
  | placeholder inner rest hne hclose ih =>
    obtain ⟨⟨lit, rest⟩, h⟩ := ih
    exact ⟨⟨[], (.parse inner, lit) :: rest⟩, .span (stray_nil _) hne hclose h⟩

end Layout

/-! ## One segmentation -/

/-- The placeholders found in a template have alternatives, so each has a value. -/
theorem checkedValue_of_mem_placeholders {template : Text} {p : Placeholder}
    (hp : p ∈ placeholders template) (table : Bindings) :
    p.checkedValue table = .ok (p.value table) := by
  obtain ⟨inner, -, rfl⟩ := List.mem_map.1 hp
  exact Placeholder.checkedValue_of_ne_nil (Placeholder.alternatives_parse_ne_nil inner) table

/-- What an expansion holds comes from literal text or from the value of a placeholder. -/
theorem mem_expand_iff {template : Text} {table : Bindings} {c : Char} :
    c ∈ expand template table ↔
      c ∈ literalText template ∨ ∃ p ∈ placeholders template, c ∈ p.value table := by
  obtain ⟨l, h⟩ := Layout.exists_of template
  rw [h.expand_eq, h.literalText_eq, h.placeholders_eq, Layout.mem_fill_iff]

/-- An expansion is the literal text if every placeholder stands for nothing, and only then. -/
theorem expand_eq_literalText_iff {template : Text} {table : Bindings} :
    expand template table = literalText template ↔
      ∀ p ∈ placeholders template, p.value table = [] := by
  obtain ⟨l, hl⟩ := Layout.exists_of template
  rw [hl.expand_eq, hl.literalText_eq, hl.placeholders_eq, Layout.fill_eq_literal_iff]

/-- Finding the placeholders of a template, expanding it with any table and leaving its
placeholders out all cut it at the same places: there are literal texts between which the template
has its placeholders, the expansion their values, and the text that is checked nothing.  A `<`
in one of the literal texts is directly followed by `>` or has no `>` behind it. -/
theorem searches_share_layout (template : Text) :
    ∃ l : Layout, placeholders template = l.placeholders
      ∧ template = l.fill Placeholder.raw
      ∧ (∀ table, expand template table = l.fill (·.value table)
          ∧ ∀ p ∈ placeholders template, p.checkedValue table = .ok (p.value table))
      ∧ literalText template = l.literal
      ∧ l.BracketsStray := by
  obtain ⟨l, h⟩ := Layout.exists_of template
  refine ⟨l, h.placeholders_eq, h.fill_raw.symm, fun table => ?_, h.literalText_eq,
    h.bracketsStray⟩
  exact ⟨h.expand_eq table, fun p hp => checkedValue_of_mem_placeholders hp table⟩

end DownloadNames.Template
