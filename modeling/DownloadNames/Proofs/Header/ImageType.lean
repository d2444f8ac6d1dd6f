import DownloadNames.Header.Mime
import DownloadNames.Proofs.Settings.Checks

/-
The extension of an image type under overrides that have been checked.

Checking lower-cases the subtypes of overrides and drops the dots before their extensions; reading a
type cuts off its parameters, trims the subtype and lower-cases it.  Together, a subtype is
overridden by the last pair that names it in any spelling (`find?_checkOverrides`).
-/

namespace DownloadNames.Header

open Assoc (find? lastValue?)
open LoadedSettings (tableEntries)

/-! ## The subtype of a media type -/

/-- An image type with its subtype written `raw`: what follows is nothing or begins with `;`. -/
def IsImageType (contentType raw : Text) : Prop :=
  ∃ params, contentType = imageType ++ (raw ++ params) ∧ ';' ∉ raw ∧ ∀ c ∈ params.head?, c = ';'

theorem takeWhile_subtype {raw params : Text} (hraw : ';' ∉ raw)
    (hparams : ∀ c ∈ params.head?, c = ';') :
    (raw ++ params).takeWhile (· != ';') = raw := by
  apply Text.takeWhile_append_stop
  · intro c hc
    rw [bne_iff_ne]
    rintro rfl
    exact hraw hc
  · intro c hc
    rw [hparams c hc]
    rfl

/-- The subtype of a text: what is written between `image/` and `;`, trimmed and lower-cased. -/
theorem imageSubtype?_eq_some_iff {contentType subtype : Text} :
    imageSubtype? contentType = some subtype ↔
      ∃ raw, IsImageType contentType raw ∧ Text.trim raw ≠ []
        ∧ subtype = Text.lower (Text.trim raw) := by
  constructor
  · intro h
    cases hafter : Text.after? imageType contentType with
    | none => simp [imageSubtype?, hafter] at h
    | some rest =>
      obtain ⟨hne, rfl⟩ : Text.trim (rest.takeWhile (· != ';')) ≠ []
          ∧ Text.lower (Text.trim (rest.takeWhile (· != ';'))) = subtype := by
        simpa [imageSubtype?, hafter] using h
      -- the subtype goes as far as there is no `;`
      refine ⟨rest.takeWhile (· != ';'), ⟨rest.dropWhile (· != ';'), ?_, ?_, ?_⟩, hne, rfl⟩
      · rw [List.takeWhile_append_dropWhile]
        exact Text.after?_eq_some_iff.1 hafter
      · intro hmem
        have hall := List.all_eq_true.1 (List.all_takeWhile (p := (· != ';')) (l := rest)) ';' hmem
        simp at hall
      · intro c hc
        have hhead := List.head?_dropWhile_not (· != ';') rest
        rw [Option.mem_def.1 hc] at hhead
        simpa using hhead
  · rintro ⟨raw, ⟨params, rfl, hraw, hparams⟩, hne, rfl⟩
    have hafter : Text.after? imageType (imageType ++ (raw ++ params)) = some (raw ++ params) :=
      Text.after?_eq_some_iff.2 rfl
    simp [imageSubtype?, hafter, takeWhile_subtype hraw hparams, hne]

/-- The extension of an image type is that of its subtype. -/
theorem imageExtension_of_isImageType {contentType raw : Text} (h : IsImageType contentType raw)
    (overrides : MimeOverrides) :
    imageExtension contentType overrides
      = if Text.trim raw = [] then none
        else some ('.' :: (find? (Text.lower (Text.trim raw)) overrides).getD
          (Text.lower (Text.trim raw))) := by
  obtain ⟨params, rfl, hraw, hparams⟩ := h
  have hafter : Text.after? imageType (imageType ++ (raw ++ params)) = some (raw ++ params) :=
    Text.after?_eq_some_iff.2 rfl
  simp only [imageExtension, imageSubtype?, hafter, takeWhile_subtype hraw hparams,
    Text.lower_eq_nil_iff]
  split <;> rfl

section Blanks

variable {s before behind : Text}

/-- Blanks around a subtype belong to what is written, and what follows a `;` does not. -/
theorem isImageType_between_blanks (hs : ';' ∉ s) (hbefore : ∀ c ∈ before, Text.isBlank c = true)
    (hbehind : ∀ c ∈ behind, Text.isBlank c = true) (text : Text) :
    IsImageType (imageType ++ before ++ s ++ behind ++ ';' :: text) (before ++ s ++ behind) := by
  have hblank : ∀ w : Text, (∀ c ∈ w, Text.isBlank c = true) → ';' ∉ w := fun w hw hmem =>
    absurd (hw ';' hmem) (by decide)
  refine ⟨';' :: text, by simp, ?_, by simp⟩
  simp [hs, hblank before hbefore, hblank behind hbehind]

theorem trim_between_blanks (hbefore : ∀ c ∈ before, Text.isBlank c = true)
    (hbehind : ∀ c ∈ behind, Text.isBlank c = true) :
    Text.trim (before ++ s ++ behind) = Text.trim s := by
  rw [Text.trim, Text.trimBy_append_right hbehind, Text.trimBy_append_left hbefore, Text.trim]

end Blanks

/-! ## Checked overrides -/

section Overrides

variable {v : Value} {pairs : List (Text × Text)} {overrides : MimeOverrides} {subtype : Text}
  (h : Settings.checkOverrides v = .ok overrides)

include h

/-- A subtype is overridden by the last pair whose subtype is the same in lower case. -/
theorem find?_checkOverrides (hpairs : Settings.checkTexts v = .ok pairs) (subtype : Text) :
    find? subtype overrides
      = (lastValue? (fun name => Text.lower name = subtype) pairs).map
          (List.dropWhile (· == '.')) := by
  obtain ⟨table, htable, rfl⟩ := Settings.checkOverrides_eq_ok_iff.1 h
  rw [hpairs, Except.ok.injEq] at htable
  rw [← htable, Settings.lowerNames, Assoc.find?_putAll_map, Assoc.lastValue?_map_values]

theorem find?_checkOverrides_of_split {first rest : List (Text × Text)} {name ext : Text}
    (hpairs : Settings.checkTexts v = .ok (first ++ (name, ext) :: rest))
    (hname : Text.lower name = subtype) (hrest : ∀ pair ∈ rest, Text.lower pair.1 ≠ subtype) :
    find? subtype overrides = some (ext.dropWhile (· == '.')) := by
  have hlast : lastValue? (fun name => Text.lower name = subtype) (first ++ (name, ext) :: rest)
      = some ext :=
    Assoc.lastValue?_eq_some_iff.2 ⟨first, name, rest, rfl, by simpa using hname,
      fun pair hpair => by simpa using hrest pair hpair⟩
  rw [find?_checkOverrides h hpairs, hlast, Option.map_some]

theorem find?_checkOverrides_of_forall_ne (hpairs : Settings.checkTexts v = .ok pairs)
    (hnone : ∀ pair ∈ pairs, Text.lower pair.1 ≠ subtype) : find? subtype overrides = none := by
  have hlast : lastValue? (fun name => Text.lower name = subtype) pairs = none := by
    rw [← Option.not_isSome_iff_eq_none, Assoc.lastValue?_isSome_iff]
    rintro ⟨pair, hpair, hname⟩
    exact hnone pair hpair (by simpa using hname)
  rw [find?_checkOverrides h hpairs, hlast, Option.map_none]

end Overrides

/-- Whatever blanks stand around the subtype and whatever parameters follow it, an image type has
the extension of the last override that names its subtype in any spelling, without leading dots, and
otherwise its subtype in lower case; a blank subtype has none.  The overrides are the pairs of texts
that are given, or that are spelled where bytes are given. -/
theorem imageExtension_checked {v : Value} {overrides : MimeOverrides}
    (h : Settings.checkOverrides v = .ok overrides) :
    ∃ pairs, Settings.checkTexts v = .ok pairs
      ∧ (¬ Settings.GivesBytes v → v = tableEntries pairs)
      ∧ ∀ s before behind text : Text, ';' ∉ s → (∀ c ∈ before, Text.isBlank c = true) →
        (∀ c ∈ behind, Text.isBlank c = true) →
          let subtype := Text.lower (Text.trim s)
          let ext := imageExtension (imageType ++ before ++ s ++ behind ++ ';' :: text) overrides
          ext = imageExtension (imageType ++ s) overrides
            ∧ (ext = none ↔ ∀ c ∈ s, Text.isBlank c = true)
            ∧ (subtype ≠ [] →
              (∀ first name e rest, pairs = first ++ (name, e) :: rest →
                Text.lower name = subtype → (∀ pair ∈ rest, Text.lower pair.1 ≠ subtype) →
                ext = some ('.' :: e.dropWhile (· == '.')))
              ∧ ((∀ pair ∈ pairs, Text.lower pair.1 ≠ subtype) → ext = some ('.' :: subtype))) := by
  obtain ⟨pairs, hpairs, -⟩ := Settings.checkOverrides_eq_ok_iff.1 h
  refine ⟨pairs, hpairs, Settings.eq_tableEntries_of_checkTexts hpairs, ?_⟩
  intro s before behind text hs hbefore hbehind subtype ext
  have hplain : IsImageType (imageType ++ s) s := ⟨[], by simp, hs, by simp⟩
  have hext : ext = if Text.trim s = [] then none
      else some ('.' :: (find? subtype overrides).getD subtype) := by
    have hread := imageExtension_of_isImageType
      (isImageType_between_blanks hs hbefore hbehind text) overrides
    rwa [trim_between_blanks hbefore hbehind] at hread
  refine ⟨hext.trans (imageExtension_of_isImageType hplain overrides).symm, ?_, fun hne => ?_⟩
  · rw [hext, ← Text.trimBy_eq_nil_iff]
    split
    · next hblank => exact iff_of_true rfl hblank
    · next hblank => exact iff_of_false (Option.some_ne_none _) hblank
  · have hsome : ext = some ('.' :: (find? subtype overrides).getD subtype) :=
      hext.trans (if_neg (mt Text.lower_eq_nil_iff.2 hne))
    constructor
    · rintro first name e rest rfl hname hrest
      rw [hsome, find?_checkOverrides_of_split h hpairs hname hrest, Option.getD_some]
    · intro hnone
      rw [hsome, find?_checkOverrides_of_forall_ne h hpairs hnone, Option.getD_none]

/-- Two spellings of one subtype, and a subtype that is not overridden. -/
theorem imageExtension_checked_spellings :
    let given : List (Text × Text) := [("SVG+xml".toList, "..vec".toList),
      ("png".toList, ".p".toList), ("svg+XML".toList, ".svg".toList)]
    ∃ overrides, Settings.checkOverrides (tableEntries given) = .ok overrides
      ∧ imageExtension "image/\t Svg+Xml ; charset=utf-8".toList overrides = some ".svg".toList
      ∧ imageExtension "image/WebP \t;".toList overrides = some ".webp".toList
      ∧ imageExtension "image/ ;".toList overrides = none := by
  intro given
  have hchecked : Settings.checkOverrides (tableEntries given)
      = .ok [("svg+xml".toList, "svg".toList), ("png".toList, "p".toList)] :=
    Settings.checkOverrides_eq_ok_iff.2
      ⟨given, Settings.checkTexts_tableEntries given, by decide⟩
  obtain ⟨pairs, hpairs, -, hall⟩ := imageExtension_checked hchecked
  obtain rfl : given = pairs := by
    rw [Settings.checkTexts_tableEntries] at hpairs
    exact Except.ok.inj hpairs
  have hsvg : Text.lower (Text.trim "Svg+Xml".toList) = "svg+xml".toList := by decide
  have hwebp : Text.lower (Text.trim "WebP".toList) = "webp".toList := by decide
  have hblanks : ∀ w : Text, w.all Text.isBlank = true → ∀ c ∈ w, Text.isBlank c = true :=
    fun _ => List.all_eq_true.1
  refine ⟨_, hchecked, ?_, ?_, ?_⟩
  · -- the third pair spells the subtype in a way of its own and has the last word
    obtain ⟨-, -, hoverride⟩ := hall "Svg+Xml".toList ['\t', ' '] [' '] " charset=utf-8".toList
      (by decide) (hblanks _ (by decide)) (hblanks _ (by decide))
    rw [hsvg] at hoverride
    exact (hoverride (by decide)).1 (given.take 2) "svg+XML".toList ".svg".toList [] rfl
      (by decide) (List.forall_mem_nil _)
  · obtain ⟨-, -, hoverride⟩ := hall "WebP".toList [] [' ', '\t'] [] (by decide)
      (hblanks _ (by decide)) (hblanks _ (by decide))
    rw [hwebp] at hoverride
    exact (hoverride (by decide)).2 (by decide)
  · exact (hall [] [' '] [] [] (by decide) (hblanks _ (by decide))
      (hblanks _ (by decide))).2.1.2 (List.forall_mem_nil _)

end DownloadNames.Header
