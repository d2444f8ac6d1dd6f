import DownloadNames.Proofs.Header.ImageType
import DownloadNames.Proofs.Header.Resolution
import DownloadNames.Proofs.Path.FileName

/-
When the file name suggested for a download is a single part of a path, and which extension it has.

The name that the server gives is sanitized, and so is the fallback.  The extension of the image
type is not: where the sanitized name has no extension, an excluded character in the override of the
subtype, or in the subtype itself, gets into the file name.

The extension of a guess is read off the name as it is given, that of the suggested name off the
sanitized name.  Both find the same last dot (`Path.extension_safeName`).
-/

namespace DownloadNames.Header

open DownloadNames.Path (CleanName)

/-! ## Image types -/

/-- An excluded character is found in a subtype whether or not it is trimmed and lower-cased. -/
theorem mem_subtype_iff {c : Char} (hc : Path.isForbiddenInName c = true) {raw : Text} :
    c ∈ Text.lower (Text.trim raw) ↔ c ∈ raw := by
  obtain ⟨hmark, hblank⟩ := Path.isMark_of_isForbiddenInName hc
  rw [Text.mem_lower_iff hmark, Text.trim, Text.mem_trimBy_iff hblank]

/-- The type spoils a name to which its extension is appended: the override of its subtype, or
without one the subtype as it is written, holds an excluded character. -/
def SpoilsName (overrides : MimeOverrides) (contentType : Text) : Prop :=
  ∃ raw, IsImageType contentType raw ∧ Text.trim raw ≠ []
    ∧ ¬ CleanName ((Assoc.find? (Text.lower (Text.trim raw)) overrides).getD raw)

/-- The extension of a type is clean unless the type spoils a name. -/
theorem spoilsName_iff {overrides : MimeOverrides} {contentType : Text} :
    SpoilsName overrides contentType ↔
      ∃ ext, imageExtension contentType overrides = some ext ∧ ¬ CleanName ext := by
  -- trimming and lower-casing change nothing about excluded characters, nor does the dot
  have hsame : ∀ raw, CleanName ((Assoc.find? (Text.lower (Text.trim raw)) overrides).getD raw) ↔
      CleanName ('.' :: (Assoc.find? (Text.lower (Text.trim raw)) overrides).getD
        (Text.lower (Text.trim raw))) := by
    intro raw
    refine Iff.trans ?_ (Text.lacks_cons_iff.trans (and_iff_right (by decide))).symm
    cases Assoc.find? (Text.lower (Text.trim raw)) overrides with
    | some ext => rfl
    | none =>
      rw [← Decidable.not_iff_not, Text.not_lacks_iff, Text.not_lacks_iff]
      exact exists_congr fun c => and_congr_right fun hc => (mem_subtype_iff hc).symm
  simp only [imageExtension, Option.map_eq_some_iff]
  constructor
  · rintro ⟨raw, htype, hne, hspoils⟩
    rw [hsame] at hspoils
    exact ⟨_, ⟨_, imageSubtype?_eq_some_iff.2 ⟨raw, htype, hne, rfl⟩, rfl⟩, hspoils⟩
  · rintro ⟨_, ⟨subtype, hsubtype, rfl⟩, hspoils⟩
    obtain ⟨raw, htype, hne, rfl⟩ := imageSubtype?_eq_some_iff.1 hsubtype
    exact ⟨raw, htype, hne, by rwa [hsame]⟩

/-! ## The suggested name -/

section Suggested

variable {r : Resolver} {perCall : Option Source} {slot : Slot} {source : Source} {url : Text}
  {headers : Headers} {name : Option Text}

/-- The extension of a guess is that of the media type; an empty one has none. -/
theorem imageExt_guessFrom_iff {overrides : MimeOverrides} {ext : Text} :
    (guessFrom overrides headers name).imageExt = some ext ↔
      ∃ contentType, Assoc.find? contentTypeHeader headers = some (some contentType)
        ∧ imageExtension contentType overrides = some ext := by
  simp only [guessFrom, present?]
  cases Assoc.find? contentTypeHeader headers with
  | none => simp
  | some value =>
    cases value with
    | none => simp
    | some contentType =>
      -- an empty header is passed over, and would give no extension anyway
      cases contentType with
      | nil => simp [imageExtension, imageSubtype?, Text.after?, imageType]
      | cons c cs => simp

/-- The extension of a guess is clean unless the media type spoils names. -/
theorem imageExt_guessFrom_clean_iff {overrides : MimeOverrides} :
    CleanName ((guessFrom overrides headers name).imageExt.getD []) ↔
      ¬ ∃ contentType, Assoc.find? contentTypeHeader headers = some (some contentType)
          ∧ SpoilsName overrides contentType := by
  constructor
  · rintro hclean ⟨contentType, hheader, hspoils⟩
    obtain ⟨ext, hext, hnot⟩ := spoilsName_iff.1 hspoils
    rw [imageExt_guessFrom_iff.2 ⟨contentType, hheader, hext⟩] at hclean
    exact hnot hclean
  · intro hnone
    cases himage : (guessFrom overrides headers name).imageExt with
    | none => exact Text.lacks_nil
    | some ext =>
      obtain ⟨contentType, hheader, hext⟩ := imageExt_guessFrom_iff.1 himage
      refine Decidable.byContradiction fun hnot => hnone ⟨contentType, hheader, ?_⟩
      exact spoilsName_iff.2 ⟨ext, hext, hnot⟩

/-- With a clean replacement, the name suggested for a download is clean, and so a single part of
a path, unless the sanitized name is not empty, has no extension, and gets the one of a media type
that spoils it.  There is no such name where the disposition is undecodable. -/
theorem resolve_safeName_clean_iff {replacement : Text}
    (hchosen : r.chosen? perCall = some (slot, source))
    (hask : source.ask url [dispositionHeader, contentTypeHeader] = .ok headers)
    (hreplacement : CleanName replacement) (fallback : Text) :
    (∀ error, nameFrom r.codecs headers = .error error →
        (r.resolve url perCall).outcome = .error (.undecodable error))
      ∧ ∀ name, nameFrom r.codecs headers = .ok name →
        ∃ guess, (r.resolve url perCall).outcome = .ok guess ∧ guess.name = name
          ∧ (CleanName (guess.safeName fallback replacement) ↔
              ¬ (Path.safeName (guess.nameOr fallback) replacement ≠ []
                ∧ Path.extension (Path.safeName (guess.nameOr fallback) replacement) = []
                ∧ ∃ contentType, Assoc.find? contentTypeHeader headers = some (some contentType)
                    ∧ SpoilsName r.overrides contentType)) := by
  have houtcome : (r.resolve url perCall).outcome = (r.readOff url headers).2 := by
    rw [resolve_of_ok hchosen hask]
  refine ⟨fun error hname => ?_, fun name hname => ?_⟩
  · rw [houtcome, readOff_of_error hname]
  · rw [houtcome, readOff_of_ok hname]
    refine ⟨_, rfl, rfl, ?_⟩
    rw [Guess.safeName, Path.completeName_clean_iff hreplacement, imageExt_guessFrom_clean_iff]
    exact ⟨fun h ⟨hne, hnone, hspoils⟩ => h hne hnone hspoils,
      fun h hne hnone hspoils => h ⟨hne, hnone, hspoils⟩⟩

end Suggested

/-- A source that replies to every question with the same headers. -/
def Source.replying (headers : Headers) : Source := ⟨fun _ _ => .ok headers⟩

/-- A resolver that reads `headers` for every address. -/
def Resolver.replying (headers : Headers) (overrides : MimeOverrides) : Resolver :=
  { source := some (.replying headers), overrides := overrides }

/-- A slash in the subtype gets into the name `cat`, which has no extension. -/
theorem resolve_safeName_image_slash :
    ∃ guess, ((Resolver.replying [(contentTypeHeader, some "image/a/b".toList)]
        standardOverrides).resolve "https://h/cat".toList none).outcome = .ok guess
      ∧ CleanName "_".toList
      ∧ ¬ CleanName (guess.safeName "cat".toList "_".toList) := by
  have hclean : CleanName "_".toList := by decide
  have hask : (Source.replying [(contentTypeHeader, some "image/a/b".toList)]).ask
      "https://h/cat".toList [dispositionHeader, contentTypeHeader]
        = .ok [(contentTypeHeader, some "image/a/b".toList)] := rfl
  have hchosen : (Resolver.replying [(contentTypeHeader, some "image/a/b".toList)]
      standardOverrides).chosen? none
        = some (.standard, .replying [(contentTypeHeader, some "image/a/b".toList)]) := rfl
  obtain ⟨-, hnamed⟩ := resolve_safeName_clean_iff hchosen hask hclean "cat".toList
  obtain ⟨guess, hguess, -, hiff⟩ := hnamed none rfl
  refine ⟨guess, hguess, hclean, fun h => hiff.1 h ?_⟩
  have hname : guess.nameOr "cat".toList = "cat".toList := by
    cases hguess
    decide
  rw [hname]
  refine ⟨by decide, by decide, "image/a/b".toList, by decide, ?_⟩
  exact ⟨"a/b".toList, ⟨[], by decide, by decide, by simp⟩, by decide,
    by decide⟩

/-- Not every suggested name is a single part of a path, whatever the overrides that pass the
check of settings. -/
theorem not_all_safeName_clean :
    ¬ ∀ (disposition contentType : Option Text) (given : Value) (overrides : MimeOverrides)
        (url fallback replacement : Text) (guess : Guess),
      Settings.checkOverrides given = .ok overrides → CleanName replacement →
      ((Resolver.replying [(dispositionHeader, disposition), (contentTypeHeader, contentType)]
        overrides).resolve url none).outcome = .ok guess →
      CleanName (guess.safeName fallback replacement) := by
  intro hall
  have hclean := hall none (some "image/a/b".toList) (.map []) [] [] "cat".toList "_".toList
    ⟨none, some ".a/b".toList⟩ rfl (by decide) (by rfl)
  exact absurd hclean (by decide)

/-! ## The extension of the suggested name -/

section Extension

variable {g : Guess} {given replacement : Text}

theorem Guess.nameOr_of_some (hname : g.name = some given) (hne : given ≠ []) (fallback : Text) :
    g.nameOr fallback = given := by
  obtain ⟨c, cs, rfl⟩ := List.exists_cons_of_ne_nil hne
  rw [Guess.nameOr, hname]

theorem Guess.extension_of_some (hname : g.name = some given) :
    g.extension = if Path.extension given = [] then g.imageExt else some (Path.extension given) := by
  rw [Guess.extension, hname]
  rfl

/-- The name suggested from a guess has the sanitized extension of the guess: that of the given name,
or else that of the image type. -/
theorem Guess.safeName_keeps_extension (hname : g.name = some given) (hgiven : given ≠ [])
    (hslash : '/' ∉ given) (hcolon : ':' ∉ given)
    (himage : ∀ ext ∈ g.imageExt, Path.IsExtension ext) (hreplacement : CleanName replacement)
    (hne : replacement ≠ []) (hdot : '.' ∉ replacement) (fallback : Text) :
    Path.extension (g.safeName fallback replacement)
      = Path.safeName (g.extension.getD []) replacement := by
  have hsame := Path.extension_safeName hslash hcolon hreplacement hne hdot
  rw [Guess.safeName, Guess.nameOr_of_some hname hgiven, Guess.extension_of_some hname]
  by_cases hnone : Path.extension given = []
  · -- neither the name nor the sanitized name has an extension
    rw [hnone] at hsame
    rw [if_pos hnone]
    have hsome : Path.safeName given replacement ≠ [] := fun hnil =>
      hgiven ((Path.safeName_eq_nil_iff hne).1 hnil)
    have hopen : ¬ Path.IsComplete (Path.safeName given replacement) :=
      not_or.2 ⟨hsome, not_not_intro hsame⟩
    cases hext : g.imageExt with
    | none => rwa [Option.getD_none, Path.completeName_nil_ext]
    | some ext =>
      have hform : Path.IsExtension ext := himage ext hext
      rw [Option.getD_some, Path.completeName_of_not_isComplete hform.ne_nil hopen,
        hform.extension_append (Path.safeName_clean hreplacement given),
        Path.safeName_eq_self hform.clean]
  · have hsafe : Path.extension (Path.safeName given replacement) ≠ [] := by
      rw [hsame, ne_eq, Path.safeName_eq_nil_iff hne]
      exact hnone
    rw [if_neg hnone, Option.getD_some, Path.completeName_of_isComplete (Or.inr hsafe), hsame]

/-- A name that ends with a dot has no extension and gets that of the image type.  An extension with
a backslash is one of the given name, and it is sanitized. -/
theorem Guess.safeName_keeps_extension_backslash :
    let bare : Guess := ⟨some "a*b.".toList, some ".webp".toList⟩
    let full : Guess := ⟨some "a.b.p\\g".toList, some ".webp".toList⟩
    let replacement := "--".toList
    ('/' ∉ "a*b.".toList ∧ ':' ∉ "a*b.".toList)
      ∧ ('/' ∉ "a.b.p\\g".toList ∧ ':' ∉ "a.b.p\\g".toList)
      ∧ Path.IsExtension ".webp".toList
      ∧ (CleanName replacement ∧ replacement ≠ [] ∧ '.' ∉ replacement)
      ∧ bare.safeName [] replacement = "a--b..webp".toList
      ∧ Path.extension (bare.safeName [] replacement) = ".webp".toList
      ∧ full.safeName [] replacement = "a.b.p--g".toList
      ∧ Path.extension (full.safeName [] replacement) = ".p--g".toList := by
  intro bare full replacement
  have hbare : '/' ∉ "a*b.".toList ∧ ':' ∉ "a*b.".toList := by decide
  have hfull : '/' ∉ "a.b.p\\g".toList ∧ ':' ∉ "a.b.p\\g".toList := by decide
  have hform : Path.IsExtension ".webp".toList :=
    ⟨"webp".toList, by decide, by decide, by decide, by decide⟩
  have himage : ∀ ext ∈ some ".webp".toList, Path.IsExtension ext := by
    intro ext hext
    rwa [← Option.some.inj hext]
  have hclean : CleanName replacement := by decide
  have hne : replacement ≠ [] := by decide
  have hdot : '.' ∉ replacement := by decide
  have hwebp := Guess.safeName_keeps_extension (g := bare) rfl (by decide) hbare.1 hbare.2 himage
    hclean hne hdot []
  have hown := Guess.safeName_keeps_extension (g := full) rfl (by decide) hfull.1 hfull.2 himage
    hclean hne hdot []
  exact ⟨hbare, hfull, hform, ⟨hclean, hne, hdot⟩, by decide, hwebp.trans (by decide), by decide,
    hown.trans (by decide)⟩

end Extension

end DownloadNames.Header
