import DownloadNames.Proofs.Path.Parts

/-
Which paths name a file, and names that are completed so that they do.

`FileForm` is the grammar of a path that names a file.  Sanitizing a name keeps its dots, so it cuts
the name where its extension begins (`extension_safeName`).  Completing a name either leaves it
alone or gives it an extension, and a name with an extension is left alone (`completeName_eq_self`),
so that completing it once more changes nothing.
-/

namespace DownloadNames.Path

open Text (lacks_append_iff lacks_cons_iff)

/-! ## The grammar of file names -/

/-- A folder part, a stem, a dot and an extension: the stem and the extension are not empty, neither
holds a slash, and the extension holds no dot. -/
structure FileForm (path dir body ext : Text) : Prop where
  path_eq : path = dir ++ (body ++ '.' :: ext)
  dir_end : dir = [] ∨ dir.getLast? = some '/'
  body_ne_nil : body ≠ []
  slash_not_mem_body : '/' ∉ body
  ext_ne_nil : ext ≠ []
  dot_not_mem_ext : '.' ∉ ext
  slash_not_mem_ext : '/' ∉ ext

section Form

variable {path dir body ext : Text}

theorem slash_not_mem_append_dot_cons_iff :
    '/' ∉ body ++ '.' :: ext ↔ '/' ∉ body ∧ '/' ∉ ext := by
  have hdot : '/' ≠ '.' := by decide
  rw [List.mem_append, List.mem_cons, not_or, not_or, and_iff_right hdot]

theorem FileForm.name_eq (h : FileForm path dir body ext) (hclean : CleanPath path) :
    name path = body ++ '.' :: ext := by
  have hslash : '/' ∉ body ++ '.' :: ext :=
    slash_not_mem_append_dot_cons_iff.2 ⟨h.slash_not_mem_body, h.slash_not_mem_ext⟩
  have hbase : base path = body ++ '.' :: ext := by
    rw [h.path_eq, base_append h.dir_end hslash]
  rw [name_eq_base_of_clean hclean, hbase]

theorem FileForm.stem_eq (h : FileForm path dir body ext) (hclean : CleanPath path) :
    stem path = body :=
  stem_of_name (h.name_eq hclean) h.dot_not_mem_ext

theorem FileForm.extension_eq (h : FileForm path dir body ext) (hclean : CleanPath path) :
    extension path = '.' :: ext := by
  rw [extension_of_name (h.name_eq hclean) h.dot_not_mem_ext, if_neg h.ext_ne_nil]

/-- A path of this form ends as its extension does, with neither a dot nor a slash. -/
theorem FileForm.getLast?_ne (h : FileForm path dir body ext) :
    path.getLast? ≠ some '.' ∧ path.getLast? ≠ some '/' := by
  obtain ⟨x, c, hext⟩ : ∃ x c, ext = x ++ [c] :=
    ⟨_, _, (List.dropLast_concat_getLast h.ext_ne_nil).symm⟩
  have hc : c ∈ ext := by
    rw [hext]
    exact List.mem_append_right x (List.mem_singleton_self c)
  have hlast : path.getLast? = some c := by
    have hpath : path = dir ++ (body ++ '.' :: x) ++ [c] := by
      rw [h.path_eq, hext]
      simp
    rw [hpath, List.getLast?_concat]
  rw [hlast]
  constructor
  · intro hdot
    exact h.dot_not_mem_ext (Option.some.inj hdot ▸ hc)
  · intro hslash
    exact h.slash_not_mem_ext (Option.some.inj hslash ▸ hc)

/-- A path whose stem and extension are not empty is its folder part, these two and nothing else. -/
theorem exists_fileForm (hclean : CleanPath path) (hstem : stem path ≠ [])
    (hext : extension path ≠ []) : ∃ dir body ext, FileForm path dir body ext := by
  obtain ⟨dir, hpath, hdir⟩ := exists_eq_append_base path
  have hname := name_eq_base_of_clean hclean
  rcases not_mem_or_last '.' (name path) with hnone | ⟨body, ext, hcut, hdot⟩
  · exact absurd (extension_of_not_mem hnone) hext
  · -- what stands around the last dot of the file name is the stem and the extension
    rw [stem_of_name hcut hdot] at hstem
    rw [extension_of_name hcut hdot] at hext
    have hslash : '/' ∉ body ++ '.' :: ext := by
      rw [← hcut]
      exact slash_not_mem_name path
    obtain ⟨hbody, hafter⟩ := slash_not_mem_append_dot_cons_iff.1 hslash
    refine ⟨dir, body, ext, ?_, hdir, hstem, hbody, ?_, hdot, hafter⟩
    · rw [← hcut, hname]
      exact hpath
    · rintro rfl
      exact hext rfl

theorem namesFile_iff :
    namesFile path = true ↔ isUsable path = true ∧ stem path ≠ [] ∧ extension path ≠ [] := by
  simp only [namesFile, Bool.and_eq_true, bne_iff_ne, and_assoc]

theorem namesFile_iff_exists_fileForm :
    namesFile path = true ↔
      path.head? ≠ some '.' ∧ CleanPath path ∧ ∃ dir body ext, FileForm path dir body ext := by
  rw [namesFile_iff, isUsable_iff]
  constructor
  · rintro ⟨⟨-, hhead, -, hclean⟩, hstem, hext⟩
    exact ⟨hhead, hclean, exists_fileForm hclean hstem hext⟩
  · rintro ⟨hhead, hclean, dir, body, ext, h⟩
    have hne : path ≠ [] := by
      rw [h.path_eq]
      exact List.append_ne_nil_of_right_ne_nil dir
        (List.append_ne_nil_of_left_ne_nil h.body_ne_nil _)
    rw [h.stem_eq hclean, h.extension_eq hclean]
    exact ⟨⟨hne, hhead, h.getLast?_ne, hclean⟩, h.body_ne_nil, List.cons_ne_nil '.' ext⟩

/-- A path names a file exactly if it holds no excluded character, does not start with a dot, and is
a folder part, a stem, a dot and an extension.  Then there is one stem and one extension that it is
made of. -/
theorem namesFile_grammar (path : Text) :
    (namesFile path = true ↔
        path.head? ≠ some '.' ∧ CleanPath path ∧ ∃ dir body ext, FileForm path dir body ext)
      ∧ ∀ dir body ext, CleanPath path → FileForm path dir body ext →
          body = stem path ∧ '.' :: ext = extension path :=
  ⟨namesFile_iff_exists_fileForm,
    fun _ _ _ hclean h => ⟨(h.stem_eq hclean).symm, (h.extension_eq hclean).symm⟩⟩

/-- A hidden file with several dots, in a folder whose name has a dot. -/
theorem namesFile_grammar_hidden :
    let path := "a.b//..x.tar.gz".toList
    CleanPath path ∧ FileForm path "a.b//".toList "..x.tar".toList "gz".toList
      ∧ namesFile path = true
      ∧ "..x.tar".toList = stem path ∧ ".gz".toList = extension path := by
  intro path
  have hclean : CleanPath path := by decide
  have hform : FileForm path "a.b//".toList "..x.tar".toList "gz".toList :=
    ⟨by decide, by decide, by decide, by decide, by decide, by decide, by decide⟩
  obtain ⟨haccept, hparts⟩ := namesFile_grammar path
  exact ⟨hclean, hform, haccept.2 ⟨by decide, hclean, _, _, _, hform⟩, hparts _ _ _ hclean hform⟩

end Form

/-! ## Names that are single parts of a path -/

section Single

variable {s : Text}

theorem cleanPath_of_cleanName (h : CleanName s) : CleanPath s :=
  fun c hc => (Bool.or_eq_false_iff.1 (h c hc)).1

theorem slash_not_mem_of_cleanName (h : CleanName s) : '/' ∉ s :=
  fun hc => absurd (h '/' hc) (by decide)

/-- A text without slashes and colons is its own file name. -/
theorem name_eq_self (hslash : '/' ∉ s) (hcolon : ':' ∉ s) : name s = s := by
  have hbase : base s = s := afterLast_eq_self hslash
  have hname : name s = base s := name_eq_base (by rwa [hbase])
  rw [hname, hbase]

theorem name_eq_self_of_cleanName (h : CleanName s) : name s = s :=
  name_eq_self (slash_not_mem_of_cleanName h) fun hc => absurd (h ':' hc) (by decide)

/-- A clean name with an extension names a file unless it starts with a dot. -/
theorem namesFile_iff_of_cleanName (h : CleanName s) (hext : extension s ≠ []) :
    namesFile s = true ↔ s.head? ≠ some '.' := by
  have hname := name_eq_self_of_cleanName h
  have hclean := cleanPath_of_cleanName h
  rw [namesFile_iff_exists_fileForm]
  constructor
  · exact fun hform => hform.1
  · intro hhead
    refine ⟨hhead, hclean, exists_fileForm hclean ?_ hext⟩
    -- with an empty stem the name would start with the dot of its extension
    rcases not_mem_or_last '.' s with hnone | ⟨x, e, hcut, he⟩
    · exact absurd (extension_of_not_mem (by rwa [hname])) hext
    · rw [stem_of_name (hname.trans hcut) he]
      rintro rfl
      rw [hcut] at hhead
      exact hhead rfl

end Single

/-! ## Sanitized names -/

section Sanitized

variable {s replacement : Text}

theorem safeName_eq_self (h : CleanName s) (replacement : Text) : safeName s replacement = s :=
  replaceWhere_eq_self h

theorem safeName_eq_nil_iff (hne : replacement ≠ []) : safeName s replacement = [] ↔ s = [] := by
  cases s with
  | nil => exact iff_of_true rfl rfl
  | cons c cs =>
    refine iff_of_false ?_ (List.cons_ne_nil c cs)
    rw [safeName, replaceWhere_cons]
    apply List.append_ne_nil_of_left_ne_nil
    split
    · exact hne
    · exact List.cons_ne_nil c []

theorem safeName_append_dot_cons (x e replacement : Text) :
    safeName (x ++ '.' :: e) replacement
      = safeName x replacement ++ '.' :: safeName e replacement := by
  have hdot : isForbiddenInName '.' = false := by decide
  rw [safeName, replaceWhere_append, replaceWhere_cons, hdot]
  rfl

theorem dot_not_mem_safeName (hs : '.' ∉ s) (hdot : '.' ∉ replacement) :
    '.' ∉ safeName s replacement :=
  Text.lacks_beq_iff.1 (lacks_replaceWhere (Text.lacks_beq_iff.2 hs) (Text.lacks_beq_iff.2 hdot))

/-- The last dot of a sanitized name is the last dot of the name, so sanitizing a name sanitizes its
extension. -/
theorem extension_safeName (hslash : '/' ∉ s) (hcolon : ':' ∉ s)
    (hreplacement : CleanName replacement) (hne : replacement ≠ []) (hdot : '.' ∉ replacement) :
    extension (safeName s replacement) = safeName (extension s) replacement := by
  have hname : name s = s := name_eq_self hslash hcolon
  have hsafe : name (safeName s replacement) = safeName s replacement :=
    name_eq_self_of_cleanName (safeName_clean hreplacement s)
  rcases not_mem_or_last '.' s with hnone | ⟨x, e, hcut, he⟩
  · have hnone' : '.' ∉ safeName s replacement := dot_not_mem_safeName hnone hdot
    rw [← hname] at hnone
    rw [← hsafe] at hnone'
    rw [extension_of_not_mem hnone, extension_of_not_mem hnone']
    rfl
  · have hcut' : name (safeName s replacement)
        = safeName x replacement ++ '.' :: safeName e replacement := by
      rw [hsafe, hcut, safeName_append_dot_cons]
    rw [extension_of_name hcut' (dot_not_mem_safeName he hdot),
      extension_of_name (hname.trans hcut) he]
    -- with nothing behind the last dot there is no extension on either side
    simp only [safeName_eq_nil_iff hne]
    by_cases hnil : e = []
    · rw [if_pos hnil, if_pos hnil]
      rfl
    · rw [if_neg hnil, if_neg hnil]
      exact (safeName_append_dot_cons [] e replacement).symm

end Sanitized

/-! ## Completed names -/

section Complete

variable {name ext replacement s : Text}

/-- An extension, with its dot, ends with its last dot and what follows this. -/
theorem exists_withDot_eq (ext : Text) : ∃ x, withDot ext = x ++ '.' :: afterLast '.' ext := by
  rcases not_mem_or_last '.' ext with hnone | ⟨x, e, rfl, he⟩
  · have hhead : ext.head? ≠ some '.' := fun hhead => hnone (List.mem_of_mem_head? hhead)
    refine ⟨[], ?_⟩
    rw [withDot, if_neg hhead, afterLast_eq_self hnone, List.nil_append]
  · rw [afterLast_append_cons he, withDot]
    split
    · exact ⟨x, rfl⟩
    · exact ⟨'.' :: x, by rw [List.cons_append]⟩

theorem extension_append_withDot (hs : CleanName s) (hext : CleanName ext) :
    extension (s ++ withDot ext)
      = if afterLast '.' ext = [] then [] else '.' :: afterLast '.' ext := by
  have hclean : CleanName (s ++ withDot ext) := lacks_append_iff.2 ⟨hs, withDot_clean_iff.2 hext⟩
  obtain ⟨x, hx⟩ := exists_withDot_eq ext
  -- whatever dots the name has, the last one is that of the extension
  have hname : Path.name (s ++ withDot ext) = s ++ x ++ '.' :: afterLast '.' ext := by
    rw [name_eq_self_of_cleanName hclean, hx, List.append_assoc]
  exact extension_of_name hname (not_mem_afterLast '.' ext)

/-- A dot and what may stand behind the last dot of a name. -/
def IsExtension (ext : Text) : Prop := ∃ e, ext = '.' :: e ∧ e ≠ [] ∧ '.' ∉ e ∧ CleanName e

theorem IsExtension.ne_nil (h : IsExtension ext) : ext ≠ [] := by
  obtain ⟨e, rfl, -⟩ := h
  exact List.cons_ne_nil '.' e

theorem IsExtension.clean (h : IsExtension ext) : CleanName ext := by
  obtain ⟨e, rfl, -, -, he⟩ := h
  exact lacks_cons_iff.2 ⟨by decide, he⟩

/-- What is appended as an extension is found again as the extension. -/
theorem IsExtension.extension_append (h : IsExtension ext) (hs : CleanName s) :
    extension (s ++ withDot ext) = ext := by
  rw [extension_append_withDot hs h.clean]
  obtain ⟨e, rfl, hne, hdot, -⟩ := h
  have hafter : afterLast '.' ('.' :: e) = e := afterLast_append_cons hdot []
  rw [hafter, if_neg hne]

/-- A name is complete if it is empty or has an extension: nothing is appended to it then. -/
def IsComplete (s : Text) : Prop := s = [] ∨ extension s ≠ []

theorem completeName_of_isComplete (h : IsComplete (safeName name replacement)) :
    completeName name ext replacement = safeName name replacement := by
  simp only [completeName]
  rw [if_neg]
  rintro ⟨-, hnone, hne⟩
  rcases h with hnil | hext
  · exact hne hnil
  · exact hext hnone

theorem completeName_nil_ext (name replacement : Text) :
    completeName name [] replacement = safeName name replacement := by
  simp only [completeName, if_neg fun h : ([] : Text) ≠ [] ∧ _ => h.1 rfl]

theorem completeName_of_not_isComplete (hext : ext ≠ [])
    (h : ¬ IsComplete (safeName name replacement)) :
    completeName name ext replacement = safeName name replacement ++ withDot ext := by
  obtain ⟨hne, hnone⟩ := not_or.1 h
  simp only [completeName]
  rw [if_pos ⟨hext, Decidable.not_not.1 hnone, hne⟩]

/-- A clean name that is complete stays as it is. -/
theorem completeName_eq_self (h : CleanName s) (hdone : IsComplete s) (ext replacement : Text) :
    completeName s ext replacement = s := by
  have hsafe := safeName_eq_self h replacement
  rw [completeName_of_isComplete (by rwa [hsafe]), hsafe]

/-- What is appended to a name ends with an extension. -/
theorem isComplete_completeName (hreplacement : CleanName replacement) (hne : ext ≠ [])
    (hext : CleanName ext) (hlast : ext.getLast? ≠ some '.') (name : Text) :
    IsComplete (completeName name ext replacement) := by
  by_cases h : IsComplete (safeName name replacement)
  · rwa [completeName_of_isComplete h]
  · rw [completeName_of_not_isComplete hne h]
    have hafter : afterLast '.' ext ≠ [] := fun hnil =>
      (afterLast_eq_nil_iff.1 hnil).elim hne hlast
    right
    rw [extension_append_withDot (safeName_clean hreplacement name) hext, if_neg hafter]
    exact List.cons_ne_nil _ _

theorem completeName_eq_nil_iff :
    completeName name ext replacement = [] ↔ safeName name replacement = [] := by
  simp only [completeName]
  split
  · next h => exact iff_of_false (List.append_ne_nil_of_left_ne_nil h.2.2 _) h.2.2
  · rfl

/-- With a clean replacement and a clean extension that does not end with a dot, a completed name is
clean, and empty only if the sanitized name is.  Otherwise it has an extension, and it names a file
unless it starts with a dot.  Completing it once more changes nothing. -/
theorem completeName_stable (hreplacement : CleanName replacement) (hne : ext ≠ [])
    (hext : CleanName ext) (hlast : ext.getLast? ≠ some '.') (name : Text) :
    let result := completeName name ext replacement
    CleanName result ∧ (result = [] ↔ safeName name replacement = [])
      ∧ (result ≠ [] →
          extension result ≠ [] ∧ (namesFile result = true ↔ result.head? ≠ some '.'))
      ∧ completeName result ext replacement = result := by
  have hclean : CleanName (completeName name ext replacement) :=
    (completeName_clean_iff hreplacement).2 fun _ _ => hext
  have hdone := isComplete_completeName hreplacement hne hext hlast name
  refine ⟨hclean, completeName_eq_nil_iff, fun hsome => ?_,
    completeName_eq_self hclean hdone ext replacement⟩
  have hextension := hdone.resolve_left hsome
  exact ⟨hextension, namesFile_iff_of_cleanName hclean hextension⟩

/-- To a name of dots an extension with a dot of its own is appended: the result is complete, but it
starts with a dot and names no file. -/
theorem completeName_stable_dots :
    let ext := "tar.gz".toList
    let result := completeName "..".toList ext "_".toList
    (CleanName "_".toList ∧ ext ≠ [] ∧ CleanName ext ∧ ext.getLast? ≠ some '.')
      ∧ result = "...tar.gz".toList ∧ extension result ≠ [] ∧ namesFile result = false
      ∧ completeName result ext "_".toList = result := by
  intro ext result
  have hreplacement : CleanName "_".toList := by decide
  have hne : ext ≠ [] := by decide
  have hext : CleanName ext := by decide
  have hlast : ext.getLast? ≠ some '.' := by decide
  obtain ⟨-, -, hfile, hagain⟩ := completeName_stable hreplacement hne hext hlast "..".toList
  obtain ⟨hextension, hnames⟩ := hfile (by decide)
  have hdot : result.head? = some '.' := by decide
  have hnot : namesFile result = false := by
    rw [Bool.eq_false_iff, ne_eq, hnames]
    exact not_not_intro hdot
  exact ⟨⟨hreplacement, hne, hext, hlast⟩, by decide, hextension, hnot, hagain⟩

end Complete

end DownloadNames.Path
