import DownloadNames.Proofs.Path.Join
import DownloadNames.Proofs.Path.Safe

/-
A path put together again from its parts.

The base name and the folder are what stands around the last slash, the stem and the extension what
stands around the last dot of the file name.  A text is cut at its last `c` in one way only, so each
part is known as soon as such a cut is (`beforeLast_append_cons`, `afterLast_append_cons`), and
`not_mem_or_last` gives the cut.
-/

namespace DownloadNames.Path

open Text (splitBy joinWith)

/-! ## Folder and base name -/

section Folder

variable {path dir b : Text}

/-- A path is its base name behind nothing or behind a text that ends with a slash. -/
theorem exists_eq_append_base (path : Text) :
    ∃ dir, path = dir ++ base path ∧ (dir = [] ∨ dir.getLast? = some '/') := by
  rcases not_mem_or_last '/' path with h | ⟨x, y, rfl, hy⟩
  · refine ⟨[], ?_, Or.inl rfl⟩
    rw [base, afterLast_eq_self h, List.nil_append]
  · refine ⟨x ++ ['/'], ?_, Or.inr List.getLast?_concat⟩
    rw [base, afterLast_append_cons hy, List.append_assoc, List.singleton_append]

theorem base_append (hdir : dir = [] ∨ dir.getLast? = some '/') (hb : '/' ∉ b) :
    base (dir ++ b) = b := by
  rcases hdir with rfl | hlast
  · rw [List.nil_append, base, afterLast_eq_self hb]
  · obtain ⟨x, rfl⟩ := List.getLast?_eq_some_iff.1 hlast
    rw [List.append_assoc, List.singleton_append, base, afterLast_append_cons hb]

/-- What is dropped from the front of a text is so many times the same character. -/
theorem exists_replicate_append_dropWhile (c : Char) (s : Text) :
    ∃ n, s = List.replicate n c ++ s.dropWhile (· == c) := by
  refine ⟨(s.takeWhile (· == c)).length, ?_⟩
  have hfront : s.takeWhile (· == c) = List.replicate (s.takeWhile (· == c)).length c := by
    rw [List.eq_replicate_iff]
    refine ⟨rfl, fun d hd => ?_⟩
    have hsame := List.all_eq_true.1 (List.all_takeWhile (p := (· == c)) (l := s)) d hd
    exact eq_of_beq hsame
  rw [← hfront, List.takeWhile_append_dropWhile]

theorem head?_folder (path : Text) : (folder path).head? ≠ some '/' := by
  intro hhead
  have hnot := List.head?_dropWhile_not (· == '/') (beforeLast '/' path)
  rw [folder] at hhead
  rw [hhead] at hnot
  cases hnot

/-- A path with a slash is some slashes, its folder, a slash and its base name. -/
theorem exists_eq_folder_append_base (h : '/' ∈ path) :
    ∃ n, path = List.replicate n '/' ++ (folder path ++ '/' :: base path) := by
  obtain ⟨n, hn⟩ := exists_replicate_append_dropWhile '/' (beforeLast '/' path)
  refine ⟨n, ?_⟩
  rw [folder, base, ← List.append_assoc, ← hn, beforeLast_append_afterLast h]

end Folder

/-! ## Stem and extension -/

section Stem

variable {path x e : Text}

/-- Without a colon in the base name, the file name is the base name. -/
theorem name_eq_base (h : ':' ∉ base path) : name path = base path := by
  have hall : ∀ c ∈ base path, (c != ':') = true := by
    intro c hc
    rw [bne_iff_ne]
    rintro rfl
    exact h hc
  rw [name, ← List.append_nil (base path), Text.takeWhile_append_stop hall (by simp),
    List.append_nil]

theorem name_eq_base_of_clean (h : CleanPath path) : name path = base path := by
  apply name_eq_base
  intro hmem
  obtain ⟨dir, hdir, -⟩ := exists_eq_append_base path
  have hin : ':' ∈ path := by
    rw [hdir]
    exact List.mem_append_right dir hmem
  exact absurd (h ':' hin) (by decide)

theorem stem_of_not_mem (h : '.' ∉ name path) : stem path = name path := by
  simp only [stem, if_neg h]

theorem extension_of_not_mem (h : '.' ∉ name path) : extension path = [] := by
  simp only [extension, if_neg fun hboth : '.' ∈ name path ∧ _ => h hboth.1]

theorem stem_of_name (h : name path = x ++ '.' :: e) (he : '.' ∉ e) : stem path = x := by
  have hdot : '.' ∈ x ++ '.' :: e := List.mem_append_cons_self
  simp only [stem, h, if_pos hdot]
  exact beforeLast_append_cons he x

theorem extension_of_name (h : name path = x ++ '.' :: e) (he : '.' ∉ e) :
    extension path = if e = [] then [] else '.' :: e := by
  have hdot : '.' ∈ x ++ '.' :: e := List.mem_append_cons_self
  simp only [extension, h, afterLast_append_cons he, and_iff_right hdot]
  by_cases hne : e = []
  · rw [if_pos hne, if_neg (not_not_intro hne)]
  · rw [if_neg hne, if_pos hne]

/-- The last dot of a file name that ends with it belongs neither to the stem nor to the
extension. -/
theorem name_of_getLast?_eq_dot (h : (name path).getLast? = some '.') :
    name path = stem path ++ ['.'] ∧ extension path = [] := by
  obtain ⟨x, hx⟩ := List.getLast?_eq_some_iff.1 h
  have hnil : '.' ∉ ([] : Text) := List.not_mem_nil
  rw [stem_of_name hx hnil, extension_of_name hx hnil]
  exact ⟨hx, rfl⟩

theorem name_of_getLast?_ne_dot (h : (name path).getLast? ≠ some '.') :
    name path = stem path ++ extension path := by
  rcases not_mem_or_last '.' (name path) with hnone | ⟨x, e, hname, he⟩
  · rw [stem_of_not_mem hnone, extension_of_not_mem hnone, List.append_nil]
  · have hne : e ≠ [] := by
      rintro rfl
      rw [hname] at h
      exact h List.getLast?_concat
    rw [stem_of_name hname he, extension_of_name hname he, if_neg hne, hname]

end Stem

/-! ## Segments of a safe path -/

section Segments

variable {path last : Text} {front : List Text}

theorem joinWith_concat (hne : front ≠ []) (last : Text) :
    joinWith ['/'] (front ++ [last]) = joinWith ['/'] front ++ '/' :: last := by
  rw [Text.joinWith_append hne, List.flatMap_cons, List.flatMap_nil, List.append_nil,
    List.singleton_append]

theorem base_joinWith (h : '/' ∉ last) (front : List Text) :
    base (joinWith ['/'] (front ++ [last])) = last := by
  by_cases hne : front = []
  · rw [hne, List.nil_append, Text.joinWith_singleton, base, afterLast_eq_self h]
  · rw [joinWith_concat hne, base, afterLast_append_cons h]

theorem folder_joinWith (h : '/' ∉ last) (hhead : (joinWith ['/'] front).head? ≠ some '/') :
    folder (joinWith ['/'] (front ++ [last])) = joinWith ['/'] front := by
  by_cases hne : front = []
  · rw [hne, List.nil_append, Text.joinWith_singleton, folder, beforeLast_eq_nil h]
    rfl
  · rw [joinWith_concat hne, folder, beforeLast_append_cons h]
    -- there is no slash in front to be dropped
    cases hjoin : joinWith ['/'] front with
    | nil => rfl
    | cons c cs =>
      rw [hjoin] at hhead
      have hc : ¬ (c == '/') = true := fun heq => hhead (congrArg some (eq_of_beq heq))
      rw [List.dropWhile_cons, if_neg hc]

/-- A safe path has a last segment, and the segments in front of it do not begin with a slash. -/
theorem IsSafe.exists_segments (h : IsSafe path) :
    ∃ front last, splitBy (· == '/') path = front ++ [last] ∧ '/' ∉ last
      ∧ (joinWith ['/'] front).head? ≠ some '/' := by
  obtain ⟨front, last, hsplit⟩ : ∃ front last, splitBy (· == '/') path = front ++ [last] :=
    ⟨_, _, (List.dropLast_concat_getLast (Text.splitBy_ne_nil _ _)).symm⟩
  have hmem : last ∈ splitBy (· == '/') path := by
    rw [hsplit]
    exact List.mem_append_right front (List.mem_singleton_self last)
  refine ⟨front, last, hsplit, Text.lacks_beq_iff.1 (Text.mem_splitBy_iff.1 hmem).1, ?_⟩
  intro hslash
  obtain ⟨rest, hrest⟩ := List.head?_eq_some_iff.1 hslash
  have hne : front ≠ [] := by
    rintro rfl
    cases hrest
  -- the path would begin with that slash
  have hpath : path = '/' :: (rest ++ '/' :: last) := by
    rw [← Text.joinWith_splitBy '/' path, hsplit, joinWith_concat hne, hrest]
    rfl
  exact h.no_leading (by rw [hpath]; rfl)

/-- In a safe path the last segment is the base name and the file name, the others joined are the
folder, and all joined are the path. -/
theorem IsSafe.segments (h : IsSafe path) :
    (splitBy (· == '/') path).getLast? = some (base path) ∧ name path = base path
      ∧ folder path = joinWith ['/'] (splitBy (· == '/') path).dropLast
      ∧ join (splitBy (· == '/') path) ['/'] = path := by
  obtain ⟨front, last, hsplit, hlast, hhead⟩ := h.exists_segments
  have hjoin : joinWith ['/'] (front ++ [last]) = path := by
    rw [← hsplit, Text.joinWith_splitBy]
  have hbase : base path = last := by
    rw [← hjoin, base_joinWith hlast]
  have hfolder : folder path = joinWith ['/'] front := by
    rw [← hjoin, folder_joinWith hlast hhead]
  have hsep : separatorOr ['/'] = ['/'] := rfl
  refine ⟨?_, name_eq_base_of_clean h.clean, ?_, ?_⟩
  · rw [hsplit, hbase, List.getLast?_concat]
  · rw [hsplit, List.dropLast_concat, hfolder]
  · rw [join, hsep, Text.joinWith_splitBy]
    exact collapseSeparator_eq_self (List.cons_ne_nil '/' []) h.no_double

end Segments

/-! ## Parts of any path -/

/-- Nothing of a path is lost in its parts.  Stem and extension make the file name, but for a dot at
its end; folder and base name make the path, but for slashes in front of the folder.  The parts of a
path that has been made safe are its segments. -/
theorem parts_lossless (path : Text) :
    ((name path).getLast? = some '.' → name path = stem path ++ ['.'] ∧ extension path = [])
      ∧ ((name path).getLast? ≠ some '.' → name path = stem path ++ extension path)
      ∧ ('/' ∈ path → (folder path).head? ≠ some '/'
          ∧ ∃ n, path = List.replicate n '/' ++ (folder path ++ '/' :: base path))
      ∧ ∀ replacement, CleanPath replacement →
          let safe := safePath path replacement
          let segments := splitBy (· == '/') safe
          segments.getLast? = some (base safe) ∧ name safe = base safe
            ∧ folder safe = joinWith ['/'] segments.dropLast
            ∧ join segments ['/'] = safe := by
  refine ⟨name_of_getLast?_eq_dot, name_of_getLast?_ne_dot, fun hslash => ?_,
    fun replacement hclean => ?_⟩
  · exact ⟨head?_folder path, exists_eq_folder_append_base hslash⟩
  · exact (isSafe_safePath hclean path).segments

/-- Of two dots at the end of a name one belongs to the stem, and of the slashes in front of a name
all but one stay in the folder.  The parts of a name that ends with no dot are all there. -/
theorem parts_lossless_two_dots :
    let path := "//a:b//c..:large".toList
    (name path).getLast? = some '.' ∧ (stem path, extension path) = ("c.".toList, [])
      ∧ name path = stem path ++ ['.']
      ∧ '/' ∈ path
      ∧ (∃ n, path = List.replicate n '/' ++ ("a:b/".toList ++ '/' :: "c..:large".toList))
      ∧ CleanPath "/_".toList
      ∧ join ["a".toList, "_b".toList, "c..".toList, "_large".toList] ['/']
          = safePath path "/_".toList
      ∧ (name ".x/.tar.gz".toList).getLast? ≠ some '.'
      ∧ ".tar.gz".toList = stem ".x/.tar.gz".toList ++ extension ".x/.tar.gz".toList := by
  intro path
  have hdot : (name path).getLast? = some '.' := by decide
  have hslash : '/' ∈ path := by decide
  have hclean : CleanPath "/_".toList := by decide
  have hother : (name ".x/.tar.gz".toList).getLast? ≠ some '.' := by decide
  obtain ⟨hname, -, hfolder, hsegments⟩ := parts_lossless path
  obtain ⟨-, hwhole, -, -⟩ := parts_lossless ".x/.tar.gz".toList
  obtain ⟨-, -, -, hjoin⟩ := hsegments _ hclean
  exact ⟨hdot, by decide, (hname hdot).1, hslash, (hfolder hslash).2, hclean, hjoin, hother,
    hwhole hother⟩

end DownloadNames.Path
