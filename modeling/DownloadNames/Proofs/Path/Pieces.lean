import DownloadNames.Path.Sanitize
import DownloadNames.Proofs.Text.Pieces

/-
A safe path is its non-empty pieces with one `/` between two of them.

Collapsing runs of slashes and dropping one at each end leaves the pieces as they are
(`safePath_eq_joinWith`), and replacing excluded characters changes each piece by itself.  So the
parts of a safe path between slashes are found in the path that is made safe
(`mem_splitBy_safePath_iff`).
-/

namespace DownloadNames.Path

open Text (Lacks lacks_cons_iff splitBy joinWith separator_induction)

/-! ## Separators -/

theorem eq_slash_or_backslash {c : Char} (h : isSeparator c = true) : c = '/' ∨ c = '\\' := by
  simpa only [isSeparator, Bool.or_eq_true, beq_iff_eq] using h

theorem isForbidden_of_isSeparator {c : Char} (h : isSeparator c = true) :
    isForbidden c = false := by
  rcases eq_slash_or_backslash h with rfl | rfl <;> rfl

/-! ## Pieces -/

section Pieces

variable {s x y w : Text} {c : Char}

theorem pieces_of_lacks (h : Lacks isSeparator s) : pieces s = if s = [] then [] else [s] := by
  rw [pieces, Text.splitBy_eq_singleton h]
  by_cases hs : s = []
  · simp [hs]
  · simp [hs]

/-- A separator cuts the pieces of a path in two. -/
theorem pieces_append_cons (hc : isSeparator c = true) (x y : Text) :
    pieces (x ++ c :: y) = pieces x ++ pieces y := by
  rw [pieces, Text.splitBy_append_cons hc, List.filter_append, pieces, pieces]

theorem mem_pieces_iff : w ∈ pieces s ↔ w ≠ [] ∧ w ∈ splitBy isSeparator s := by
  rw [pieces, List.mem_filter, bne_iff_ne, and_comm]

/-- A piece is not empty and holds no slash. -/
theorem lacks_of_mem_pieces (h : w ∈ pieces s) : w ≠ [] ∧ Lacks isSeparator w := by
  obtain ⟨hne, hmem⟩ := mem_pieces_iff.1 h
  exact ⟨hne, (Text.mem_splitBy_iff.1 hmem).1⟩

theorem slash_not_mem_piece (h : w ∈ pieces s) : '/' ∉ w := by
  intro hmem
  have hsep := (lacks_of_mem_pieces h).2 '/' hmem
  cases hsep

end Pieces

/-! ## Collapsing runs -/

section Runs

variable {s x y : Text} {c : Char} {inRun : Bool}

theorem collapseRuns_lacks_append (hx : Lacks isSeparator x) (hne : x ≠ []) :
    collapseRuns inRun (x ++ y) = x ++ collapseRuns false y := by
  induction x generalizing inRun with
  | nil => exact absurd rfl hne
  | cons d ds ih =>
    obtain ⟨hd, hds⟩ := lacks_cons_iff.1 hx
    rw [List.cons_append, collapseRuns, hd]
    cases ds with
    | nil => rfl
    | cons e es =>
      have hrest : collapseRuns false (e :: es ++ y) = e :: es ++ collapseRuns false y :=
        ih hds (List.cons_ne_nil e es)
      simpa using hrest

/-- A text without slashes has no runs to collapse. -/
theorem collapseRuns_of_lacks (hs : Lacks isSeparator s) : collapseRuns inRun s = s := by
  cases s with
  | nil => rfl
  | cons d ds =>
    have h : collapseRuns inRun (d :: ds ++ []) = d :: ds ++ collapseRuns false [] :=
      collapseRuns_lacks_append hs (List.cons_ne_nil d ds)
    simpa [collapseRuns] using h

/-- Behind a slash that has been written, the pieces follow with one `/` between two of them, and
one more may stand at the end. -/
theorem collapseRuns_true_eq (s : Text) :
    ∃ tail, collapseRuns true s = joinWith ['/'] (pieces s) ++ tail
      ∧ (tail = [] ∨ tail = ['/']) ∧ (pieces s = [] → tail = []) := by
  induction s using separator_induction isSeparator with
  | last x hx =>
    refine ⟨[], ?_, Or.inl rfl, fun _ => rfl⟩
    rw [collapseRuns_of_lacks hx, pieces_of_lacks hx]
    by_cases hne : x = []
    · simp [hne]
    · simp [hne]
  | first x c y hx hc _ ih =>
    obtain ⟨tail, hy, htail, hnone⟩ := ih
    rw [pieces_append_cons hc, pieces_of_lacks hx]
    by_cases hne : x = []
    · -- a further slash of the run
      subst hne
      refine ⟨tail, ?_, htail, by simpa using hnone⟩
      simpa [collapseRuns, hc] using hy
    · have hrun : collapseRuns true (x ++ c :: y) = x ++ '/' :: collapseRuns true y := by
        rw [collapseRuns_lacks_append hx hne]
        simp [collapseRuns, hc]
      rw [hrun, hy, if_neg hne]
      cases hpieces : pieces y with
      | nil =>
        -- the run of slashes stands at the end
        refine ⟨['/'], ?_, Or.inr rfl, by simp⟩
        simp [hnone hpieces]
      | cons w ws =>
        refine ⟨tail, ?_, htail, by simp⟩
        simp [Text.joinWith_cons_cons]

end Runs

/-! ## Dropping slashes at the ends -/

theorem dropLeadingSlash_eq_self {s : Text} (h : s.head? ≠ some '/') : dropLeadingSlash s = s := by
  unfold dropLeadingSlash
  split
  · simp at h
  · rfl

/-- Dropping the leading slash is not beginning with one. -/
theorem dropLeadingSlash_collapseRuns (s : Text) :
    dropLeadingSlash (collapseRuns false s) = collapseRuns true s := by
  cases s with
  | nil => rfl
  | cons c cs =>
    by_cases hc : isSeparator c = true
    · simp [collapseRuns, hc, dropLeadingSlash]
    · rw [dropLeadingSlash_eq_self]
      · simp [collapseRuns, hc]
      · rintro hhead
        have hslash : c = '/' := by simpa [collapseRuns, hc] using hhead
        rw [hslash] at hc
        exact hc rfl

/-- A slash of joined pieces stands between two of them, so that the parts on either side of it are
not empty. -/
theorem nil_not_mem_splitBy_of_joinWith {ws : List Text}
    (h : ∀ w ∈ ws, w ≠ [] ∧ '/' ∉ w) {x y : Text} (hcut : joinWith ['/'] ws = x ++ '/' :: y) :
    [] ∉ splitBy (· == '/') x ∧ [] ∉ splitBy (· == '/') y := by
  have hne : ws ≠ [] := by
    rintro rfl
    exact List.append_ne_nil_of_right_ne_nil x (List.cons_ne_nil '/' y) hcut.symm
  have hsplit : ws = splitBy (· == '/') x ++ splitBy (· == '/') y := by
    have hslash : splitBy (· == '/') (x ++ '/' :: y)
        = splitBy (· == '/') x ++ splitBy (· == '/') y := Text.splitBy_append_cons rfl x y
    rw [← hslash, ← hcut, Text.splitBy_joinWith hne fun w hw => (h w hw).2]
  have hnil : [] ∉ ws := fun hmem => (h [] hmem).1 rfl
  rw [hsplit, List.mem_append] at hnil
  exact not_or.1 hnil

/-- Joined pieces do not end with a slash. -/
theorem getLast?_joinWith_ne {ws : List Text} (h : ∀ w ∈ ws, w ≠ [] ∧ '/' ∉ w) :
    (joinWith ['/'] ws).getLast? ≠ some '/' := by
  intro hlast
  obtain ⟨x, hx⟩ := List.getLast?_eq_some_iff.1 hlast
  -- nothing would stand behind the slash
  exact (nil_not_mem_splitBy_of_joinWith h hx).2 (List.mem_singleton_self [])

/-- Collapsed and trimmed, a path is its pieces with one `/` between two of them. -/
theorem trimSlashes_collapseRuns (s : Text) :
    trimSlashes (collapseRuns false s) = joinWith ['/'] (pieces s) := by
  obtain ⟨tail, htrue, htail, -⟩ := collapseRuns_true_eq s
  have hlast : (joinWith ['/'] (pieces s)).reverse.head? ≠ some '/' := by
    rw [List.head?_reverse]
    exact getLast?_joinWith_ne fun w hw => ⟨(lacks_of_mem_pieces hw).1, slash_not_mem_piece hw⟩
  rw [trimSlashes, dropLeadingSlash_collapseRuns, htrue]
  rcases htail with rfl | rfl
  · rw [List.append_nil, dropLeadingSlash_eq_self hlast, List.reverse_reverse]
  · simp [dropLeadingSlash]

/-- A safe path is its pieces with one `/` between two of them. -/
theorem safePath_eq_joinWith (path replacement : Text) :
    safePath path replacement
      = joinWith ['/'] (pieces (replaceWhere isForbidden replacement path)) :=
  trimSlashes_collapseRuns _

/-! ## Replacing within pieces -/

section Replace

variable {p : Char → Bool} {replacement s : Text}

/-- What neither the text nor the replacement holds, the result does not hold. -/
theorem lacks_replaceWhere {q : Char → Bool} (hs : Lacks q s) (hreplacement : Lacks q replacement) :
    Lacks q (replaceWhere p replacement s) := by
  intro c hc
  obtain ⟨d, hd, hc⟩ := List.mem_flatMap.1 hc
  split at hc
  · exact hreplacement c hc
  · rw [List.mem_singleton.1 hc]
    exact hs d hd

/-- Where neither the replaced characters nor the replacement are separators, each part between
separators is replaced by itself. -/
theorem splitBy_replaceWhere (hp : ∀ c, isSeparator c = true → p c = false)
    (hreplacement : Lacks isSeparator replacement) (s : Text) :
    splitBy isSeparator (replaceWhere p replacement s)
      = (splitBy isSeparator s).map (replaceWhere p replacement) := by
  induction s using separator_induction isSeparator with
  | last x hx =>
    rw [Text.splitBy_eq_singleton hx, List.map_singleton, Text.splitBy_eq_singleton]
    exact lacks_replaceWhere hx hreplacement
  | first x c y hx hc ihx ihy =>
    have hkeep : replaceWhere p replacement (c :: y) = c :: replaceWhere p replacement y := by
      simp [hp c hc]
    rw [replaceWhere_append, hkeep, Text.splitBy_append_cons hc, Text.splitBy_append_cons hc,
      List.map_append, ihx, ihy]

/-- A result that holds no character of the replacement is the text itself. -/
theorem replaceWhere_eq_self_of_disjoint (hne : replacement ≠ [])
    (h : ∀ c ∈ replacement, c ∉ replaceWhere p replacement s) :
    replaceWhere p replacement s = s := by
  apply replaceWhere_eq_self
  intro d hd
  rw [Bool.eq_false_iff]
  intro hreplaced
  -- the replacement of `d` would be in the result
  obtain ⟨c, hc⟩ := List.exists_mem_of_ne_nil _ hne
  refine h c hc (List.mem_flatMap.2 ⟨d, hd, ?_⟩)
  rwa [if_pos hreplaced]

end Replace

/-- A part without excluded characters and without characters of the replacement stands between
two slashes of a safe path exactly when it stands between two slashes of the path itself. -/
theorem mem_splitBy_safePath_iff {w path replacement : Text} (hw : w ≠ [])
    (hclean : Lacks isForbidden w) (hne : replacement ≠ [])
    (hreplacement : Lacks isSeparator replacement) (hdisjoint : ∀ c ∈ replacement, c ∉ w) :
    w ∈ splitBy (· == '/') (safePath path replacement) ↔ w ∈ splitBy isSeparator path := by
  have hsplit : w ∈ splitBy (· == '/') (safePath path replacement) ↔
      w ∈ pieces (replaceWhere isForbidden replacement path) := by
    rw [safePath_eq_joinWith]
    by_cases hnone : pieces (replaceWhere isForbidden replacement path) = []
    · simp [hnone, hw]
    · rw [Text.splitBy_joinWith hnone fun v hv => slash_not_mem_piece hv]
  rw [hsplit, mem_pieces_iff, and_iff_right hw,
    splitBy_replaceWhere (fun _ => isForbidden_of_isSeparator) hreplacement, List.mem_map]
  constructor
  · rintro ⟨v, hv, rfl⟩
    rwa [replaceWhere_eq_self_of_disjoint hne hdisjoint]
  · exact fun hmem => ⟨w, hmem, replaceWhere_eq_self hclean⟩

end DownloadNames.Path
