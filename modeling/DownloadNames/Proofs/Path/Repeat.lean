import DownloadNames.Proofs.Path.Clean
import DownloadNames.Proofs.Path.Pieces

/-
Making a path safe twice.

The second time, the excluded characters of the replacement are replaced, and nothing else changes:
the pieces are those of the path with the replacement, its own excluded characters replaced, in the
place of each excluded character (`safePath_safePath`).  A replacement that is one excluded
character between separators only comes to have more separators, which make no new pieces.  For any
other replacement that holds excluded characters, a count of the characters that are not separators
tells the two results apart.
-/

namespace DownloadNames.Path

open Text (lacks_or_first joinWith separator_induction)

/-! ## Replacing twice -/

section Twice

variable {p : Char → Bool} {replacement : Text}

/-- What is replaced in a replacement is replaced wherever the replacement stands. -/
theorem replaceWhere_replaceWhere (p : Char → Bool) (replacement inner s : Text) :
    replaceWhere p replacement (replaceWhere p inner s)
      = replaceWhere p (replaceWhere p replacement inner) s := by
  induction s with
  | nil => rfl
  | cons c cs ih =>
    rw [replaceWhere_cons, replaceWhere_cons, replaceWhere_append, ih]
    by_cases hc : p c = true
    · rw [if_pos hc, if_pos hc]
    · rw [if_neg hc, if_neg hc, replaceWhere_eq_self]
      intro d hd
      rw [List.mem_singleton.1 hd]
      exact Bool.eq_false_iff.2 hc

/-- Where separators are kept, each piece is replaced by itself. -/
theorem pieces_replaceWhere (hp : ∀ c, isSeparator c = true → p c = false) (s : Text) :
    pieces (replaceWhere p replacement s)
      = (pieces s).flatMap fun w => pieces (replaceWhere p replacement w) := by
  induction s using separator_induction isSeparator with
  | last x hx =>
    rw [pieces_of_lacks hx]
    by_cases hne : x = []
    · rw [if_pos hne, hne]
      rfl
    · rw [if_neg hne, List.flatMap_cons, List.flatMap_nil, List.append_nil]
  | first x c y hx hc ihx ihy =>
    have hkeep : replaceWhere p replacement (c :: y) = c :: replaceWhere p replacement y := by
      simp [hp c hc]
    rw [replaceWhere_append, hkeep, pieces_append_cons hc, pieces_append_cons hc,
      List.flatMap_append, ihx, ihy]

theorem pieces_replaceWhere_joinWith (hp : ∀ c, isSeparator c = true → p c = false)
    (ws : List Text) :
    pieces (replaceWhere p replacement (joinWith ['/'] ws))
      = ws.flatMap fun w => pieces (replaceWhere p replacement w) := by
  induction ws with
  | nil => rfl
  | cons w ws ih =>
    cases ws with
    | nil => rw [Text.joinWith_singleton, List.flatMap_cons, List.flatMap_nil, List.append_nil]
    | cons x xs =>
      have hkeep : replaceWhere p replacement ['/'] = ['/'] := by simp [hp '/' rfl]
      rw [List.flatMap_cons, ← ih, Text.joinWith_cons_cons, replaceWhere_append,
        replaceWhere_append, hkeep, List.append_assoc, List.singleton_append,
        pieces_append_cons rfl]

/-- A path made safe twice is joined from the pieces of the path with its excluded characters
replaced twice. -/
theorem safePath_safePath (path replacement : Text) :
    safePath (safePath path replacement) replacement
      = joinWith ['/'] (pieces
          (replaceWhere isForbidden (replaceWhere isForbidden replacement replacement) path)) := by
  have hkept : ∀ c, isSeparator c = true → isForbidden c = false :=
    fun _ => isForbidden_of_isSeparator
  rw [safePath_eq_joinWith, safePath_eq_joinWith, pieces_replaceWhere_joinWith hkept,
    ← pieces_replaceWhere hkept, replaceWhere_replaceWhere]

end Twice

/-! ## More separators -/

section Separators

variable {a b u v : Text} {c : Char}

theorem collapseRuns_true_append (ha : ∀ d ∈ a, isSeparator d = true) (v : Text) :
    collapseRuns true (a ++ v) = collapseRuns true v := by
  induction a with
  | nil => rfl
  | cons d ds ih =>
    obtain ⟨hd, hds⟩ := List.forall_mem_cons.1 ha
    rw [List.cons_append, collapseRuns, if_pos hd, if_pos rfl, ih hds]

/-- Separators that stand twice make the same run as those that stand once. -/
theorem collapseRuns_append_append (ha : ∀ d ∈ a, isSeparator d = true) (inRun : Bool) (v : Text) :
    collapseRuns inRun (a ++ (a ++ v)) = collapseRuns inRun (a ++ v) := by
  cases a with
  | nil => rfl
  | cons d ds =>
    obtain ⟨hd, hds⟩ := List.forall_mem_cons.1 ha
    rw [List.cons_append, collapseRuns, if_pos hd, collapseRuns_true_append hds,
      collapseRuns_true_append ha, List.cons_append, collapseRuns, if_pos hd,
      collapseRuns_true_append hds]

/-- What collapses to the same in any state does so behind any text. -/
theorem collapseRuns_append_congr (h : ∀ inRun, collapseRuns inRun u = collapseRuns inRun v)
    (x : Text) (inRun : Bool) : collapseRuns inRun (x ++ u) = collapseRuns inRun (x ++ v) := by
  induction x generalizing inRun with
  | nil => exact h inRun
  | cons c cs ih =>
    rw [List.cons_append, List.cons_append, collapseRuns, collapseRuns, ih true, ih false]

/-- Twice as many separators around a replacement make no difference. -/
theorem collapseRuns_replaceWhere (ha : ∀ d ∈ a, isSeparator d = true)
    (hb : ∀ d ∈ b, isSeparator d = true) (p : Char → Bool) (c : Char) (inRun : Bool) (s : Text) :
    collapseRuns inRun (replaceWhere p (a ++ (a ++ c :: (b ++ b))) s)
      = collapseRuns inRun (replaceWhere p (a ++ c :: b) s) := by
  induction s generalizing inRun with
  | nil => rfl
  | cons d ds ih =>
    rw [replaceWhere_cons, replaceWhere_cons]
    by_cases hd : p d = true
    · have hbehind : ∀ inRun,
          collapseRuns inRun (b ++ (b ++ replaceWhere p (a ++ (a ++ c :: (b ++ b))) ds))
            = collapseRuns inRun (b ++ replaceWhere p (a ++ c :: b) ds) := by
        intro inRun
        rw [collapseRuns_append_append hb]
        exact collapseRuns_append_congr ih b inRun
      have hcongr := collapseRuns_append_congr hbehind (a ++ [c]) inRun
      simp only [if_pos hd, List.append_assoc, List.cons_append, List.nil_append] at hcongr ⊢
      rw [collapseRuns_append_append ha, hcongr]
    · rw [if_neg hd, if_neg hd]
      exact collapseRuns_append_congr ih [d] inRun

/-- One excluded character between separators, itself replaced, has twice as many of them. -/
theorem replaceWhere_between (ha : ∀ d ∈ a, isSeparator d = true)
    (hb : ∀ d ∈ b, isSeparator d = true) (hc : isForbidden c = true) (inner : Text) :
    replaceWhere isForbidden inner (a ++ c :: b) = a ++ (inner ++ b) := by
  have hkeep : ∀ t : Text, (∀ d ∈ t, isSeparator d = true) →
      replaceWhere isForbidden inner t = t := fun t ht =>
    replaceWhere_eq_self fun d hd => isForbidden_of_isSeparator (ht d hd)
  rw [replaceWhere_append, replaceWhere_cons, if_pos hc, hkeep a ha, hkeep b hb]

end Separators

/-! ## Counting -/

section Counting

variable {s : Text}

/-- The number of characters of a text that are not separators. -/
def weight (s : Text) : Nat := s.countP fun c => !isSeparator c

theorem weight_append (s t : Text) : weight (s ++ t) = weight s + weight t :=
  List.countP_append

theorem weight_cons (c : Char) (s : Text) : weight (c :: s) = weight [c] + weight s :=
  weight_append [c] s

theorem weight_eq_zero_iff : weight s = 0 ↔ ∀ c ∈ s, isSeparator c = true := by
  simp [weight, List.countP_eq_zero]

theorem weight_joinWith (ws : List Text) : weight (joinWith ['/'] ws) = weight ws.flatten := by
  induction ws with
  | nil => rfl
  | cons w ws ih =>
    cases ws with
    | nil => rw [Text.joinWith_singleton, List.flatten_cons, List.flatten_nil, List.append_nil]
    | cons x xs =>
      have hslash : weight ['/'] = 0 := rfl
      rw [Text.joinWith_cons_cons, List.flatten_cons, weight_append, weight_append, weight_append,
        hslash, ih, Nat.add_zero]

theorem weight_flatten_pieces (s : Text) : weight (pieces s).flatten = weight s := by
  induction s using separator_induction isSeparator with
  | last x hx =>
    rw [pieces_of_lacks hx]
    by_cases hne : x = []
    · rw [if_pos hne, hne]
      rfl
    · rw [if_neg hne, List.flatten_cons, List.flatten_nil, List.append_nil]
  | first x c y hx hc ihx ihy =>
    have hnothing : weight [c] = 0 := by simp [weight, hc]
    rw [pieces_append_cons hc, List.flatten_append, weight_append, weight_append, weight_cons, ihx,
      ihy, hnothing, Nat.zero_add]

/-- Normalizing separators loses no other character. -/
theorem weight_joinWith_pieces (s : Text) : weight (joinWith ['/'] (pieces s)) = weight s := by
  rw [weight_joinWith, weight_flatten_pieces]

theorem weight_singleton {c : Char} (hc : isForbidden c = true) : weight [c] = 1 := by
  have hsep : isSeparator c = false := by
    rw [Bool.eq_false_iff]
    intro hsep
    rw [isForbidden_of_isSeparator hsep] at hc
    exact Bool.false_ne_true hc
  simp [weight, hsep]

/-- Each excluded character counts as its replacement. -/
theorem weight_replaceWhere (replacement s : Text) :
    weight (replaceWhere isForbidden replacement s) + s.countP isForbidden
      = s.countP isForbidden * weight replacement + weight s := by
  induction s with
  | nil => simp [weight]
  | cons c cs ih =>
    rw [replaceWhere_cons, weight_append, weight_cons]
    by_cases hc : isForbidden c = true
    · rw [if_pos hc, List.countP_cons_of_pos hc, weight_singleton hc, Nat.succ_mul]
      omega
    · rw [if_neg hc, List.countP_cons_of_neg hc]
      omega

end Counting

/-! ## When the second time changes nothing -/

/-- If the second time changes nothing, an excluded character in the replacement is its only
character besides separators. -/
theorem weight_eq_one_of_idempotent {replacement : Text} (hdirty : ¬ CleanPath replacement)
    (h : ∀ path, safePath (safePath path replacement) replacement = safePath path replacement) :
    weight replacement = 1 := by
  have hcolon : ∀ inner, replaceWhere isForbidden inner [':'] = inner := fun inner =>
    List.append_nil inner
  -- a path of one excluded character becomes the replacement
  have hweight := congrArg weight (h [':'])
  rw [safePath_safePath, safePath_eq_joinWith, weight_joinWith_pieces, weight_joinWith_pieces,
    hcolon, hcolon] at hweight
  have hcount := weight_replaceWhere replacement replacement
  have hpos : 0 < replacement.countP isForbidden := by
    obtain ⟨c, hc, hmem⟩ := Text.not_lacks_iff.1 hdirty
    exact List.countP_pos_iff.2 ⟨c, hmem, hc⟩
  rw [hweight, Nat.add_comm, Nat.add_right_cancel_iff] at hcount
  exact Nat.eq_of_mul_eq_mul_left hpos (by rw [← hcount, Nat.mul_one])

/-- Making a path safe twice is making it safe once, for all paths, exactly if the replacement holds
no excluded character, or just one and besides it only separators. -/
theorem safePath_idempotent_iff (replacement : Text) :
    (∀ path, safePath (safePath path replacement) replacement = safePath path replacement) ↔
      CleanPath replacement
        ∨ ∃ before c after, replacement = before ++ c :: after ∧ isForbidden c = true
          ∧ ∀ d ∈ before ++ after, isSeparator d = true := by
  constructor
  · intro h
    rcases lacks_or_first isForbidden replacement with hclean | ⟨a, c, b, rfl, hc, -⟩
    · exact Or.inl hclean
    · right
      have hdirty : ¬ CleanPath (a ++ c :: b) :=
        Text.not_lacks_iff.2 ⟨c, hc, List.mem_append_right a List.mem_cons_self⟩
      have hone := weight_eq_one_of_idempotent hdirty h
      rw [weight_append, weight_cons, weight_singleton hc] at hone
      have hzero : weight (a ++ b) = 0 := by
        rw [weight_append]
        omega
      exact ⟨a, c, b, rfl, hc, weight_eq_zero_iff.1 hzero⟩
  · rintro (hclean | ⟨a, c, b, rfl, hc, hseparators⟩) path
    · rw [safePath_safePath, replaceWhere_eq_self hclean, safePath_eq_joinWith]
    · obtain ⟨ha, hb⟩ := List.forall_mem_append.1 hseparators
      rw [safePath_safePath, safePath_eq_joinWith, replaceWhere_between ha hb hc, List.append_assoc,
        List.cons_append, ← trimSlashes_collapseRuns, ← trimSlashes_collapseRuns,
        collapseRuns_replaceWhere ha hb]

end DownloadNames.Path
