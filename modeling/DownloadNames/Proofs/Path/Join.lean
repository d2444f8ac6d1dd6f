import DownloadNames.Path.Join
import DownloadNames.Proofs.Text.Occurrence

/-
Joining parts in one step or in several.

Writing each run of separators once is a search from the left for the separator, and what has been
written is found again by the same search.  So a joined path can stand for its parts in front of
other parts, whatever the separator is (`collapseFrom_append`).

Behind other parts it need not find the same runs, because a separator that overlaps itself is met
at other places there.  An unbordered separator is met at the same places from wherever the search
begins.  For such a separator the pieces between separators are those of the parts, and a joined
path can stand for its parts anywhere.
-/

namespace DownloadNames.Path

open Text (BeginsOutside Unbordered joinWith splitOn beginsOutside_cons_iff
  beginsOutside_nil_right not_isInfix_or_first occurrence_induction)

/-! ## Runs of a separator -/

section Runs

variable {sep u v w s t : Text} {inRun inRun' : Bool}

theorem collapseFrom_eq_drop (sep : Text) (skip : Nat) (inRun : Bool) (s : Text) :
    collapseFrom sep skip inRun s = collapseFrom sep 0 inRun (s.drop skip) := by
  induction s generalizing skip with
  | nil => cases skip <;> rfl
  | cons c cs ih =>
    cases skip with
    | zero => rfl
    | succ skip => exact ih skip

/-- Characters at which no separator begins are kept, and they end a run. -/
theorem collapseFrom_append_of_beginsOutside (hu : BeginsOutside sep u w) (hne : u ≠ [])
    (inRun : Bool) : collapseFrom sep 0 inRun (u ++ w) = u ++ collapseFrom sep 0 false w := by
  induction u generalizing inRun with
  | nil => exact absurd rfl hne
  | cons c cs ih =>
    obtain ⟨hfront, hrest⟩ := beginsOutside_cons_iff.1 hu
    have hbegin : ¬ Text.beginsWith sep (c :: (cs ++ w)) = true :=
      fun h => hfront (Text.beginsWith_iff.1 h)
    rw [List.cons_append, collapseFrom, if_neg hbegin, List.cons_append]
    by_cases hcs : cs = []
    · rw [hcs, List.nil_append, List.nil_append]
    · rw [ih hrest hcs false]

/-- A separator is written unless it belongs to a run that has been written. -/
theorem collapseFrom_sep_append (hsep : sep ≠ []) (inRun : Bool) (v : Text) :
    collapseFrom sep 0 inRun (sep ++ v)
      = (if inRun then [] else sep) ++ collapseFrom sep 0 true v := by
  have hbegin : Text.beginsWith sep (sep ++ v) = true :=
    Text.beginsWith_iff.2 (List.prefix_append sep v)
  obtain ⟨c, cs, hcons⟩ := List.exists_cons_of_ne_nil hsep
  have hlength : sep.length - 1 = cs.length := by rw [hcons]; rfl
  have hrest : collapseFrom sep (sep.length - 1) true (cs ++ v) = collapseFrom sep 0 true v := by
    rw [collapseFrom_eq_drop, hlength, List.drop_left]
  have htext : sep ++ v = c :: (cs ++ v) := by rw [hcons]; rfl
  rw [htext] at hbegin ⊢
  rw [collapseFrom, if_pos hbegin, hrest]
  cases inRun <;> rfl

theorem collapseFrom_eq_self (h : ¬ sep <:+: s) : collapseFrom sep 0 inRun s = s := by
  by_cases hs : s = []
  · rw [hs, collapseFrom]
  · have hkeep := collapseFrom_append_of_beginsOutside (beginsOutside_nil_right h) hs inRun
    rwa [List.append_nil, collapseFrom, List.append_nil] at hkeep

/-- The first separator is written behind what stands in front of it, unless it belongs to a run
that has been written. -/
theorem collapseFrom_first (hsep : sep ≠ []) (hu : BeginsOutside sep u sep) (inRun : Bool)
    (v : Text) :
    collapseFrom sep 0 inRun (u ++ (sep ++ v))
      = (if u = [] ∧ inRun = true then [] else u ++ sep) ++ collapseFrom sep 0 true v := by
  by_cases hne : u = []
  · rw [hne, List.nil_append, collapseFrom_sep_append hsep]
    cases inRun <;> rfl
  · rw [collapseFrom_append_of_beginsOutside (hu.append v) hne, collapseFrom_sep_append hsep,
      if_neg Bool.false_ne_true, if_neg fun hskip => hne hskip.1, List.append_assoc]

/-- What has been written stands for what it was written for, in front of any text. -/
theorem collapseFrom_append (hsep : sep ≠ []) (hrun : inRun = true → inRun' = true) (s t : Text) :
    collapseFrom sep 0 inRun' (collapseFrom sep 0 inRun s ++ t)
      = collapseFrom sep 0 inRun' (s ++ t) := by
  induction s using occurrence_induction hsep generalizing inRun inRun' with
  | last u hu => rw [collapseFrom_eq_self hu]
  | first u v hu ih =>
    have hright : collapseFrom sep 0 inRun' (u ++ (sep ++ v) ++ t)
        = (if u = [] ∧ inRun' = true then [] else u ++ sep)
          ++ collapseFrom sep 0 true (v ++ t) := by
      rw [List.append_assoc, List.append_assoc, collapseFrom_first hsep hu]
    rw [hright, collapseFrom_first hsep hu]
    by_cases hskip : u = [] ∧ inRun = true
    · -- the separator is dropped, and so it is by the second search
      obtain rfl := hrun hskip.2
      rw [if_pos hskip, if_pos ⟨hskip.1, rfl⟩, List.nil_append, List.nil_append]
      exact ih fun _ => rfl
    · rw [if_neg hskip, List.append_assoc, List.append_assoc, collapseFrom_first hsep hu]
      rw [ih fun _ => rfl]

/-- Without two separators in a row there is no run to collapse. -/
theorem collapseFrom_eq_self_of_single (hsep : sep ≠ []) (hdouble : ¬ sep ++ sep <:+: s)
    (hrun : inRun = true → ¬ sep <+: s) : collapseFrom sep 0 inRun s = s := by
  induction s using occurrence_induction hsep generalizing inRun with
  | last u hu => rw [collapseFrom_eq_self hu]
  | first u v hu ih =>
    have hskip : ¬ (u = [] ∧ inRun = true) := by
      rintro ⟨rfl, htrue⟩
      exact hrun htrue (List.prefix_append sep v)
    have hrest : ¬ sep ++ sep <:+: v := fun h =>
      hdouble (h.trans ((List.suffix_append sep v).isInfix.trans (List.suffix_append u _).isInfix))
    -- another separator behind this one would make two in a row
    have hnext : ¬ sep <+: v := by
      rintro ⟨w, rfl⟩
      exact hdouble ⟨u, w, by rw [List.append_assoc, List.append_assoc]⟩
    rw [collapseFrom_first hsep hu, if_neg hskip, ih hrest fun _ => hnext, List.append_assoc]

theorem collapseSeparator_eq_self (hsep : sep ≠ []) (hdouble : ¬ sep ++ sep <:+: s) :
    collapseSeparator sep s = s :=
  collapseFrom_eq_self_of_single hsep hdouble fun hfalse => absurd hfalse Bool.false_ne_true

/-- Behind a separator, no separator begins what is written. -/
theorem not_prefix_collapseFrom_true (hsep : sep ≠ []) (s : Text) :
    ¬ sep <+: collapseFrom sep 0 true s := by
  induction s using occurrence_induction hsep with
  | last u hu =>
    rw [collapseFrom_eq_self hu]
    exact fun h => hu h.isInfix
  | first u v hu ih =>
    rw [collapseFrom_first hsep hu]
    by_cases hne : u = []
    · rwa [if_pos ⟨hne, rfl⟩, List.nil_append]
    · rw [if_neg fun hskip => hne hskip.1, List.append_assoc]
      exact hu.append _ u (List.suffix_refl u) hne

/-- A separator comes first in what is written exactly if it comes first. -/
theorem prefix_collapseSeparator_iff (hsep : sep ≠ []) (s : Text) :
    sep <+: collapseSeparator sep s ↔ sep <+: s := by
  rw [collapseSeparator]
  rcases not_isInfix_or_first hsep s with hnone | ⟨u, v, rfl, hu⟩
  · rw [collapseFrom_eq_self hnone]
  · rw [collapseFrom_first hsep hu, if_neg (by simp), List.append_assoc]
    by_cases hne : u = []
    · subst hne
      exact iff_of_true (List.prefix_append sep _) (List.prefix_append sep v)
    · exact iff_of_false (hu.append _ u (List.suffix_refl u) hne)
        (hu.append v u (List.suffix_refl u) hne)

end Runs

/-! ## Pieces between separators -/

section PiecesBetween

variable {sep : Text}

/-- The non-empty pieces between separators. -/
def piecesBetween (sep s : Text) : List Text := (splitOn sep s).filter (· != [])

/-- Writing each run once leaves the pieces as they are. -/
theorem piecesBetween_collapseFrom (hsep : sep ≠ []) (inRun : Bool) (s : Text) :
    piecesBetween sep (collapseFrom sep 0 inRun s) = piecesBetween sep s := by
  induction s using occurrence_induction hsep generalizing inRun with
  | last u hu => rw [collapseFrom_eq_self hu]
  | first u v hu ih =>
    have hcut : ∀ y, piecesBetween sep (u ++ (sep ++ y))
        = [u].filter (· != []) ++ piecesBetween sep y := by
      intro y
      rw [piecesBetween, Text.splitOn_first hsep hu, ← List.singleton_append, List.filter_append,
        piecesBetween]
    rw [collapseFrom_first hsep hu, hcut]
    by_cases hskip : u = [] ∧ inRun = true
    · rw [if_pos hskip, List.nil_append, ih, hskip.1]
      rfl
    · rw [if_neg hskip, List.append_assoc, hcut, ih]

theorem piecesBetween_joinWith (h : Unbordered sep) (hsep : sep ≠ []) (parts : List Text) :
    piecesBetween sep (joinWith sep parts) = parts.flatMap (piecesBetween sep) := by
  induction parts with
  | nil => rfl
  | cons w ws ih =>
    cases ws with
    | nil => rw [Text.joinWith_singleton, List.flatMap_cons, List.flatMap_nil, List.append_nil]
    | cons x xs =>
      rw [Text.joinWith_cons_cons, List.append_assoc, List.flatMap_cons, ← ih, piecesBetween,
        h.splitOn_append hsep, List.filter_append, piecesBetween, piecesBetween]

end PiecesBetween

/-! ## Runs of an unbordered separator -/

section Unbordered

variable {sep : Text} (h : Unbordered sep) (hsep : sep ≠ [])
include h hsep

/-- Behind any text and a separator, too, what has been written stands for what it was written
for. -/
theorem collapseFrom_append_sep_append (inRun inRun' : Bool) (u v : Text) :
    collapseFrom sep 0 inRun (u ++ (sep ++ collapseFrom sep 0 inRun' v))
      = collapseFrom sep 0 inRun (u ++ (sep ++ v)) := by
  have htrue : collapseFrom sep 0 true (collapseFrom sep 0 inRun' v)
      = collapseFrom sep 0 true v := by
    have happend : collapseFrom sep 0 true (collapseFrom sep 0 inRun' v ++ [])
        = collapseFrom sep 0 true (v ++ []) := collapseFrom_append hsep (fun _ => rfl) v []
    rwa [List.append_nil, List.append_nil] at happend
  induction u using occurrence_induction hsep generalizing inRun with
  | last u hu =>
    have hfirst := h.beginsOutside hu
    rw [collapseFrom_first hsep hfirst, collapseFrom_first hsep hfirst, htrue]
  | first x y hx ih =>
    rw [List.append_assoc, List.append_assoc, List.append_assoc, List.append_assoc,
      collapseFrom_first hsep hx, collapseFrom_first hsep hx, ih]

/-- No two separators follow each other in what is written. -/
theorem not_isInfix_double_collapseFrom (inRun : Bool) (s : Text) :
    ¬ sep ++ sep <:+: collapseFrom sep 0 inRun s := by
  induction s using occurrence_induction hsep generalizing inRun with
  | last u hu =>
    rw [collapseFrom_eq_self hu]
    exact fun hdouble => hu ((List.prefix_append sep sep).isInfix.trans hdouble)
  | first u v hu ih =>
    rw [collapseFrom_first hsep hu]
    by_cases hskip : u = [] ∧ inRun = true
    · rw [if_pos hskip, List.nil_append]
      exact ih true
    · rw [if_neg hskip, List.append_assoc]
      rintro ⟨x, y, hxy⟩
      have heq : x ++ (sep ++ (sep ++ y)) = u ++ (sep ++ collapseFrom sep 0 true v) := by
        rw [← hxy, List.append_assoc, List.append_assoc]
      rcases h.eq_or_behind (hu.not_isInfix hsep) heq with ⟨-, hrest⟩ | ⟨z, -, hrest⟩
      · exact not_prefix_collapseFrom_true hsep v ⟨y, hrest⟩
      · exact ih true ⟨z, y, by rw [hrest, List.append_assoc, List.append_assoc]⟩

/-- What is written behind a separator is empty or ends with a separator exactly if what it was
written for is and does. -/
theorem suffix_collapseFrom_true_iff (s : Text) :
    (collapseFrom sep 0 true s = [] ∨ sep <:+ collapseFrom sep 0 true s) ↔
      (s = [] ∨ sep <:+ s) := by
  have hsome : ∀ u v, u ++ (sep ++ v) ≠ [] := fun u v =>
    List.append_ne_nil_of_right_ne_nil u (List.append_ne_nil_of_left_ne_nil hsep v)
  induction s using occurrence_induction hsep with
  | last u hu => rw [collapseFrom_eq_self hu]
  | first u v hu ih =>
    have hnone := hu.not_isInfix hsep
    rw [collapseFrom_first hsep hu, or_iff_right (hsome u v), h.suffix_append_iff hnone]
    refine Iff.trans ?_ ih
    by_cases hne : u = []
    · rw [if_pos ⟨hne, rfl⟩, List.nil_append]
    · rw [if_neg fun hskip => hne hskip.1, List.append_assoc, or_iff_right (hsome u _),
        h.suffix_append_iff hnone]

/-- A separator comes last in what is written exactly if it comes last. -/
theorem suffix_collapseSeparator_iff (s : Text) :
    sep <:+ collapseSeparator sep s ↔ sep <:+ s := by
  rw [collapseSeparator]
  rcases not_isInfix_or_first hsep s with hnone | ⟨u, v, rfl, hu⟩
  · rw [collapseFrom_eq_self hnone]
  · have hnone := hu.not_isInfix hsep
    rw [collapseFrom_first hsep hu, if_neg (by simp), List.append_assoc,
      h.suffix_append_iff hnone, h.suffix_append_iff hnone, suffix_collapseFrom_true_iff h hsep]

end Unbordered

/-! ## Joined paths -/

section Join

variable {sep : Text} {xs ys : List Text}

theorem separatorOr_ne_nil (sep : Text) : separatorOr sep ≠ [] := by
  unfold separatorOr
  split
  · exact List.cons_ne_nil '/' []
  · assumption

/-- A joined path stands for its parts in front of other parts, whatever the separator is; with no
other parts, joining it again changes nothing. -/
theorem join_join_append (hxs : xs ≠ []) (ys : List Text) (sep : Text) :
    join (join xs sep :: ys) sep = join (xs ++ ys) sep := by
  have hsep := separatorOr_ne_nil sep
  rw [join, join, join, Text.joinWith_cons, Text.joinWith_append hxs]
  exact collapseFrom_append hsep (fun hrun => hrun) _ _

/-- The separator `aba` overlaps itself: the run of three that `xaba` and `ababa` make with it ends
within the second part. -/
theorem join_join_append_aba :
    let sep := "aba".toList
    let xs := ["xaba".toList, "ababa".toList]
    xs ≠ [] ∧ join xs sep = "xababa".toList
      ∧ join [join xs sep, "ba".toList] sep = "xababaababa".toList := by
  intro sep xs
  have hxs : xs ≠ [] := List.cons_ne_nil _ _
  have hjoin := join_join_append hxs ["ba".toList] sep
  exact ⟨hxs, by decide, hjoin.trans (by decide)⟩

/-- For an unbordered separator, a joined path stands for its parts between any other parts. -/
theorem join_append_join_cons (h : Unbordered (separatorOr sep)) (xs : List Text) (hys : ys ≠ [])
    (zs : List Text) : join (xs ++ join ys sep :: zs) sep = join (xs ++ ys ++ zs) sep := by
  have hsep := separatorOr_ne_nil sep
  simp only [join, collapseSeparator]
  generalize separatorOr sep = s at h hsep
  by_cases hxs : xs = []
  · rw [hxs, List.nil_append, List.nil_append, Text.joinWith_cons, Text.joinWith_append hys]
    exact collapseFrom_append hsep (fun hrun => hrun) _ _
  · have hboth : xs ++ ys ≠ [] := List.append_ne_nil_of_left_ne_nil hxs ys
    rw [Text.joinWith_append hxs, List.flatMap_cons, Text.joinWith_append hboth,
      Text.joinWith_append hxs, Text.flatMap_eq_append_joinWith hys, ← List.append_assoc]
    -- in front of the other parts, the joined path and its parts may be collapsed first
    calc collapseFrom s 0 false
          (joinWith s xs ++ (s ++ collapseFrom s 0 false (joinWith s ys)) ++ zs.flatMap (s ++ ·))
        = collapseFrom s 0 false (collapseFrom s 0 false
            (joinWith s xs ++ (s ++ collapseFrom s 0 false (joinWith s ys)))
              ++ zs.flatMap (s ++ ·)) := (collapseFrom_append hsep (fun hrun => hrun) _ _).symm
      _ = collapseFrom s 0 false (collapseFrom s 0 false (joinWith s xs ++ (s ++ joinWith s ys))
              ++ zs.flatMap (s ++ ·)) := by rw [collapseFrom_append_sep_append h hsep]
      _ = collapseFrom s 0 false (joinWith s xs ++ (s ++ joinWith s ys) ++ zs.flatMap (s ++ ·)) :=
          collapseFrom_append hsep (fun hrun => hrun) _ _

/-- For an unbordered separator, such as any single character, a joined path holds no two separators
in a row, its pieces are those of the parts in order, it begins and ends with a separator where the
parts do when they are only put together, and it stands for its parts between any other parts. -/
theorem join_unbordered :
    (∀ c, Unbordered [c])
      ∧ ∀ sep, Unbordered (separatorOr sep) →
        (∀ parts, ¬ separatorOr sep ++ separatorOr sep <:+: join parts sep
          ∧ piecesBetween (separatorOr sep) (join parts sep)
              = parts.flatMap (piecesBetween (separatorOr sep))
          ∧ (separatorOr sep <+: join parts sep ↔
              separatorOr sep <+: joinWith (separatorOr sep) parts)
          ∧ (separatorOr sep <:+ join parts sep ↔
              separatorOr sep <:+ joinWith (separatorOr sep) parts))
        ∧ ∀ xs ys zs, ys ≠ [] → join (xs ++ join ys sep :: zs) sep = join (xs ++ ys ++ zs) sep := by
  refine ⟨Text.unbordered_singleton, fun sep h => ⟨fun parts => ?_, fun xs ys zs hys => ?_⟩⟩
  · have hsep := separatorOr_ne_nil sep
    have hpieces : piecesBetween (separatorOr sep) (join parts sep)
        = parts.flatMap (piecesBetween (separatorOr sep)) := by
      rw [join, collapseSeparator, piecesBetween_collapseFrom hsep, piecesBetween_joinWith h hsep]
    exact ⟨not_isInfix_double_collapseFrom h hsep false _, hpieces,
      prefix_collapseSeparator_iff hsep _, suffix_collapseSeparator_iff h hsep _⟩
  · exact join_append_join_cons h xs hys zs

/-- Halves of the separator `->` at the ends of parts make no separator with the one between
them. -/
theorem join_unbordered_arrow :
    let sep := "->".toList
    let parts := ["->-".toList, ">a->".toList, [], "->b-".toList]
    Unbordered (separatorOr sep)
      ∧ join parts sep = "->-->>a->b-".toList
      ∧ piecesBetween sep (join parts sep) = ["-".toList, ">a".toList, "b-".toList]
      ∧ join [parts[0], join parts.tail sep] sep = join parts sep := by
  intro sep parts
  have h : Unbordered (separatorOr sep) := by decide
  obtain ⟨hparts, hnested⟩ := join_unbordered.2 sep h
  obtain ⟨-, hpieces, -, -⟩ := hparts parts
  exact ⟨h, by decide, hpieces.trans (by decide),
    hnested [parts[0]] parts.tail [] (List.cons_ne_nil _ _)⟩

end Join

end DownloadNames.Path
