import DownloadNames.Path.Basic

/-
Making a path or a file name safe to create.

Seven characters may stand in no path; the two slashes separate directories, so a file name
excludes them as well.  Each excluded character gives way to a replacement text.  For a path
the separators are then normalised: a run of slashes of either kind becomes one `/`, and one
leading and one trailing `/` go.

`pieces` is the other view of a path: its non-empty parts between slashes of either kind.
-/

namespace DownloadNames.Path

/-! ## Character classes -/

/-- One of the characters that may stand in no path: `* " : < > | ?`. -/
def isForbidden (c : Char) : Bool :=
  c == '*' || c == '"' || c == ':' || c == '<' || c == '>' || c == '|' || c == '?'

/-- A slash of either kind. -/
def isSeparator (c : Char) : Bool := c == '/' || c == '\\'

/-- A character that may not stand in a file name. -/
def isForbiddenInName (c : Char) : Bool := isForbidden c || isSeparator c

/-! ## Replacing -/

/-- Every character satisfying `p` replaced by the text `repl`. -/
def replaceWhere (p : Char → Bool) (repl : Text) (s : Text) : Text :=
  s.flatMap fun c => if p c then repl else [c]

@[simp] theorem replaceWhere_nil (p : Char → Bool) (repl : Text) :
    replaceWhere p repl [] = [] := rfl

@[simp] theorem replaceWhere_cons (p : Char → Bool) (repl : Text) (c : Char) (cs : Text) :
    replaceWhere p repl (c :: cs) =
      (if p c then repl else [c]) ++ replaceWhere p repl cs := by
  simp [replaceWhere]

theorem replaceWhere_append (p : Char → Bool) (repl s t : Text) :
    replaceWhere p repl (s ++ t) = replaceWhere p repl s ++ replaceWhere p repl t := by
  simp [replaceWhere]

/-- Where `repl` satisfies `p` nowhere, neither does the result. -/
theorem not_mem_replaceWhere {p : Char → Bool} {repl : Text} (h : ∀ c ∈ repl, p c = false)
    (s : Text) : ∀ c ∈ replaceWhere p repl s, p c = false := by
  induction s with
  | nil => simp
  | cons d ds ih =>
    intro c hc
    rw [replaceWhere_cons] at hc
    rcases List.mem_append.1 hc with hc | hc
    · by_cases hd : p d
      · simp only [hd, if_true] at hc; exact h c hc
      · simp only [hd] at hc
        have : c = d := by simpa using hc
        simpa [this] using hd
    · exact ih c hc

/-- A text without the characters to replace stays as it is. -/
theorem replaceWhere_eq_self {p : Char → Bool} {repl s : Text} (h : ∀ c ∈ s, p c = false) :
    replaceWhere p repl s = s := by
  induction s with
  | nil => rfl
  | cons d ds ih =>
    have hd := h d (by simp)
    simp [replaceWhere_cons, hd, ih fun c hc => h c (List.mem_cons_of_mem _ hc)]

/-- Each character that a file name excludes replaced by `repl`. -/
def safeName (name repl : Text) : Text := replaceWhere isForbiddenInName repl name

/-! ## Normalising separators -/

/-- Each run of slashes of either kind becomes one `/`; `inRun` says that the run before the
text has been written already. -/
def collapseRuns : (inRun : Bool) → Text → Text
  | _, [] => []
  | inRun, c :: cs =>
    if isSeparator c then
      if inRun then collapseRuns true cs else '/' :: collapseRuns true cs
    else c :: collapseRuns false cs

/-- Drops one leading `/`. -/
def dropLeadingSlash : Text → Text
  | '/' :: cs => cs
  | cs => cs

/-- Drops one leading and one trailing `/`. -/
def trimSlashes (s : Text) : Text :=
  (dropLeadingSlash (dropLeadingSlash s).reverse).reverse

/-- The path with every forbidden character replaced and its separators normalised. -/
def safePath (path repl : Text) : Text :=
  trimSlashes (collapseRuns false (replaceWhere isForbidden repl path))

/-- The non-empty parts of a path between slashes of either kind. -/
def pieces (path : Text) : List Text := (Text.splitBy isSeparator path).filter (· != [])

end DownloadNames.Path
