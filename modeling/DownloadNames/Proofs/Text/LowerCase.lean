import DownloadNames.Text.LowerCase

/-
Lower-casing twice is lower-casing once, and lower-casing leaves ASCII marks alone.

The only facts needed about the table of capitals are that no run of capitals leads to a capital
of any run, to `İ`, to `Σ`, to an ASCII mark or out of the scalar values.  They are decided run by
run.  Everything else follows from what lower-casing does to single characters.
-/

namespace DownloadNames.Text

/-! ## The table of capitals -/

namespace CaseRun

/-- The code point that the first capital of a run goes to. -/
def low (run : CaseRun) : Nat := (run.first + run.shift).toNat

/-- The code point that the last capital of a run goes to. -/
def high (run : CaseRun) : Nat := (run.last + run.shift).toNat

/-- The letters from `low` to `high` are no capitals of `other`: the two lie apart, or they take
turns.  `alternating` says that the letters are every second code point or a single one. -/
def misses (low high : Nat) (alternating : Bool) (other : CaseRun) : Bool :=
  -- comparisons that the kernel computes on literals; there are some 30,000 pairs of runs
  Nat.blt high other.first || Nat.blt other.last low
    || (Nat.beq other.step 2 && alternating && Nat.beq ((low + other.first) % 2) 1)

/-- No letter that the run leads to is a capital. -/
def missesAll (run : CaseRun) : Bool :=
  caseRuns.all (misses run.low run.high (Nat.beq run.step 2 || Nat.beq run.first run.last))

/-- The letters that a run leads to are scalar values, neither `İ` nor `Σ`, and of the ASCII
characters a run relates letters only. -/
def lands (run : CaseRun) : Bool :=
  decide (0 ≤ run.first + run.shift)
    && (Nat.blt run.high 0xd800 || (Nat.blt 0xdfff run.low && Nat.blt run.high 0x110000))
    && (Nat.blt run.high 0x130 || Nat.blt 0x130 run.low)
    && (Nat.blt run.high 0x3a3 || Nat.blt 0x3a3 run.low)
    && (Nat.ble 0x80 run.low || (Nat.ble 0x61 run.low && Nat.ble run.high 0x7a))
    && (Nat.ble 0x80 run.first || (Nat.ble 0x41 run.first && Nat.ble run.last 0x5a))

theorem covers_iff {run : CaseRun} {n : Nat} :
    run.covers n = true ↔
      run.first ≤ n ∧ n ≤ run.last ∧ (n - run.first) % run.step = 0 := by
  simp [covers, and_assoc]

end CaseRun

theorem caseRuns_missesAll : caseRuns.all CaseRun.missesAll = true := by decide +kernel

theorem caseRuns_lands : caseRuns.all CaseRun.lands = true := by decide +kernel

section Run

variable {run : CaseRun} {n : Nat}

/-- What `lands` says of a run of the table, in plain inequalities. -/
theorem CaseRun.bounds (hrun : run ∈ caseRuns) :
    0 ≤ run.first + run.shift
      ∧ (run.high < 0xd800 ∨ 0xdfff < run.low ∧ run.high < 0x110000)
      ∧ (run.high < 0x130 ∨ 0x130 < run.low) ∧ (run.high < 0x3a3 ∨ 0x3a3 < run.low)
      ∧ (0x80 ≤ run.low ∨ 0x61 ≤ run.low ∧ run.high ≤ 0x7a)
      ∧ (0x80 ≤ run.first ∨ 0x41 ≤ run.first ∧ run.last ≤ 0x5a) := by
  have h := List.all_eq_true.1 caseRuns_lands run hrun
  simpa [lands, and_assoc] using h

/-- A capital keeps its distance from the first capital of its run. -/
theorem CaseRun.image_eq (hrun : run ∈ caseRuns) (h : run.covers n = true) :
    (n + run.shift).toNat = run.low + (n - run.first) ∧ (n + run.shift).toNat ≤ run.high := by
  obtain ⟨hfirst, hlast, -⟩ := covers_iff.1 h
  -- no shift leads below zero, so nothing is cut off by `toNat`
  obtain ⟨hshift, -⟩ := bounds hrun
  unfold low high
  omega

/-- The letter that a capital goes to is itself no capital. -/
theorem CaseRun.not_covers_image (hrun : run ∈ caseRuns) (h : run.covers n = true)
    {other : CaseRun} (hother : other ∈ caseRuns) :
    other.covers (n + run.shift).toNat = false := by
  obtain ⟨himage, hhigh⟩ := image_eq hrun h
  obtain ⟨hfirst, hlast, hstep⟩ := covers_iff.1 h
  have hmiss := List.all_eq_true.1 (List.all_eq_true.1 caseRuns_missesAll run hrun) other hother
  simp only [misses, Bool.or_eq_true, Bool.and_eq_true, Nat.blt_eq, Nat.beq_eq] at hmiss
  rw [Bool.eq_false_iff]
  intro hcovers
  obtain ⟨hfirst', hlast', hstep'⟩ := covers_iff.1 hcovers
  rcases hmiss with (hapart | hapart) | ⟨⟨htwo, halt⟩, hodd⟩
  · omega
  · omega
  · -- the letters and the capitals have different parities
    rw [htwo] at hstep'
    rcases halt with halt | halt
    · rw [halt] at hstep
      omega
    · omega

end Run

/-! ## Single characters -/

/-- Lower-casing keeps the character, wherever it stands. -/
def IsLowered (c : Char) : Prop := c ≠ 'Σ' ∧ lowerChar c = [c]

instance (c : Char) : Decidable (IsLowered c) := inferInstanceAs (Decidable (_ ∧ _))

theorem lowerChar_eq_self {c : Char} (hdot : c.toNat ≠ 0x130)
    (hruns : ∀ run ∈ caseRuns, run.covers c.toNat = false) : lowerChar c = [c] := by
  have hnone : caseRuns.find? (·.covers c.toNat) = none :=
    List.find?_eq_none.2 fun run hrun => by simp [hruns run hrun]
  simp [lowerChar, hdot, hnone]

/-- A character is the dotted `İ`, or a capital of some run, or lower-cased to itself. -/
theorem lowerChar_cases (c : Char) :
    (lowerChar c = ['i', Char.ofNat 0x307])
      ∨ (∃ run ∈ caseRuns, run.covers c.toNat = true
          ∧ lowerChar c = [Char.ofNat (c.toNat + run.shift).toNat])
      ∨ lowerChar c = [c] := by
  by_cases hdot : c.toNat = 0x130
  · left
    simp [lowerChar, hdot]
  · cases hfind : caseRuns.find? (·.covers c.toNat) with
    | some run =>
      right; left
      have hcovers : run.covers c.toNat = true := by simpa using List.find?_some hfind
      refine ⟨run, List.mem_of_find?_eq_some hfind, hcovers, ?_⟩
      simp [lowerChar, hdot, hfind]
    | none =>
      right; right
      simp [lowerChar, hdot, hfind]

/-- The letter that a capital goes to, as a number. -/
theorem toNat_image {run : CaseRun} {n : Nat} (hrun : run ∈ caseRuns) (h : run.covers n = true) :
    (Char.ofNat (n + run.shift).toNat).toNat = (n + run.shift).toNat := by
  obtain ⟨himage, hhigh⟩ := CaseRun.image_eq hrun h
  obtain ⟨-, hscalar, -⟩ := CaseRun.bounds hrun
  have hvalid : (n + run.shift).toNat.isValidChar := by
    unfold Nat.isValidChar
    omega
  rw [Char.ofNat, dif_pos hvalid]
  rfl

/-- What a character is lower-cased to is kept by lower-casing. -/
theorem isLowered_of_mem_lowerChar {c d : Char} (hc : c ≠ 'Σ') (hd : d ∈ lowerChar c) :
    IsLowered d := by
  rcases lowerChar_cases c with h | ⟨run, hrun, hcovers, h⟩ | h
  · obtain rfl | rfl : d = 'i' ∨ d = Char.ofNat 0x307 := by simpa [h] using hd
    · decide +kernel
    · decide +kernel
  · rw [h, List.mem_singleton] at hd
    have hnat : d.toNat = (c.toNat + run.shift).toNat := by rw [hd, toNat_image hrun hcovers]
    obtain ⟨himage, hhigh⟩ := CaseRun.image_eq hrun hcovers
    obtain ⟨-, -, hdot, hsigma, -⟩ := CaseRun.bounds hrun
    -- a run leads neither to `Σ` nor to `İ` nor to another capital
    constructor
    · intro hd'
      have : d.toNat = 0x3a3 := by rw [hd']; rfl
      omega
    · refine lowerChar_eq_self (by omega) fun other hother => ?_
      rw [hnat]
      exact CaseRun.not_covers_image hrun hcovers hother
  · rw [h, List.mem_singleton] at hd
    subst hd
    exact ⟨hc, h⟩

/-! ## Texts -/

theorem isLowered_of_mem_lowerFrom {d : Char} {s : Text} {casedBefore : Bool}
    (hd : d ∈ lowerFrom casedBefore s) : IsLowered d := by
  -- a final sigma depends on what stands before, so that varies
  induction s generalizing casedBefore with
  | nil => simp [lowerFrom] at hd
  | cons c cs ih =>
    rw [lowerFrom] at hd
    rcases List.mem_append.1 hd with hd | hd
    · by_cases hc : c = 'Σ'
      · have hsigma : d = 'ς' ∨ d = 'σ' := by
          rw [if_pos hc] at hd
          split at hd
          · exact Or.inl (List.mem_singleton.1 hd)
          · exact Or.inr (List.mem_singleton.1 hd)
        rcases hsigma with rfl | rfl
        · decide +kernel
        · decide +kernel
      · rw [if_neg hc] at hd
        exact isLowered_of_mem_lowerChar hc hd
    · exact ih hd

theorem lowerFrom_eq_self {s : Text} (h : ∀ c ∈ s, IsLowered c) (casedBefore : Bool) :
    lowerFrom casedBefore s = s := by
  induction s generalizing casedBefore with
  | nil => rfl
  | cons c cs ih =>
    obtain ⟨hsigma, hc⟩ := h c List.mem_cons_self
    rw [lowerFrom, if_neg hsigma, hc, ih fun d hd => h d (List.mem_cons_of_mem _ hd)]
    rfl

/-- Lower-casing twice is lower-casing once. -/
@[simp] theorem lower_lower (s : Text) : lower (lower s) = lower s :=
  lowerFrom_eq_self (fun _ hc => isLowered_of_mem_lowerFrom hc) false

theorem lowerChar_ne_nil (c : Char) : lowerChar c ≠ [] := by
  rcases lowerChar_cases c with h | ⟨run, -, -, h⟩ | h <;> simp [h]

/-- Lower-casing leaves nothing out. -/
@[simp] theorem lower_eq_nil_iff {s : Text} : lower s = [] ↔ s = [] := by
  cases s with
  | nil => simp [lower, lowerFrom]
  | cons c cs =>
    have hne := lowerChar_ne_nil c
    by_cases hc : c = 'Σ'
    · simp only [lower, lowerFrom, if_pos hc]
      split <;> simp
    · simp [lower, lowerFrom, hc, hne]

/-! ## ASCII marks -/

/-- An ASCII character that is no letter. -/
def IsMark (c : Char) : Prop :=
  c.toNat < 0x80 ∧ ¬ (0x41 ≤ c.toNat ∧ c.toNat ≤ 0x5a) ∧ ¬ (0x61 ≤ c.toNat ∧ c.toNat ≤ 0x7a)

instance (c : Char) : Decidable (IsMark c) := inferInstanceAs (Decidable (_ ∧ _))

/-- Of all characters only the mark itself is lower-cased to a mark. -/
theorem mem_lowerChar_iff {m c : Char} (hm : IsMark m) : m ∈ lowerChar c ↔ m = c := by
  obtain ⟨hascii, hupper, hlower⟩ := hm
  constructor
  · intro h
    rcases lowerChar_cases c with hi | ⟨run, hrun, hcovers, hr⟩ | hself
    · obtain rfl | rfl : m = 'i' ∨ m = Char.ofNat 0x307 := by simpa [hi] using h
      · exact absurd ⟨by decide, by decide⟩ hlower
      · exact absurd hascii (by decide)
    · rw [hr, List.mem_singleton] at h
      have hnat : m.toNat = (c.toNat + run.shift).toNat := by rw [h, toNat_image hrun hcovers]
      obtain ⟨himage, hhigh⟩ := CaseRun.image_eq hrun hcovers
      -- where a run leads to ASCII, it leads to a letter
      obtain ⟨-, -, -, -, hletters, -⟩ := CaseRun.bounds hrun
      omega
    · rwa [hself, List.mem_singleton] at h
  · rintro rfl
    rw [lowerChar_eq_self (by omega)]
    · exact List.mem_singleton_self m
    · -- of the ASCII characters only letters are capitals
      intro run hrun
      obtain ⟨-, -, -, -, -, hfirst⟩ := CaseRun.bounds hrun
      rw [Bool.eq_false_iff]
      intro hcovers
      obtain ⟨h1, h2, -⟩ := CaseRun.covers_iff.1 hcovers
      omega

theorem mem_lowerFrom_iff {m : Char} (hm : IsMark m) {s : Text} {casedBefore : Bool} :
    m ∈ lowerFrom casedBefore s ↔ m ∈ s := by
  induction s generalizing casedBefore with
  | nil => simp [lowerFrom]
  | cons c cs ih =>
    rw [lowerFrom, List.mem_append, ih, List.mem_cons]
    apply or_congr_left
    by_cases hc : c = 'Σ'
    · -- neither form of a sigma is ASCII
      have hascii := hm.1
      rw [if_pos hc]
      split <;> rw [List.mem_singleton] <;> constructor <;> rintro rfl
      all_goals exact absurd hascii (by subst_vars; decide)
    · rw [if_neg hc, mem_lowerChar_iff hm]

/-- Lower-casing neither adds nor drops an ASCII mark. -/
theorem mem_lower_iff {m : Char} (hm : IsMark m) {s : Text} : m ∈ lower s ↔ m ∈ s :=
  mem_lowerFrom_iff hm

end DownloadNames.Text
