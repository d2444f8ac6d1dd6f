import DownloadNames.Charset.Utf8

/-
Decoding UTF-8 undoes encoding it.

The bytes of a character are a first byte, which tells how many follow, and tail bytes of six bits
each.  The machine that decodes is followed through them: `first_two` and its kin say what a first
byte leaves unfinished, and `run_more` and `run_last` what a tail byte within its range adds.
-/

namespace DownloadNames.Utf8

/-! ## First bytes -/

theorem toNat_byte {k : Nat} (hk : k < 256) : (UInt8.ofNat k).toNat = k :=
  UInt8.toNat_ofNat_of_lt' hk

theorem byte_add_eq_iff {m j k : Nat} {b : UInt8} (hb : b.toNat = m + j) (hk : m + k < 256) :
    UInt8.ofNat (m + k) = b ↔ k = j := by
  rw [← UInt8.toNat_inj, toNat_byte hk, hb, Nat.add_left_cancel_iff]

theorem first_one {n : Nat} (h : n < 0x80) :
    first (UInt8.ofNat n) = ([some (Char.ofNat n)], none) := by
  have hn : (UInt8.ofNat n).toNat = n := toNat_byte (by omega)
  simp only [first, UInt8.lt_iff_toNat_lt, hn, UInt8.reduceToNat]
  rw [if_pos h]

theorem first_two {k : Nat} (h2 : 2 ≤ k) (h : k < 0x20) :
    first (UInt8.ofNat (0xC0 + k)) = ([], some ⟨1, k, 0x80, 0xBF⟩) := by
  have hn : (UInt8.ofNat (0xC0 + k)).toNat = 0xC0 + k := toNat_byte (by omega)
  simp only [first, UInt8.lt_iff_toNat_lt, hn, UInt8.reduceToNat]
  rw [if_neg (by omega), if_neg (by omega), if_pos (by omega), Nat.add_sub_cancel_left]

/-- After the first of three bytes, the range of the second excludes what fewer bytes encode, and
surrogates. -/
theorem first_three {k : Nat} (h : k < 0x10) :
    first (UInt8.ofNat (0xE0 + k))
      = ([], some ⟨2, k, if k = 0 then 0xA0 else 0x80, if k = 0xD then 0x9F else 0xBF⟩) := by
  have hn : (UInt8.ofNat (0xE0 + k)).toNat = 0xE0 + k := toNat_byte (by omega)
  have hlow : UInt8.ofNat (0xE0 + k) = 0xE0 ↔ k = 0 := byte_add_eq_iff rfl (by omega)
  have hhigh : UInt8.ofNat (0xE0 + k) = 0xED ↔ k = 0xD := byte_add_eq_iff rfl (by omega)
  simp only [first, UInt8.lt_iff_toNat_lt, hlow, hhigh, hn, UInt8.reduceToNat]
  rw [if_neg (by omega), if_neg (by omega), if_neg (by omega), if_pos (by omega),
    Nat.add_sub_cancel_left]

/-- After the first of four bytes, the range of the second excludes what fewer bytes encode, and
what is beyond the last character. -/
theorem first_four {k : Nat} (h : k < 5) :
    first (UInt8.ofNat (0xF0 + k))
      = ([], some ⟨3, k, if k = 0 then 0x90 else 0x80, if k = 4 then 0x8F else 0xBF⟩) := by
  have hn : (UInt8.ofNat (0xF0 + k)).toNat = 0xF0 + k := toNat_byte (by omega)
  have hlow : UInt8.ofNat (0xF0 + k) = 0xF0 ↔ k = 0 := byte_add_eq_iff rfl (by omega)
  have hhigh : UInt8.ofNat (0xF0 + k) = 0xF4 ↔ k = 4 := byte_add_eq_iff rfl (by omega)
  simp only [first, UInt8.lt_iff_toNat_lt, hlow, hhigh, hn, UInt8.reduceToNat]
  rw [if_neg (by omega), if_neg (by omega), if_neg (by omega), if_neg (by omega), if_pos (by omega),
    Nat.add_sub_cancel_left]

/-! ## Steps of a run -/

theorem run_cons (state : Option Pending) (b : UInt8) (bs : List UInt8) :
    run state (b :: bs) = (step state b).1 ++ run (step state b).2 bs := by
  cases state <;> rfl

/-- A byte that completes nothing leaves a state for the bytes after it. -/
theorem run_first {b : UInt8} {p : Pending} (h : first b = ([], some p)) (bs : List UInt8) :
    run none (b :: bs) = run (some p) bs := by
  rw [run_cons, step, h]
  rfl

section Tail

variable {bits k : Nat} {low high : UInt8} (hk : k < 64) (hlow : low.toNat ≤ 0x80 + k)
  (hhigh : 0x80 + k ≤ high.toNat)
include hk hlow hhigh

/-- A tail byte within the range adds its bits. -/
theorem next_tail (need : Nat) :
    next ⟨need, bits, low, high⟩ (UInt8.ofNat (0x80 + k))
      = if need ≤ 1 then ([some (Char.ofNat (bits * 64 + k))], none)
        else ([], some ⟨need - 1, bits * 64 + k, 0x80, 0xBF⟩) := by
  have hn : (UInt8.ofNat (0x80 + k)).toNat = 0x80 + k := toNat_byte (by omega)
  simp only [next, UInt8.le_iff_toNat_le, hn]
  rw [if_pos ⟨hlow, hhigh⟩, Nat.add_sub_cancel_left]

/-- The last tail byte completes the character. -/
theorem run_last (bs : List UInt8) :
    run (some ⟨1, bits, low, high⟩) (UInt8.ofNat (0x80 + k) :: bs)
      = some (Char.ofNat (bits * 64 + k)) :: run none bs := by
  rw [run_cons, step, next_tail hk hlow hhigh, if_pos (Nat.le_refl 1)]
  rfl

/-- After a tail byte before the last, any tail byte may come. -/
theorem run_more (need : Nat) (bs : List UInt8) :
    run (some ⟨need + 2, bits, low, high⟩) (UInt8.ofNat (0x80 + k) :: bs)
      = run (some ⟨need + 1, bits * 64 + k, 0x80, 0xBF⟩) bs := by
  rw [run_cons, step, next_tail hk hlow hhigh, if_neg (by omega)]
  rfl

end Tail

theorem tail_bounds {k : Nat} (hk : k < 64) :
    (0x80 : UInt8).toNat ≤ 0x80 + k ∧ 0x80 + k ≤ (0xBF : UInt8).toNat := by
  simp only [UInt8.reduceToNat]
  omega

/-! ## Characters -/

section Character

variable {n : Nat} (bs : List UInt8)

theorem run_two (h : 0x80 ≤ n) (h' : n < 0x800) :
    run none (UInt8.ofNat (0xC0 + n / 64) :: UInt8.ofNat (0x80 + n % 64) :: bs)
      = some (Char.ofNat n) :: run none bs := by
  have hlast : n % 64 < 64 := Nat.mod_lt n (by omega)
  obtain ⟨hlow, hhigh⟩ := tail_bounds hlast
  have hbits : n / 64 * 64 + n % 64 = n := by omega
  rw [run_first (first_two (by omega) (by omega)), run_last hlast hlow hhigh, hbits]

theorem run_three (h : 0x800 ≤ n) (h' : n < 0x10000) (hscalar : n < 0xD800 ∨ 0xDFFF < n) :
    run none (UInt8.ofNat (0xE0 + n / 4096) :: UInt8.ofNat (0x80 + n / 64 % 64)
      :: UInt8.ofNat (0x80 + n % 64) :: bs) = some (Char.ofNat n) :: run none bs := by
  have hlast : n % 64 < 64 := Nat.mod_lt n (by omega)
  obtain ⟨hl, hh⟩ := tail_bounds hlast
  have hmid : n / 64 % 64 < 64 := Nat.mod_lt _ (by omega)
  -- the second byte is within its narrower range, as three bytes are needed and `n` is no surrogate
  have hlow : (if n / 4096 = 0 then (0xA0 : UInt8) else 0x80).toNat ≤ 0x80 + n / 64 % 64 := by
    split <;> simp only [UInt8.reduceToNat] <;> omega
  have hhigh : 0x80 + n / 64 % 64 ≤ (if n / 4096 = 0xD then (0x9F : UInt8) else 0xBF).toNat := by
    split <;> simp only [UInt8.reduceToNat] <;> omega
  have hbits : (n / 4096 * 64 + n / 64 % 64) * 64 + n % 64 = n := by omega
  rw [run_first (first_three (by omega)), run_more hmid hlow hhigh, run_last hlast hl hh, hbits]

theorem run_four (h : 0x10000 ≤ n) (h' : n < 0x110000) :
    run none (UInt8.ofNat (0xF0 + n / 262144) :: UInt8.ofNat (0x80 + n / 4096 % 64)
      :: UInt8.ofNat (0x80 + n / 64 % 64) :: UInt8.ofNat (0x80 + n % 64) :: bs)
      = some (Char.ofNat n) :: run none bs := by
  have hlast : n % 64 < 64 := Nat.mod_lt n (by omega)
  obtain ⟨hl, hh⟩ := tail_bounds hlast
  have hthird : n / 64 % 64 < 64 := Nat.mod_lt _ (by omega)
  obtain ⟨hl3, hh3⟩ := tail_bounds hthird
  have hsecond : n / 4096 % 64 < 64 := Nat.mod_lt _ (by omega)
  -- the same for the second of four bytes, as `n` is within the last plane
  have hlow : (if n / 262144 = 0 then (0x90 : UInt8) else 0x80).toNat ≤ 0x80 + n / 4096 % 64 := by
    split <;> simp only [UInt8.reduceToNat] <;> omega
  have hhigh : 0x80 + n / 4096 % 64 ≤ (if n / 262144 = 4 then (0x8F : UInt8) else 0xBF).toNat := by
    split <;> simp only [UInt8.reduceToNat] <;> omega
  have hbits : ((n / 262144 * 64 + n / 4096 % 64) * 64 + n / 64 % 64) * 64 + n % 64 = n := by
    omega
  rw [run_first (first_four (by omega)), run_more hsecond hlow hhigh, run_more hthird hl3 hh3,
    run_last hlast hl hh, hbits]

end Character

/-- The bytes of a character are read as this character, whatever follows. -/
theorem run_encodeChar_append (c : Char) (bs : List UInt8) :
    run none (encodeChar c ++ bs) = some c :: run none bs := by
  have hscalar : c.toNat < 0xD800 ∨ 0xDFFF < c.toNat ∧ c.toNat < 0x110000 := c.valid
  have hc : Char.ofNat c.toNat = c := Char.ofNat_toNat c
  generalize hn : c.toNat = n at hscalar hc
  -- by the number of bytes
  simp only [encodeChar, hn]
  split
  · next h1 =>
    rw [List.singleton_append, run_cons, step, first_one h1, hc]
    rfl
  split
  · next h1 h2 =>
    have hread := run_two bs (by omega) h2
    rwa [hc] at hread
  split
  · next h1 h2 h3 =>
    have hread := run_three bs (by omega) h3 (by omega)
    rwa [hc] at hread
  · next h1 h2 h3 =>
    have hread := run_four (n := n) bs (by omega) (by omega)
    rwa [hc] at hread

/-! ## Texts -/

theorem units_encode (s : Text) : units (encode s) = s.map some := by
  induction s with
  | nil => rfl
  | cons c cs ih =>
    rw [encode, List.flatMap_cons, units, run_encodeChar_append, List.map_cons]
    exact congrArg (some c :: ·) ih

/-- Decoding undoes encoding. -/
theorem decode_encode (s : Text) : decode (encode s) = s := by
  rw [decode, units_encode, List.map_map]
  exact List.map_id s

/-- ASCII bytes are read as ASCII characters. -/
theorem decode_ascii {bytes : List UInt8} (h : ∀ b ∈ bytes, b < 0x80) :
    decode bytes = bytes.map fun b => Char.ofNat b.toNat := by
  have hunits : units bytes = bytes.map fun b => some (Char.ofNat b.toNat) := by
    induction bytes with
    | nil => rfl
    | cons b bs ih =>
      obtain ⟨hb, hbs⟩ := List.forall_mem_cons.1 h
      have hrest := ih hbs
      rw [units] at hrest ⊢
      rw [run_cons, step, first, if_pos hb, hrest]
      rfl
  rw [decode, hunits, List.map_map]
  rfl

end DownloadNames.Utf8
