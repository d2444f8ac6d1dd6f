import DownloadNames.Charset.Percent
import DownloadNames.Proofs.Charset.Utf8

/-
Percent-decoding undoes percent-encoding.

An encoded byte sequence spells each byte either bare, as one of the characters that need no escape,
or as an escape, whose digits may be of either case (`Encoded`).  All its characters are ASCII, so
it is one run, and the bytes of the run are those that were encoded (`Encoded.decodeText_eq`).
A decoder that refuses nothing decodes a text as one that cannot (`tryDecodeText_ok`).
-/

namespace DownloadNames.Percent

/-! ## Encoded bytes -/

/-- The marks that may stand bare in an encoded text. -/
def bareMarks : Text := ['!', '#', '$', '&', '+', '-', '.', '^', '_', '\x60', '|', '~']

/-- A byte that stands bare in an encoded text: that of an ASCII letter, a digit or a mark. -/
def isBare (b : UInt8) : Bool :=
  let c := Char.ofNat b.toNat
  b < 0x80 && (c.isAlphanum || bareMarks.contains c)

/-- The digit of a value in base sixteen, in lower or in upper case. -/
def IsHexDigit (n : Nat) (c : Char) : Prop :=
  c = Text.hexDigit n ∨ c = (Text.hexDigit n).toUpper

/-- An encoding of bytes: some stand bare, and every other is written as an escape. -/
inductive Encoded : List UInt8 → Text → Prop
  | nil : Encoded [] []
  | bare {b : UInt8} {bs : List UInt8} {e : Text} (hb : isBare b = true) (he : Encoded bs e) :
      Encoded (b :: bs) (Char.ofNat b.toNat :: e)
  | escape {b : UInt8} {bs : List UInt8} {e : Text} {x y : Char} (hb : isBare b = false)
      (hx : IsHexDigit (b.toNat / 16) x) (hy : IsHexDigit (b.toNat % 16) y) (he : Encoded bs e) :
      Encoded (b :: bs) ('%' :: x :: y :: e)

/-! ## Single characters -/

/-- A byte below 0x80 is that of its character. -/
theorem asciiByte_ofNat {b : UInt8} (hb : b < 0x80) : asciiByte (Char.ofNat b.toNat) = b := by
  have hlt : b.toNat < 0x80 := UInt8.lt_iff_toNat_lt.1 hb
  have hvalid : b.toNat.isValidChar := Or.inl (by omega)
  have hchar : (Char.ofNat b.toNat).toNat = b.toNat := by
    rw [Char.ofNat, dif_pos hvalid]
    rfl
  rw [asciiByte, hchar, UInt8.ofNat_toNat]

theorem isBare_lt {b : UInt8} (hb : isBare b = true) : b < 0x80 := by
  simp only [isBare, Bool.and_eq_true, decide_eq_true_eq] at hb
  exact hb.1

theorem hexDigit?_of_isHexDigit {n : Nat} (hn : n < 16) {c : Char} (h : IsHexDigit n c) :
    Text.hexDigit? c = some n := by
  have hread : ∀ n < 16, Text.hexDigit? (Text.hexDigit n) = some n
      ∧ Text.hexDigit? (Text.hexDigit n).toUpper = some n := by decide
  rcases h with rfl | rfl
  · exact (hread n hn).1
  · exact (hread n hn).2

/-- The digits of escapes are among the characters that stand bare. -/
theorem isBare_of_isHexDigit {n : Nat} (hn : n < 16) {c : Char} (h : IsHexDigit n c) :
    ∃ b, isBare b = true ∧ c = Char.ofNat b.toNat := by
  have hbare : ∀ n < 16, isBare (asciiByte (Text.hexDigit n)) = true
      ∧ isBare (asciiByte (Text.hexDigit n).toUpper) = true := by decide
  have hchar : ∀ n < 16, Text.hexDigit n = Char.ofNat (asciiByte (Text.hexDigit n)).toNat
      ∧ (Text.hexDigit n).toUpper
        = Char.ofNat (asciiByte (Text.hexDigit n).toUpper).toNat := by decide
  rcases h with rfl | rfl
  · exact ⟨_, (hbare n hn).1, (hchar n hn).1⟩
  · exact ⟨_, (hbare n hn).2, (hchar n hn).2⟩

/-! ## Decoding -/

section Decoding

variable {bytes : List UInt8} {e : Text}

/-- The characters of an encoding are bare ones and the sign of an escape. -/
theorem Encoded.mem (h : Encoded bytes e) {c : Char} (hc : c ∈ e) :
    c = '%' ∨ ∃ b, isBare b = true ∧ c = Char.ofNat b.toNat := by
  induction h with
  | nil => cases hc
  | bare hb _ ih =>
    rcases List.mem_cons.1 hc with rfl | hc
    · exact Or.inr ⟨_, hb, rfl⟩
    · exact ih hc
  | @escape b bs e x y hb hx hy _ ih =>
    have hbyte : b.toNat < 256 := b.toNat_lt
    simp only [List.mem_cons] at hc
    rcases hc with rfl | rfl | rfl | hc
    · exact Or.inl rfl
    · exact Or.inr (isBare_of_isHexDigit (by omega) hx)
    · exact Or.inr (isBare_of_isHexDigit (by omega) hy)
    · exact ih hc

/-- What holds of `%` and of all bare characters holds of the characters of an encoding. -/
theorem Encoded.forall_mem {P : Char → Bool} (h : Encoded bytes e) (hpercent : P '%' = true)
    (hbare : ∀ n < 256, isBare (UInt8.ofNat n) = true → P (Char.ofNat n) = true) :
    ∀ c ∈ e, P c = true := by
  intro c hc
  rcases h.mem hc with rfl | ⟨b, hb, rfl⟩
  · exact hpercent
  · exact hbare b.toNat b.toNat_lt (by rwa [UInt8.ofNat_toNat])

/-- A character that begins no escape is taken as it is. -/
theorem unescape_cons {c : Char} (hc : c ≠ '%') (cs : Text) :
    unescape (c :: cs) = asciiByte c :: unescape cs := by
  rw [unescape]
  intro a b rest hpercent
  exact absurd hpercent hc

theorem ofNat_ne_percent {b : UInt8} (hb : isBare b = true) : Char.ofNat b.toNat ≠ '%' := by
  intro hc
  have hbyte : b = asciiByte '%' := by rw [← hc, asciiByte_ofNat (isBare_lt hb)]
  rw [hbyte] at hb
  exact absurd hb (by decide)

/-- Resolving the escapes undoes encoding. -/
theorem Encoded.unescape_eq (h : Encoded bytes e) : unescape e = bytes := by
  induction h with
  | nil => rfl
  | bare hb _ ih => rw [unescape_cons (ofNat_ne_percent hb), asciiByte_ofNat (isBare_lt hb), ih]
  | @escape b bs e x y hb hx hy _ ih =>
    have hbyte : b.toNat < 256 := b.toNat_lt
    -- the two digits give the byte back
    have hsplit : 16 * (b.toNat / 16) + b.toNat % 16 = b.toNat := by omega
    simp only [unescape, hexDigit?_of_isHexDigit (by omega) hx,
      hexDigit?_of_isHexDigit (by omega) hy, hsplit, UInt8.ofNat_toNat, ih]

/-- Without escapes an encoding spells its bytes. -/
theorem Encoded.eq_of_percent_not_mem (h : Encoded bytes e) (hnone : '%' ∉ e) :
    (∀ b ∈ bytes, b < 0x80) ∧ e = bytes.map fun b => Char.ofNat b.toNat := by
  induction h with
  | nil => exact ⟨List.forall_mem_nil _, rfl⟩
  | bare hb _ ih =>
    obtain ⟨hlt, heq⟩ := ih fun hmem => hnone (List.mem_cons_of_mem _ hmem)
    exact ⟨List.forall_mem_cons.2 ⟨isBare_lt hb, hlt⟩, by rw [List.map_cons, ← heq]⟩
  | escape => exact absurd List.mem_cons_self hnone

theorem runsFrom_ascii {s : Text} (h : ∀ c ∈ s, c.toNat < 0x80) (held : Text) :
    runsFrom held s = heldRun (s.reverse ++ held) := by
  induction s generalizing held with
  | nil => rfl
  | cons c cs ih =>
    obtain ⟨hc, hcs⟩ := List.forall_mem_cons.1 h
    rw [runsFrom, if_pos hc, ih hcs, List.reverse_cons, List.append_assoc]
    rfl

/-- A text of ASCII characters is one run. -/
theorem runs_ascii {s : Text} (h : ∀ c ∈ s, c.toNat < 0x80) (hne : s ≠ []) :
    runs s = [.ascii s] := by
  rw [runs, runsFrom_ascii h, List.append_nil]
  cases hrev : s.reverse with
  | nil => exact absurd (List.reverse_eq_nil_iff.1 hrev) hne
  | cons d ds => rw [heldRun, ← hrev, List.reverse_reverse]

/-- A decoder that refuses nothing decodes every text. -/
theorem tryDecodeText_ok {ε : Type} (decode : List UInt8 → Text) (s : Text) :
    tryDecodeText (fun bytes => (.ok (decode bytes) : Except ε Text)) s
      = .ok (decodeText decode s) := by
  have hrun : Run.tryDecode (fun bytes => (.ok (decode bytes) : Except ε Text))
      = fun run => pure (run.decode decode) := by
    funext run
    cases run <;> rfl
  rw [tryDecodeText, decodeText, hrun, List.mapM_pure]
  split
  · exact congrArg Except.ok List.flatMap_def.symm
  · rfl

/-- Decoding undoes encoding, up to the bytes that the character set makes a text of; it has to read
ASCII bytes as ASCII characters. -/
theorem Encoded.decodeText_eq {decode : List UInt8 → Text}
    (hascii : ∀ bytes : List UInt8, (∀ b ∈ bytes, b < 0x80) →
      decode bytes = bytes.map fun b => Char.ofNat b.toNat)
    (h : Encoded bytes e) : decodeText decode e = decode bytes := by
  by_cases hpercent : '%' ∈ e
  · have hall : ∀ c ∈ e, c.toNat < 0x80 := by
      have hbool := h.forall_mem (P := fun c => decide (c.toNat < 0x80)) (by decide)
        (by decide +kernel)
      exact fun c hc => of_decide_eq_true (hbool c hc)
    rw [decodeText, if_pos hpercent, runs_ascii hall (List.ne_nil_of_mem hpercent),
      List.flatMap_singleton, Run.decode, h.unescape_eq]
  · obtain ⟨hlt, heq⟩ := h.eq_of_percent_not_mem hpercent
    -- a text without escapes is not decoded at all
    rw [decodeText, if_neg hpercent, hascii bytes hlt, heq]

end Decoding

end DownloadNames.Percent
