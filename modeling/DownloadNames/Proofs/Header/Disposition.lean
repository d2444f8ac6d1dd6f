import DownloadNames.Header.Disposition
import DownloadNames.Proofs.Charset.Percent
import DownloadNames.Proofs.Text.Pieces

/-
The file name in a Content-Disposition header, for parameters among any others.

A search for a parameter passes over what stands before it, as long as the word that it looks for
does not occur there.  The name of an extended parameter is that whose bytes were written into it
(`nameInDisposition_encoded`), and the name of a plain one does not depend on the quotes around its
value (`nameInDisposition_plain_spellings`).  An extended parameter from which nothing can be
extracted is read as a plain one (`valueInstead`).
-/

namespace DownloadNames.Header

open Text (Lacks firstSuffix?)

/-! ## Searching a header -/

/-- The word that an extended parameter begins with. -/
def extendedWord : Text := filenameWord ++ ['*']

section Search

variable {p s t : Text}

theorem prefix_of_extended? {found : Text × Text} (h : extended? s = some found) :
    extendedWord <+: s := by
  cases hafter : Text.after? (filenameWord ++ ['*']) s with
  | none => simp [extended?, hafter] at h
  | some rest => exact ⟨rest, (Text.after?_eq_some_iff.1 hafter).symm⟩

theorem prefix_of_plain? {value : Text} (h : plain? s = some value) : filenameWord <+: s := by
  cases hafter : Text.after? filenameWord s with
  | none => simp [plain?, hafter] at h
  | some rest => exact ⟨rest, (Text.after?_eq_some_iff.1 hafter).symm⟩

theorem firstSuffix?_extended?_append (hp : ¬ extendedWord <:+: p) (ht : t.head? = some 'f') :
    firstSuffix? extended? (p ++ t) = firstSuffix? extended? t :=
  Text.firstSuffix?_append_of_word (fun _ _ => prefix_of_extended?) (by decide) hp ht

theorem firstSuffix?_plain?_append (hp : ¬ filenameWord <:+: p) (ht : t.head? = some 'f') :
    firstSuffix? plain? (p ++ t) = firstSuffix? plain? t :=
  Text.firstSuffix?_append_of_word (fun _ _ => prefix_of_plain?) (by decide) hp ht

/-- Without the word of an extended parameter there is none. -/
theorem firstSuffix?_extended?_eq_none (h : ¬ extendedWord <:+: s) :
    firstSuffix? extended? s = none := by
  refine Text.firstSuffix?_eq_none_iff.2 fun t ht => ?_
  rw [Option.eq_none_iff_forall_ne_some]
  intro found hfound
  exact h ((prefix_of_extended? hfound).isInfix.trans ht.isInfix)

/-- A plain parameter is not an extended one. -/
theorem firstSuffix?_extended?_plain (hp : ¬ filenameWord <:+: p) (rest : Text) :
    firstSuffix? extended? (p ++ (filenameWord ++ '=' :: rest))
      = firstSuffix? extended? rest := by
  have hword : ∀ s found, extended? s = some found → filenameWord <+: s := fun s _ h =>
    (List.prefix_append filenameWord ['*']).trans (prefix_of_extended? h)
  rw [Text.firstSuffix?_append_of_word hword (by decide) hp rfl]
  -- at `filename=` itself the sign differs, and none of its other characters is an `f`
  rfl

end Search

/-! ## The extended parameter -/

theorem expect_cons (c : Char) (s : Text) : expect c (c :: s) = some s := if_pos rfl

/-- What is found at the front of an extended parameter. -/
theorem extended?_parameter {charset language value rest : Text}
    (hcharset : Lacks (fun c => !isCharsetChar c || Text.isBlank c) charset)
    (hlanguage : ∀ c ∈ language, isLanguageChar c = true)
    (hvalue : ∀ c ∈ value, isExtendedChar c = true) (hne : value ≠ [])
    (hrest : ∀ c ∈ rest.head?, isExtendedChar c = false) :
    extended? (extendedWord ++ '=' ::
      (charset ++ '\'' :: (language ++ '\'' :: (value ++ rest)))) = some (charset, value) := by
  have hafter : ∀ t, Text.after? (filenameWord ++ ['*']) (extendedWord ++ t) = some t :=
    fun t => Text.after?_eq_some_iff.2 rfl
  have hchars : ∀ c ∈ charset, isCharsetChar c = true ∧ Text.isBlank c = false := by
    intro c hc
    simpa using hcharset c hc
  have hequals : ∀ t : Text, ('=' :: t).dropWhile Text.isBlank = '=' :: t := fun t =>
    List.dropWhile_cons_of_neg (by decide)
  have hblank : ∀ t : Text,
      (charset ++ '\'' :: t).dropWhile Text.isBlank = charset ++ '\'' :: t := by
    intro t
    cases charset with
    | nil => exact List.dropWhile_cons_of_neg (by decide)
    | cons c cs =>
      have hc : Text.isBlank c = false := (hchars c List.mem_cons_self).2
      exact List.dropWhile_cons_of_neg (by simp [hc])
  -- the name of the character set and the language tag both end at a quote
  have hset : ∀ c ∈ charset, isCharsetChar c = true := fun c hc => (hchars c hc).1
  have hcharset_take := Text.takeWhile_append_cons hset (d := '\'') (by decide)
  have hcharset_drop := Text.dropWhile_append_cons hset (d := '\'') (by decide)
  have hlanguage_drop := Text.dropWhile_append_cons hlanguage (d := '\'') (by decide)
  have hvalue_take := Text.takeWhile_append_stop hvalue hrest
  simp only [extended?, hafter, hequals, expect_cons, hblank, hcharset_take, hcharset_drop,
    hlanguage_drop, hvalue_take, Option.bind_eq_bind, Option.bind_some, if_neg hne]

/-- Where a name is that of a set that is known, no other decoder is asked. -/
theorem tryDecodeText_of_ofName? {name : Text} {set : Charset} (h : Charset.ofName? name = some set)
    (codecs : Codecs) (s : Text) :
    Percent.tryDecodeText (codecs.decode name) s = .ok (Percent.decodeText set.decode s) := by
  have hdecode : codecs.decode name = fun bytes => .ok (set.decode bytes) := by
    funext bytes
    rw [Codecs.decode, h]
  rw [hdecode, Percent.tryDecodeText_ok]

/-- An extended parameter gives the text of its bytes in the named character set, whatever comes
before and behind it. -/
theorem nameInDisposition_parameter {p charset language e rest n : Text} {set : Charset}
    {bytes : List UInt8} (hp : ¬ extendedWord <:+: p)
    (hcharset : Lacks (fun c => !isCharsetChar c || Text.isBlank c) charset)
    (hlanguage : ∀ c ∈ language, isLanguageChar c = true)
    (hrest : ∀ c ∈ rest.head?, c = ';' ∨ Text.isBlank c = true)
    (hset : Charset.ofName? (charsetOr charset) = some set)
    (hascii : ∀ bytes : List UInt8, (∀ b ∈ bytes, b < 0x80) →
      set.decode bytes = bytes.map fun b => Char.ofNat b.toNat)
    (he : Percent.Encoded bytes e) (hbytes : set.decode bytes = n) (hn : n ≠ [])
    (codecs : Codecs) :
    nameInDisposition codecs (p ++ (extendedWord ++ '=' ::
      (charset ++ '\'' :: (language ++ '\'' :: (e ++ rest))))) = .ok (some n) := by
  -- the value reaches as far as the encoding, and has no quotes to be trimmed
  have hvalue : ∀ c ∈ e, isExtendedChar c = true := he.forall_mem (by decide) (by decide +kernel)
  have hquotes : Lacks (· == '"') e := by
    have hall := he.forall_mem (P := (· != '"')) (by decide) (by decide +kernel)
    intro c hc
    simpa using hall c hc
  have hstop : ∀ c ∈ rest.head?, isExtendedChar c = false := by
    intro c hc
    rcases hrest c hc with rfl | hblank
    · decide
    · simp [isExtendedChar, hblank]
  -- an empty value would not be found; it would encode the empty name
  have hne : e ≠ [] := by
    rintro rfl
    cases he
    rw [hascii [] (List.forall_mem_nil _)] at hbytes
    exact hn hbytes.symm
  have hfound := extended?_parameter hcharset hlanguage hvalue hne hstop
  rw [nameInDisposition, firstSuffix?_extended?_append hp rfl, Text.firstSuffix?_of_some hfound]
  have hname : extendedName codecs charset e = .ok n := by
    simp only [extendedName, Text.trimBy_eq_self hquotes, tryDecodeText_of_ofName? hset,
      he.decodeText_eq hascii, hbytes]
  exact (congrArg (Except.map nonEmpty?) hname).trans (congrArg Except.ok (if_neg hn))

/-! ## The plain parameter -/

section Plain

variable {p v rest : Text}

/-- The value at the front of `s`. -/
def frontValue (s : Text) : Text := (quotedValue? s).getD (s.takeWhile fun c => !endsBare c)

/-- What is found at the front of a plain parameter; anything may stand before its `=`. -/
theorem plain?_append {w : Text} (hw : ∀ c ∈ w, (c != ';' && c != '=' && c != '\n') = true)
    (s : Text) : plain? (filenameWord ++ (w ++ '=' :: s)) = some (frontValue s) := by
  have hafter : Text.after? filenameWord (filenameWord ++ (w ++ '=' :: s)) = some (w ++ '=' :: s) :=
    Text.after?_eq_some_iff.2 rfl
  have hequals := Text.dropWhile_append_cons hw (d := '=') (by decide) s
  simp only [plain?, hafter, hequals, expect_cons, Option.bind_eq_bind, Option.bind_some]
  rfl

theorem plain?_parameter (s : Text) :
    plain? (filenameWord ++ '=' :: s)
      = some ((quotedValue? s).getD (s.takeWhile fun c => !endsBare c)) :=
  plain?_append (List.forall_mem_nil _) s

/-- A plain parameter gives its value, unless an extended parameter comes behind it. -/
theorem nameInDisposition_plain {s value : Text} (hp : ¬ filenameWord <:+: p)
    (hs : ¬ extendedWord <:+: s)
    (hvalue : (quotedValue? s).getD (s.takeWhile fun c => !endsBare c) = value)
    (codecs : Codecs) :
    nameInDisposition codecs (p ++ (filenameWord ++ '=' :: s))
      = .ok (nonEmpty? (plainName value)) := by
  have hplain := Text.firstSuffix?_of_some (plain?_parameter s)
  rw [nameInDisposition, firstSuffix?_extended?_plain hp, firstSuffix?_extended?_eq_none hs,
    firstSuffix?_plain?_append hp rfl, hplain, hvalue]
  rfl

theorem quotedValue?_bare (hv : Lacks isQuote v) (hrest : ∀ c ∈ rest.head?, c = ';') :
    quotedValue? (v ++ rest) = none := by
  have hhead : ∀ c ∈ (v ++ rest).head?, isQuote c = false := by
    intro c hc
    cases v with
    | nil =>
      obtain rfl : c = ';' := hrest c hc
      rfl
    | cons d ds =>
      obtain rfl : d = c := by simpa using hc
      exact hv d List.mem_cons_self
  cases h : v ++ rest with
  | nil => rfl
  | cons c cs =>
    have hc : isQuote c = false := hhead c (by rw [h]; rfl)
    simp [quotedValue?, hc]

/-- A value in quotes ends at the first quote of its kind. -/
theorem quotedValue?_closed {q : Char} (hq : isQuote q = true) (hv : q ∉ v) (hline : '\n' ∉ v)
    (rest : Text) : quotedValue? (q :: (v ++ q :: rest)) = some (q :: v ++ [q]) := by
  have hin : ∀ c ∈ v, (c != q && c != '\n') = true := by
    intro c hc
    have hcq : c ≠ q := fun h => hv (h ▸ hc)
    have hcn : c ≠ '\n' := fun h => hline (h ▸ hc)
    simp [hcq, hcn]
  have hstop : (q != q && q != '\n') = false := by simp
  simp only [quotedValue?, hq, if_true, Text.takeWhile_append_cons hin hstop,
    Text.dropWhile_append_cons hin hstop]

theorem quotedValue?_quoted {q : Char} (hq : isQuote q = true)
    (hv : Lacks isQuote v) (hline : '\n' ∉ v) (rest : Text) :
    quotedValue? (q :: (v ++ q :: rest)) = some (q :: v ++ [q]) := by
  refine quotedValue?_closed hq (fun hmem => ?_) hline rest
  rw [hv q hmem] at hq
  cases hq

/-- A quote that does not come again opens no value. -/
theorem quotedValue?_open {q : Char} {s : Text} (h : q ∉ s) : quotedValue? (q :: s) = none := by
  rw [quotedValue?]
  split
  · -- what the value stops at is no quote of its kind
    cases hdrop : s.dropWhile fun c => c != q && c != '\n' with
    | nil => rfl
    | cons c cs =>
      have hmem : c ∈ s := (List.dropWhile_suffix _).subset (hdrop ▸ List.mem_cons_self)
      have hne : c ≠ q := fun hc => h (hc ▸ hmem)
      exact if_neg hne
  · rfl

/-- The quotes around a value do not count. -/
theorem plainName_of_lacks (hv : Lacks isQuote v) :
    plainName v = Percent.decodeText Charset.utf8.decode (Text.trim v) := by
  have hfilter : v.filter (fun c => !isQuote c) = v := by
    rw [List.filter_eq_self]
    intro c hc
    simp [hv c hc]
  rw [plainName, hfilter]

theorem plainName_quoted {q : Char} (hq : isQuote q = true) (v : Text) :
    plainName (q :: v ++ [q]) = plainName v := by
  simp [plainName, hq]

theorem takeWhile_bare (hv : Lacks endsBare v) (hrest : ∀ c ∈ rest.head?, c = ';') :
    (v ++ rest).takeWhile (fun c => !endsBare c) = v := by
  apply Text.takeWhile_append_stop
  · intro c hc
    simp [hv c hc]
  · intro c hc
    rw [hrest c hc]
    rfl

/-- Two texts without the word do not make it at a `;`. -/
theorem extendedWord_not_within (hv : ¬ extendedWord <:+: v) (hrest : ¬ extendedWord <:+: rest)
    (hstop : ∀ c ∈ rest.head?, c = ';') : ¬ extendedWord <:+: v ++ rest := by
  cases rest with
  | nil => rwa [List.append_nil]
  | cons c cs =>
    obtain rfl : c = ';' := hstop c rfl
    rw [Text.infix_append_cons_iff (by decide) (by decide)]
    exact not_or.2 ⟨hv, fun h => hrest (h.trans (List.suffix_cons ';' cs).isInfix)⟩

theorem extendedWord_not_within_quoted {q : Char} (hq : isQuote q = true)
    (hv : ¬ extendedWord <:+: v) (hrest : ¬ extendedWord <:+: rest) :
    ¬ extendedWord <:+: q :: (v ++ q :: rest) := by
  have hnone : Lacks isQuote extendedWord := by decide
  have hmem : q ∉ extendedWord := by
    intro hmem
    rw [hnone q hmem] at hq
    cases hq
  have hnil : ¬ extendedWord <:+: [] := by decide
  rw [← List.nil_append (q :: (v ++ q :: rest)), Text.infix_append_cons_iff hmem (by decide),
    Text.infix_append_cons_iff hmem (by decide)]
  exact not_or.2 ⟨hnil, not_or.2 ⟨hv, hrest⟩⟩

end Plain

/-! ## Extended parameters from which nothing can be extracted -/

section Instead

variable {p x v : Text}

/-- The value that is read instead, where `x` stands in the place of an extended value and the next
parameter is `filename` with a value in double quotes: what `x` has in quotes at its front, or all
of it.  A double quote that `x` leaves open is closed by the one that opens the next value. -/
def valueInstead : Text → Text
  | [] => []
  | q :: y =>
    if isQuote q then
      if q ∈ y then y.takeWhile (· != q)
      else if q = '"' then y ++ "; filename=".toList
      else y
    else q :: y

theorem plainName_cons {q : Char} (hq : isQuote q = true) (v : Text) :
    plainName (q :: v) = plainName v := by
  simp [plainName, hq]

theorem plainName_frontValue_closed {q : Char} (hq : isQuote q = true) (hv : q ∉ v)
    (hline : '\n' ∉ v) (rest : Text) :
    plainName (frontValue (q :: (v ++ q :: rest))) = plainName v := by
  rw [frontValue, quotedValue?_closed hq hv hline, Option.getD_some, plainName_quoted hq]

/-- Up to a `;` a text is read as a bare value, if it is not read as one in quotes. -/
theorem frontValue_bare (hsemicolon : ';' ∉ x) (hline : '\n' ∉ x) {rest : Text}
    (hnone : quotedValue? (x ++ ';' :: rest) = none) : frontValue (x ++ ';' :: rest) = x := by
  have hchars : ∀ c ∈ x, (!endsBare c) = true := by
    intro c hc
    have h1 : c ≠ ';' := fun h => hsemicolon (h ▸ hc)
    have h2 : c ≠ '\n' := fun h => hline (h ▸ hc)
    simp [endsBare, h1, h2]
  rw [frontValue, hnone, Option.getD_none, Text.takeWhile_append_cons hchars (by decide)]

/-- A quoted value that `x` closes is read up to there. -/
theorem plainName_instead_closed {q : Char} (hq : isQuote q = true) (hmem : q ∈ x)
    (hline : '\n' ∉ x) (rest : Text) :
    plainName (frontValue (q :: (x ++ rest))) = plainName (x.takeWhile (· != q)) := by
  obtain ⟨a, b, rfl, ha⟩ := List.eq_append_cons_of_mem hmem
  have hchars : ∀ c ∈ a, (c != q) = true := fun c hc => bne_iff_ne.2 fun h => ha (h ▸ hc)
  have haline : '\n' ∉ a := fun h => hline (List.mem_append_left _ h)
  rw [Text.takeWhile_append_cons hchars (by simp), List.append_assoc, List.cons_append,
    plainName_frontValue_closed hq ha haline]

/-- A double quote that `x` leaves open is closed where the next value is opened. -/
theorem plainName_instead_open (hmem : '"' ∉ x) (hline : '\n' ∉ x) (rest : Text) :
    plainName (frontValue ('"' :: (x ++ "; filename=\"".toList ++ rest)))
      = plainName (x ++ "; filename=".toList) := by
  have hcut : x ++ "; filename=\"".toList ++ rest = x ++ "; filename=".toList ++ '"' :: rest := by
    simp
  have hopen : '"' ∉ x ++ "; filename=".toList := by
    rw [List.mem_append, not_or]
    exact ⟨hmem, by decide⟩
  have hopenline : '\n' ∉ x ++ "; filename=".toList := by
    rw [List.mem_append, not_or]
    exact ⟨hline, by decide⟩
  rw [hcut, plainName_frontValue_closed (by decide) hopen hopenline]

/-- The name of the value that is read instead. -/
theorem plainName_instead (hsemicolon : ';' ∉ x) (hline : '\n' ∉ x) (hsingle : '\'' ∉ v) :
    plainName (frontValue (x ++ "; filename=\"".toList ++ v ++ ['"']))
      = plainName (valueInstead x) := by
  have hbare : quotedValue? (x ++ "; filename=\"".toList ++ v ++ ['"']) = none →
      frontValue (x ++ "; filename=\"".toList ++ v ++ ['"']) = x := by
    intro hnone
    rw [List.append_assoc, List.append_assoc] at hnone ⊢
    exact frontValue_bare hsemicolon hline hnone
  cases x with
  | nil => rfl
  | cons q y =>
    obtain ⟨-, hyline⟩ := not_or.1 (mt List.mem_cons.2 hline)
    rw [valueInstead]
    by_cases hq : isQuote q = true
    · rw [if_pos hq]
      by_cases hmem : q ∈ y
      · rw [if_pos hmem]
        simpa using plainName_instead_closed hq hmem hyline ("; filename=\"".toList ++ v ++ ['"'])
      · rw [if_neg hmem]
        by_cases hdouble : q = '"'
        · subst hdouble
          rw [if_pos rfl]
          simpa using plainName_instead_open hmem hyline (v ++ ['"'])
        · -- a single quote is closed nowhere, as the next value is in double quotes
          obtain rfl : q = '\'' := by simpa [isQuote, hdouble] using hq
          have hopen : '\'' ∉ y ++ "; filename=\"".toList ++ v ++ ['"'] := by simp [hmem, hsingle]
          rw [if_neg hdouble, hbare (quotedValue?_open hopen), plainName_cons hq]
    · have hnone : quotedValue? (q :: y ++ "; filename=\"".toList ++ v ++ ['"']) = none := by
        rw [List.cons_append, List.cons_append, List.cons_append, quotedValue?, if_neg hq]
      rw [if_neg hq, hbare hnone]

end Instead

/-! ## Names that a header gives -/

/-- A name whose bytes are written into an extended parameter is given back, whatever stands before
and behind the parameter: its bytes in UTF-8, or, where no character is beyond U+00FF, one byte for
each character. -/
theorem nameInDisposition_encoded {p l e s n : Text} (hp : ¬ "filename*".toList <:+: p)
    (hl : ∀ c ∈ l, isLanguageChar c = true)
    (hs : ∀ c ∈ s.head?, c = ';' ∨ Text.isBlank c = true) (hn : n ≠ []) (codecs : Codecs) :
    (Percent.Encoded (Utf8.encode n) e →
        nameInDisposition codecs (p ++ "filename*=UTF-8'".toList ++ l ++ ['\''] ++ e ++ s)
          = .ok (some n))
      ∧ ((∀ c ∈ n, c.toNat ≤ 0xFF) → Percent.Encoded (n.map fun c => UInt8.ofNat c.toNat) e →
        nameInDisposition codecs (p ++ "filename*=ISO-8859-1'".toList ++ l ++ ['\''] ++ e ++ s)
          = .ok (some n)) := by
  constructor
  · intro he
    have hset : Charset.ofName? (charsetOr "UTF-8".toList) = some .utf8 := by decide
    have hresult := nameInDisposition_parameter hp (by decide) hl hs hset
      (fun _ => Utf8.decode_ascii) he (Utf8.decode_encode n) hn codecs
    simpa [extendedWord, filenameWord] using hresult
  · intro hlatin he
    have hset : Charset.ofName? (charsetOr "ISO-8859-1".toList) = some .latin1 := by
      decide
    have hdecode : Charset.latin1.decode (n.map fun c => UInt8.ofNat c.toNat) = n := by
      rw [Charset.decode, List.map_map]
      refine (List.map_congr_left fun c hc => ?_).trans (List.map_id n)
      have hbyte : c.toNat < 256 := Nat.lt_succ_of_le (hlatin c hc)
      rw [Function.comp_apply, UInt8.toNat_ofNat_of_lt' hbyte, Char.ofNat_toNat, id]
    have hresult := nameInDisposition_parameter hp (by decide) hl hs hset
      (fun _ _ => rfl) he hdecode hn codecs
    simpa [extendedWord, filenameWord] using hresult

/-- Characters of one to four bytes, with digits of either case in the escapes, between two plain
parameters. -/
theorem nameInDisposition_encoded_between_plain :
    let p := "attachment; filename=\"a.txt\"; ".toList
    let s := "; filename=b".toList
    nameInDisposition Codecs.standard (p ++ "filename*=UTF-8'".toList ++ "en-GB".toList ++ ['\'']
        ++ "n%20%c3%A9%E2%82%aC%F0%9f%98%80".toList ++ s) = .ok (some "n é€😀".toList)
      ∧ nameInDisposition Codecs.standard (p ++ "filename*=ISO-8859-1'".toList ++ [] ++ ['\'']
        ++ "%e9%3B".toList ++ s) = .ok (some "é;".toList) := by
  intro p s
  have hp : ¬ "filename*".toList <:+: p := Text.not_isInfix_of_occurs (by decide)
  have hs : ∀ c ∈ s.head?, c = ';' ∨ Text.isBlank c = true := by
    intro c hc
    exact Or.inl (Option.some.inj hc).symm
  have hl : ∀ c ∈ "en-GB".toList, isLanguageChar c = true :=
    List.all_eq_true.1 (by decide)
  have hlow : ∀ c ∈ "é;".toList, c.toNat ≤ 0xFF := by
    have hall : "é;".toList.all (fun c => decide (c.toNat ≤ 0xFF)) = true := by decide
    exact fun c hc => of_decide_eq_true (List.all_eq_true.1 hall c hc)
  have hutf8 : Percent.Encoded (Utf8.encode "n é€😀".toList)
      "n%20%c3%A9%E2%82%aC%F0%9f%98%80".toList := by
    have hbytes : Utf8.encode "n é€😀".toList
        = [0x6E, 0x20, 0xC3, 0xA9, 0xE2, 0x82, 0xAC, 0xF0, 0x9F, 0x98, 0x80] := by decide
    rw [hbytes]
    exact .bare (by decide) <| .escape (by decide) (Or.inl rfl) (Or.inl rfl) <|
      .escape (by decide) (Or.inl rfl) (Or.inl rfl) <|
      .escape (by decide) (Or.inr rfl) (Or.inl rfl) <|
      .escape (by decide) (Or.inr rfl) (Or.inl rfl) <|
      .escape (by decide) (Or.inl rfl) (Or.inl rfl) <|
      .escape (by decide) (Or.inl rfl) (Or.inr rfl) <|
      .escape (by decide) (Or.inr rfl) (Or.inl rfl) <|
      .escape (by decide) (Or.inl rfl) (Or.inl rfl) <|
      .escape (by decide) (Or.inl rfl) (Or.inl rfl) <|
      .escape (by decide) (Or.inl rfl) (Or.inl rfl) <| .nil
  have hlatin : Percent.Encoded ("é;".toList.map fun c => UInt8.ofNat c.toNat)
      "%e9%3B".toList := by
    have hbytes : ("é;".toList.map fun c => UInt8.ofNat c.toNat) = [0xE9, 0x3B] := by
      decide
    rw [hbytes]
    exact .escape (by decide) (Or.inl rfl) (Or.inl rfl) <|
      .escape (by decide) (Or.inl rfl) (Or.inr rfl) <| .nil
  exact ⟨(nameInDisposition_encoded hp hl hs (by decide) _).1 hutf8,
    (nameInDisposition_encoded hp (List.forall_mem_nil _) hs (by decide) _).2
      hlow hlatin⟩

/-- The three spellings of a plain parameter, without quotes and with quotes of either kind, give
the same name: the value trimmed and percent-decoded, if that is not empty.  Between quotes the
value may hold a `;`. -/
theorem nameInDisposition_plain_spellings {p v s : Text} (hp : ¬ "filename".toList <:+: p)
    (hdouble : '"' ∉ v) (hsingle : '\'' ∉ v) (hline : '\n' ∉ v)
    (hv : ¬ "filename*".toList <:+: v) (hs : ∀ c ∈ s.head?, c = ';')
    (hsv : ¬ "filename*".toList <:+: s) (codecs : Codecs) :
    let name := nonEmpty? (Percent.decodeText Charset.utf8.decode (Text.trim v))
    nameInDisposition codecs (p ++ "filename=\"".toList ++ v ++ ['"'] ++ s) = .ok name
      ∧ nameInDisposition codecs (p ++ "filename='".toList ++ v ++ ['\''] ++ s) = .ok name
      ∧ (';' ∉ v →
          nameInDisposition codecs (p ++ "filename=".toList ++ v ++ s) = .ok name) := by
  intro name
  have hlacks : Lacks isQuote v := by
    intro c hc
    have h1 : c ≠ '"' := fun h => hdouble (h ▸ hc)
    have h2 : c ≠ '\'' := fun h => hsingle (h ▸ hc)
    simp [isQuote, h1, h2]
  -- one argument for both kinds of quotes
  have hquoted : ∀ q, isQuote q = true →
      nameInDisposition codecs (p ++ (filenameWord ++ '=' :: q :: (v ++ q :: s)))
        = .ok name := by
    intro q hq
    have hvalue := quotedValue?_quoted hq hlacks hline s
    rw [nameInDisposition_plain hp (extendedWord_not_within_quoted hq hv hsv)
      (by rw [hvalue, Option.getD_some]), plainName_quoted hq, plainName_of_lacks hlacks]
  refine ⟨?_, ?_, fun hsemicolon => ?_⟩
  · simpa [filenameWord] using hquoted '"' (by decide)
  · simpa [filenameWord] using hquoted '\'' (by decide)
  · have hbare : Lacks endsBare v := by
      intro c hc
      have h1 : c ≠ ';' := fun h => hsemicolon (h ▸ hc)
      have h2 : c ≠ '\n' := fun h => hline (h ▸ hc)
      simp [endsBare, h1, h2]
    have hvalue : (quotedValue? (v ++ s)).getD ((v ++ s).takeWhile fun c => !endsBare c) = v := by
      rw [quotedValue?_bare hlacks hs, Option.getD_none, takeWhile_bare hbare hs]
    have hname := nameInDisposition_plain hp (extendedWord_not_within hv hsv hs) hvalue codecs
    rw [plainName_of_lacks hlacks] at hname
    simpa [filenameWord] using hname

/-- A value with blanks around it, an escape and a sign that begins none, before another
parameter. -/
theorem nameInDisposition_plain_spellings_escape :
    let p := "form-data; name=x; ".toList
    let v := "  a%20b%zz\t".toList
    let s := "; filename=b".toList
    let name : Except Fault.Cause (Option Text) := .ok (some "a b%zz".toList)
    nameInDisposition Codecs.standard (p ++ "filename=\"".toList ++ v ++ ['"'] ++ s) = name
      ∧ nameInDisposition Codecs.standard (p ++ "filename='".toList ++ v ++ ['\''] ++ s) = name
      ∧ nameInDisposition Codecs.standard (p ++ "filename=".toList ++ v ++ s) = name := by
  intro p v s name
  have hs : ∀ c ∈ s.head?, c = ';' := fun c hc => (Option.some.inj hc).symm
  have hname : nonEmpty? (Percent.decodeText Charset.utf8.decode (Text.trim v))
      = some "a b%zz".toList := by decide
  obtain ⟨hdouble, hsingle, hbare⟩ := nameInDisposition_plain_spellings (p := p) (v := v)
    (Text.not_isInfix_of_occurs (by decide)) (by decide) (by decide) (by decide)
    (Text.not_isInfix_of_occurs (by decide)) hs (Text.not_isInfix_of_occurs (by decide))
    Codecs.standard
  rw [hname] at hdouble hsingle hbare
  exact ⟨hdouble, hsingle, hbare (by decide)⟩

/-- An extended parameter from which nothing can be extracted hides a plain one behind it: it is
read as a plain parameter itself, and the value behind it does not count. -/
theorem nameInDisposition_unusable_extended {p x v : Text} (hp : ¬ "filename".toList <:+: p)
    (hsemicolon : ';' ∉ x) (hline : '\n' ∉ x) (hsingle : '\'' ∉ v)
    (hnone : ∀ t, t <:+ p ++ "filename*=".toList ++ x ++ "; filename=\"".toList ++ v ++ ['"'] →
      extended? t = none) (codecs : Codecs) :
    let name := plainName (valueInstead x)
    let found := nameInDisposition codecs
      (p ++ "filename*=".toList ++ x ++ "; filename=\"".toList ++ v ++ ['"'])
    found = .ok (nonEmpty? name) ∧ (v ≠ [] → (found = .ok (some v) ↔ name = v)) := by
  intro name found
  have hfound : found = .ok (nonEmpty? name) := by
    have hcut : p ++ "filename*=".toList ++ x ++ "; filename=\"".toList ++ v ++ ['"']
        = p ++ (filenameWord ++ (['*'] ++ '=' :: (x ++ "; filename=\"".toList ++ v ++ ['"']))) := by
      simp [filenameWord]
    have hplain := Text.firstSuffix?_of_some
      (plain?_append (w := ['*']) (List.forall_mem_singleton.2 (by decide))
        (x ++ "; filename=\"".toList ++ v ++ ['"']))
    rw [hcut] at hnone
    simp only [found, name, nameInDisposition]
    rw [hcut, Text.firstSuffix?_eq_none_iff.2 hnone, firstSuffix?_plain?_append hp rfl, hplain,
      Option.bind_some, plainName_instead hsemicolon hline hsingle]
  refine ⟨hfound, fun hv => ?_⟩
  rw [hfound, Except.ok.injEq, nonEmpty?]
  split
  · next hname =>
    rw [hname]
    exact ⟨fun h => (nomatch h), fun h => absurd h.symm hv⟩
  · exact Option.some_inj

/-- A character set without a value, nothing at all, and what happens to be the name behind it. -/
theorem nameInDisposition_unusable_extended_empty :
    nameInDisposition Codecs.standard "attachment; filename*=UTF-8''; filename=\"cat.png\"".toList
        = .ok (some "UTF-8".toList)
      ∧ nameInDisposition Codecs.standard "attachment; filename*=; filename=\"cat.png\"".toList
        = .ok none
      ∧ nameInDisposition Codecs.standard
          "attachment; filename*=cat.png; filename=\"cat.png\"".toList
        = .ok (some "cat.png".toList) := by
  have hnone : ∀ s : Text, (firstSuffix? extended? s).isNone = true →
      ∀ t, t <:+ s → extended? t = none := fun s h =>
    Text.firstSuffix?_eq_none_iff.1 (Option.isNone_iff_eq_none.1 h)
  have hp : ¬ "filename".toList <:+: "attachment; ".toList :=
    Text.not_isInfix_of_occurs (by decide)
  have hset : plainName (valueInstead "UTF-8''".toList) = "UTF-8".toList := by decide
  have hnothing : plainName (valueInstead []) = [] := by decide
  have hsame : plainName (valueInstead "cat.png".toList) = "cat.png".toList := by decide
  refine ⟨?_, ?_, ?_⟩
  · have h := nameInDisposition_unusable_extended (x := "UTF-8''".toList) (v := "cat.png".toList) hp
      (by decide) (by decide) (by decide) (hnone _ (by decide)) Codecs.standard
    rw [hset] at h
    exact h.1
  · have h := nameInDisposition_unusable_extended (x := []) (v := "cat.png".toList) hp (by decide)
      (by decide) (by decide) (hnone _ (by decide)) Codecs.standard
    rw [hnothing] at h
    exact h.1
  · have h := nameInDisposition_unusable_extended (x := "cat.png".toList) (v := "cat.png".toList) hp
      (by decide) (by decide) (by decide) (hnone _ (by decide)) Codecs.standard
    exact (h.2 (by decide)).2 hsame

/-- Such a parameter is not always passed over: without a value the name of a character set is
given for the file name. -/
theorem not_all_unusable_extended_passed_over :
    ¬ ∀ p x v : Text, ¬ "filename".toList <:+: p → ';' ∉ x → '\n' ∉ x →
      (∀ t, t <:+ p ++ "filename*=".toList ++ x ++ "; filename=\"".toList ++ v ++ ['"'] →
        extended? t = none) →
      v ≠ [] → Lacks isQuote v → '%' ∉ v → '\n' ∉ v → Text.trim v = v →
      nameInDisposition Codecs.standard
        (p ++ "filename*=".toList ++ x ++ "; filename=\"".toList ++ v ++ ['"'])
          = .ok (some v) := by
  intro h
  have hnone : firstSuffix? extended?
      "attachment; filename*=UTF-8''; filename=\"cat.png\"".toList = none := by
    rw [← Option.isNone_iff_eq_none]
    decide
  have hgiven : nameInDisposition Codecs.standard
      "attachment; filename*=UTF-8''; filename=\"cat.png\"".toList
        = .ok (some "UTF-8".toList) := rfl
  have hpassed := h "attachment; ".toList "UTF-8''".toList "cat.png".toList
    (Text.not_isInfix_of_occurs (by decide))
    (by decide) (by decide) (Text.firstSuffix?_eq_none_iff.1 hnone) (by decide) (by decide)
    (by decide) (by decide) (by decide)
  have hsame := Option.some.inj (Except.ok.inj (hgiven.symm.trans hpassed))
  revert hsame
  decide

end DownloadNames.Header
