import DownloadNames.Header.Resolver
import DownloadNames.Proofs.Assoc
import DownloadNames.Proofs.Text.Pieces

/-
What a resolution depends on, and what it asks, answers and logs.

Of the reply to a probe only the values of two headers count: the disposition decides about the name
and the warnings, and the media type about the extension, neither about the other.  Whatever the
source, a resolution asks it once and passes its failure on.

A disposition that gives no name is warned about, unless its bytes are refused
(`UndecodableDisposition`): that error leaves the resolution at once.  It takes an extended
parameter with an escape and a character set that is none of the known ones
(`refused_of_nameInDisposition`).
-/

namespace DownloadNames.Header

/-! ## The headers of a reply -/

/-- The value of the last header with a name, letter case of names ignored. -/
def lastHeader? (name : Text) (headers : List (Text × Text)) : Option Text :=
  Assoc.lastValue? (fun n => Text.lower n = Text.lower name) headers

theorem headerValue?_eq_lastHeader? (headers : List (Text × Text)) (name : Text) :
    headerValue? headers name = lastHeader? name headers := by
  rw [headerValue?]
  exact Assoc.find?_putAll_map Text.lower (Text.lower name) headers

/-- The headers that a resolution asks for. -/
def wantedHeaders : List Text := [dispositionHeader, contentTypeHeader]

/-- Of a response a resolution sees the last header of each wanted name, unless it is empty. -/
theorem present?_wanted {name : Text} (hname : name ∈ wantedHeaders) (given : List (Text × Text)) :
    present? (Assoc.putAll [] (wantedHeaders.map fun name => (name, headerValue? given name))) name
      = (lastHeader? name given).bind nonEmpty? := by
  have hfound : Assoc.find? name (Assoc.putAll []
      (wantedHeaders.map fun name => (name, headerValue? given name)))
        = some (headerValue? given name) := by
    have hne : dispositionHeader ≠ contentTypeHeader := by decide
    obtain rfl | rfl : name = dispositionHeader ∨ name = contentTypeHeader := by
      simpa [wantedHeaders] using hname
    · simp [wantedHeaders, Assoc.put, Assoc.find?, hne]
    · simp [wantedHeaders, Assoc.put, Assoc.find?, hne]
  rw [present?, hfound, headerValue?_eq_lastHeader?]
  cases lastHeader? name given with
  | none => rfl
  | some value => cases value <;> rfl

/-! ## Undecodable dispositions -/

section Undecodable

variable {codecs : Codecs} {headers : Headers} {d s : Text} {error : Fault.Cause}

theorem exists_of_mapM_error {α β ε : Type} {f : α → Except ε β} {e : ε} {l : List α}
    (h : l.mapM f = .error e) : ∃ a ∈ l, f a = .error e := by
  induction l with
  | nil => cases h
  | cons a as ih =>
    rw [List.mapM_cons] at h
    cases ha : f a with
    | error e' =>
      rw [ha] at h
      cases h
      exact ⟨a, List.mem_cons_self, ha⟩
    | ok b =>
      cases has : as.mapM f with
      | error e' =>
        rw [ha, has] at h
        cases h
        obtain ⟨a', ha', hf⟩ := ih has
        exact ⟨a', List.mem_cons_of_mem a ha', hf⟩
      | ok bs =>
        rw [ha, has] at h
        cases h

/-- What refuses a text refuses the bytes of one of its runs, so the text has an escape. -/
theorem refused_of_tryDecodeText {ε : Type} {decode : List UInt8 → Except ε Text} {e : ε}
    (h : Percent.tryDecodeText decode s = .error e) :
    '%' ∈ s ∧ ∃ bytes, decode bytes = .error e := by
  rw [Percent.tryDecodeText] at h
  split at h
  · next hpercent =>
    refine ⟨hpercent, ?_⟩
    cases hruns : (Percent.runs s).mapM (Percent.Run.tryDecode decode) with
    | ok texts =>
      rw [hruns] at h
      cases h
    | error e' =>
      rw [hruns] at h
      cases h
      obtain ⟨run, -, hrun⟩ := exists_of_mapM_error hruns
      cases run with
      | ascii t => exact ⟨_, hrun⟩
      | other c => cases hrun
  · cases h

/-- A disposition is refused only by what a system makes of the name of a character set that is none
of the known ones. -/
theorem refused_of_nameInDisposition (h : nameInDisposition codecs d = .error error) :
    ∃ charset value, Text.firstSuffix? extended? d = some (charset, value) ∧ '%' ∈ value
      ∧ Charset.ofName? (charsetOr charset) = none
      ∧ ∃ bytes, codecs (charsetOr charset) bytes = .error (.refused error) := by
  rw [nameInDisposition] at h
  split at h
  · next charset value hfound =>
    have hrefused : Percent.tryDecodeText (codecs.decode (charsetOr charset))
        (Text.trimBy (· == '"') value) = .error (.refused error) := by
      simp only [extendedName] at h
      split at h
      · cases h
      · cases h
      · next hrefused =>
        cases h
        exact hrefused
    obtain ⟨hpercent, bytes, hbytes⟩ := refused_of_tryDecodeText hrefused
    rw [Codecs.decode] at hbytes
    split at hbytes
    · cases hbytes
    · next hname =>
      have hvalue : '%' ∈ value := (Text.mem_trimBy_iff (by decide)).1 hpercent
      exact ⟨charset, value, hfound, hvalue, hname, bytes, hbytes⟩
  · cases h

/-- The headers have a disposition whose bytes are refused. -/
def UndecodableDisposition (codecs : Codecs) (headers : Headers) (error : Fault.Cause) : Prop :=
  ∃ d, Assoc.find? dispositionHeader headers = some (some d) ∧ d ≠ []
    ∧ nameInDisposition codecs d = .error error

theorem present?_eq_some_iff {name value : Text} :
    present? headers name = some value ↔
      Assoc.find? name headers = some (some value) ∧ value ≠ [] := by
  rw [present?]
  split
  · next c cs hfound =>
    rw [hfound]
    simp only [Option.some.injEq, iff_self_and]
    rintro rfl
    exact List.cons_ne_nil c cs
  · next hnot =>
    refine iff_of_false (by simp) ?_
    rintro ⟨hfound, hne⟩
    obtain ⟨c, cs, rfl⟩ := List.exists_cons_of_ne_nil hne
    exact hnot c cs hfound

theorem nameFrom_eq_error_iff :
    nameFrom codecs headers = .error error ↔ UndecodableDisposition codecs headers error := by
  simp only [UndecodableDisposition, ← and_assoc, ← present?_eq_some_iff]
  rw [nameFrom]
  cases present? headers dispositionHeader <;> simp

end Undecodable

/-! ## Guesses and warnings -/

attribute [ext] Guess

section Guesses

variable {r : Resolver} {url : Text} {headers first second : Headers} {name : Option Text}

/-- A warning names a disposition that is not empty, and there is one only without a name. -/
theorem mem_warningsFrom_iff {w : Warning} :
    w ∈ warningsFrom url headers name ↔
      w.url = url ∧ Assoc.find? dispositionHeader headers = some (some w.disposition)
        ∧ w.disposition ≠ [] ∧ name = none := by
  obtain ⟨u, d⟩ := w
  rw [← and_assoc (a := Assoc.find? _ _ = _), ← present?_eq_some_iff]
  cases hd : present? headers dispositionHeader with
  | none => simp [warningsFrom, hd]
  | some d' =>
    cases name with
    | none => simp [warningsFrom, hd, eq_comm]
    | some name => simp [warningsFrom, hd]

theorem length_warningsFrom_le (url : Text) (headers : Headers) (name : Option Text) :
    (warningsFrom url headers name).length ≤ 1 := by
  unfold warningsFrom
  split <;> simp

theorem readOff_of_error {error : Fault.Cause} (h : nameFrom r.codecs headers = .error error) :
    r.readOff url headers = ([], .error (.undecodable error)) := by
  rw [Resolver.readOff, h]

theorem readOff_of_ok (h : nameFrom r.codecs headers = .ok name) :
    r.readOff url headers
      = (warningsFrom url headers name, .ok (guessFrom r.overrides headers name)) := by
  rw [Resolver.readOff, h]

/-- The name and the warnings are read off the disposition. -/
theorem disposition_decides (r : Resolver) (url : Text)
    (h : present? first dispositionHeader = present? second dispositionHeader) :
    (r.readOff url first).1 = (r.readOff url second).1
      ∧ (r.readOff url first).2.map Guess.name = (r.readOff url second).2.map Guess.name := by
  have hname : nameFrom r.codecs first = nameFrom r.codecs second := by
    rw [nameFrom, nameFrom, h]
  cases hsecond : nameFrom r.codecs second with
  | error error =>
    rw [readOff_of_error hsecond, readOff_of_error (hname.trans hsecond)]
    exact ⟨rfl, rfl⟩
  | ok name =>
    rw [readOff_of_ok hsecond, readOff_of_ok (hname.trans hsecond)]
    refine ⟨?_, rfl⟩
    simp only [warningsFrom, h]

theorem imageExt_of_readOff {guess : Guess} (h : (r.readOff url headers).2 = .ok guess) :
    guess.imageExt
      = (present? headers contentTypeHeader).bind (imageExtension · r.overrides) := by
  rw [Resolver.readOff] at h
  split at h <;> cases h
  rfl

/-- The extension is read off the media type. -/
theorem contentType_decides {guess guess' : Guess}
    (h : present? first contentTypeHeader = present? second contentTypeHeader)
    (hfirst : (r.readOff url first).2 = .ok guess)
    (hsecond : (r.readOff url second).2 = .ok guess') :
    guess.imageExt = guess'.imageExt := by
  rw [imageExt_of_readOff hfirst, imageExt_of_readOff hsecond, h]

/-- Both headers together decide about everything. -/
theorem readOff_congr (hname : present? first dispositionHeader = present? second dispositionHeader)
    (hext : present? first contentTypeHeader = present? second contentTypeHeader) :
    r.readOff url first = r.readOff url second := by
  simp only [Resolver.readOff, nameFrom, warningsFrom, guessFrom, hname, hext]

end Guesses

/-! ## Resolutions over any source -/

section Sources

variable {r : Resolver} {perCall : Option Source} {slot : Slot} {asked : Source} {url : Text}
  {headers : Headers}

/-- A source given with the call comes before that of the resolver. -/
theorem chosen?_eq_some_iff :
    r.chosen? perCall = some (slot, asked) ↔
      (slot = .perCall ∧ perCall = some asked)
        ∨ (slot = .standard ∧ perCall = none ∧ r.source = some asked) := by
  obtain ⟨own, overrides, codecs⟩ := r
  cases perCall <;> cases own <;> simp [Resolver.chosen?, eq_comm]

theorem exists_chosen? (h : perCall ≠ none ∨ r.source ≠ none) :
    ∃ slot asked, r.chosen? perCall = some (slot, asked) := by
  cases hperCall : perCall with
  | some asked => exact ⟨_, asked, chosen?_eq_some_iff.2 (Or.inl ⟨rfl, rfl⟩)⟩
  | none =>
    cases hown : r.source with
    | some asked => exact ⟨_, asked, chosen?_eq_some_iff.2 (Or.inr ⟨rfl, rfl, hown⟩)⟩
    | none => simp [hperCall, hown] at h

theorem resolve_of_ok (hchosen : r.chosen? perCall = some (slot, asked))
    (hask : asked.ask url wantedHeaders = .ok headers) :
    r.resolve url perCall = ⟨[⟨slot, url, wantedHeaders⟩], (r.readOff url headers).1,
      (r.readOff url headers).2⟩ := by
  rw [wantedHeaders] at hask
  simp only [Resolver.resolve, hchosen, hask]
  rfl

theorem resolve_of_error {failure : Failure} (hchosen : r.chosen? perCall = some (slot, asked))
    (hask : asked.ask url wantedHeaders = .error failure) :
    r.resolve url perCall = ⟨[⟨slot, url, wantedHeaders⟩], [], .error (.source failure)⟩ := by
  rw [wantedHeaders] at hask
  simp only [Resolver.resolve, hchosen, hask]
  rfl

/-- Whatever becomes of it, a resolution asks the source in force, and asks it once. -/
theorem questions_resolve (hchosen : r.chosen? perCall = some (slot, asked)) :
    (r.resolve url perCall).questions = [⟨slot, url, wantedHeaders⟩] := by
  cases hask : asked.ask url wantedHeaders with
  | error failure => rw [resolve_of_error hchosen hask]
  | ok headers => rw [resolve_of_ok hchosen hask]

/-- An undecodable disposition is the failure of the resolution, and nothing is logged. -/
theorem resolve_of_undecodable {error : Fault.Cause}
    (hchosen : r.chosen? perCall = some (slot, asked))
    (hask : asked.ask url wantedHeaders = .ok headers)
    (h : UndecodableDisposition r.codecs headers error) :
    (r.resolve url perCall).outcome = .error (.undecodable error)
      ∧ (r.resolve url perCall).warnings = [] := by
  rw [resolve_of_ok hchosen hask, readOff_of_error (nameFrom_eq_error_iff.2 h)]
  exact ⟨rfl, rfl⟩

/-- Otherwise there is a guess, and a disposition is logged unless it is empty or gives the name. -/
theorem resolve_of_decodable (hchosen : r.chosen? perCall = some (slot, asked))
    (hask : asked.ask url wantedHeaders = .ok headers)
    (h : ∀ error, ¬ UndecodableDisposition r.codecs headers error) :
    ∃ guess, (r.resolve url perCall).outcome = .ok guess
      ∧ (r.resolve url perCall).warnings.length ≤ 1
      ∧ ∀ w, w ∈ (r.resolve url perCall).warnings ↔
          w.url = url ∧ Assoc.find? dispositionHeader headers = some (some w.disposition)
            ∧ w.disposition ≠ [] ∧ guess.name = none := by
  cases hname : nameFrom r.codecs headers with
  | error error => exact absurd (nameFrom_eq_error_iff.1 hname) (h error)
  | ok name =>
    rw [resolve_of_ok hchosen hask, readOff_of_ok hname]
    exact ⟨_, rfl, length_warningsFrom_le url headers name, fun w => mem_warningsFrom_iff⟩

end Sources

/-! ## Resolutions over a probe -/

/-- The source that asks a probe over a transport. -/
def Probe.source (probe : Probe) (transport : HeadRequest → Reply) : Source :=
  ⟨probe.fetch transport⟩

/-- A resolution over a given source: one that is the resolver's own, or that comes with the
call. -/
def Resolver.resolveOver (r : Resolver) (slot : Slot) (asked : Source) (url : Text) : Resolution :=
  match slot with
  | .standard => { r with source := some asked }.resolve url none
  | .perCall => r.resolve url (some asked)

section Probes

variable {r : Resolver} {slot : Slot} {url : Text} {headers : Headers}

theorem resolveOver_of_ok {asked : Source} (hask : asked.ask url wantedHeaders = .ok headers) :
    r.resolveOver slot asked url = ⟨[⟨slot, url, wantedHeaders⟩], (r.readOff url headers).1,
      (r.readOff url headers).2⟩ := by
  cases slot with
  | standard =>
    have hchosen : ({ r with source := some asked } : Resolver).chosen? none
        = some (.standard, asked) := rfl
    exact resolve_of_ok hchosen hask
  | perCall =>
    have hchosen : r.chosen? (some asked) = some (.perCall, asked) := rfl
    exact resolve_of_ok hchosen hask

/-- A response reaches a resolver as the last header of each wanted name. -/
theorem ask_source_of_response {probe : Probe} {transport : HeadRequest → Reply} {status : Int}
    {given : List (Text × Text)}
    (h : transport (probe.request url) = .response status given) :
    ∃ headers, (probe.source transport).ask url wantedHeaders = .ok headers
      ∧ ∀ name ∈ wantedHeaders,
          present? headers name = (lastHeader? name given).bind nonEmpty? := by
  have hask : (probe.source transport).ask url wantedHeaders
      = (Reply.response status given).headers url wantedHeaders := by
    rw [← h]
    rfl
  exact ⟨_, hask, fun name hname => present?_wanted hname given⟩

end Probes

/-! ## One reply to every request -/

/-- A transport that gives one response to every request. -/
def answering (status : Int) (given : List (String × String)) : HeadRequest → Reply :=
  fun _ => .response status (given.map fun e => (e.1.toList, e.2.toList))

/-- What a resolver makes of a transport, asked through a probe that comes with the call. -/
def resolution (transport : HeadRequest → Reply) : Resolution :=
  ({} : Resolver).resolveOver .perCall (({} : Probe).source transport) "https://h/x".toList

theorem resolution_eq (transport : HeadRequest → Reply) :
    resolution transport
      = ({} : Resolver).resolve "https://h/x".toList (some (({} : Probe).source transport)) :=
  rfl

theorem lastHeader?_singleton (name value : Text) :
    lastHeader? name [(name, value)] = some value := by
  simp [lastHeader?, Assoc.lastValue?]

/-- A disposition that is refused and stands alone in a response is seen by the resolver. -/
theorem exists_undecodable_answering {d : String} {error : Fault.Cause} (hne : d.toList ≠ [])
    (hrefused : nameInDisposition Codecs.standard d.toList = .error error) :
    ∃ headers, (({} : Probe).source (answering 200 [("Content-Disposition", d)])).ask
        "https://h/x".toList wantedHeaders = .ok headers
      ∧ UndecodableDisposition Codecs.standard headers error := by
  have hreply : answering 200 [("Content-Disposition", d)]
      (({} : Probe).request "https://h/x".toList)
        = .response 200 [("Content-Disposition".toList, d.toList)] := rfl
  obtain ⟨headers, hask, hpresent⟩ := ask_source_of_response hreply
  have hd : present? headers dispositionHeader = some d.toList := by
    rw [hpresent _ (by decide)]
    refine (congrArg (Option.bind · nonEmpty?)
      (lastHeader?_singleton dispositionHeader d.toList)).trans ?_
    exact if_neg hne
  obtain ⟨hfound, -⟩ := present?_eq_some_iff.1 hd
  exact ⟨headers, hask, d.toList, hfound, hne, hrefused⟩

/-- In Punycode a byte beyond ASCII is refused. -/
theorem nameInDisposition_refused :
    nameInDisposition Codecs.standard "attachment; filename*=punycode''%C4".toList
      = .error ⟨"UnicodeDecodeError".toList,
          "'ascii' codec can't decode byte 0xc4 in position 0: ordinal not in range(128)".toList⟩ :=
  (rfl)

/-! ## What decides about a resolution -/

/-- Over a probe, two responses with one disposition give one name, or are refused alike, and the
same warnings; two with one media type give one extension; and two that agree in both are resolved
alike, whatever else they hold.

Over any source, the one given with the call or else that of the resolver is asked once, and its
failure is passed on without a warning.  Where it gives headers, a disposition whose bytes are
refused is the failure, without a warning; and otherwise there is a guess, and a warning is logged
if the disposition is not empty and gives no name.  Bytes are refused only in an extended parameter
with an escape, by what the system makes of a character set other than the known ones. -/
theorem resolve_depends_on_two_headers (r : Resolver) (url : Text) :
    (∀ (slot : Slot) (probe : Probe) (one other : HeadRequest → Reply) (status status' : Int)
        (given given' : List (Text × Text)),
      one (probe.request url) = .response status given →
      other (probe.request url) = .response status' given' →
      let first := r.resolveOver slot (probe.source one) url
      let second := r.resolveOver slot (probe.source other) url
      let oneDisposition :=
        lastHeader? dispositionHeader given = lastHeader? dispositionHeader given'
      let oneContentType :=
        lastHeader? contentTypeHeader given = lastHeader? contentTypeHeader given'
      (oneDisposition → first.outcome.map Guess.name = second.outcome.map Guess.name
          ∧ first.warnings = second.warnings)
        ∧ (oneContentType → ∀ guess guess', first.outcome = .ok guess →
            second.outcome = .ok guess' → guess.imageExt = guess'.imageExt)
        ∧ (oneDisposition → oneContentType → first = second))
      ∧ (∀ perCall : Option Source, perCall ≠ none ∨ r.source ≠ none →
        ∃ slot asked,
          ((slot = .perCall ∧ perCall = some asked)
            ∨ (slot = .standard ∧ perCall = none ∧ r.source = some asked))
          ∧ (r.resolve url perCall).questions = [⟨slot, url, wantedHeaders⟩]
          ∧ (∀ failure, asked.ask url wantedHeaders = .error failure →
              (r.resolve url perCall).outcome = .error (.source failure)
                ∧ (r.resolve url perCall).warnings = [])
          ∧ ∀ headers, asked.ask url wantedHeaders = .ok headers →
              (∀ error, UndecodableDisposition r.codecs headers error →
                (r.resolve url perCall).outcome = .error (.undecodable error)
                  ∧ (r.resolve url perCall).warnings = [])
              ∧ ((∀ error, ¬ UndecodableDisposition r.codecs headers error) →
                ∃ guess, (r.resolve url perCall).outcome = .ok guess
                  ∧ (r.resolve url perCall).warnings.length ≤ 1
                  ∧ ∀ w, w ∈ (r.resolve url perCall).warnings ↔
                      w.url = url
                        ∧ Assoc.find? dispositionHeader headers = some (some w.disposition)
                        ∧ w.disposition ≠ [] ∧ guess.name = none))
      ∧ ∀ d error, nameInDisposition r.codecs d = .error error →
          ∃ charset value, Text.firstSuffix? extended? d = some (charset, value) ∧ '%' ∈ value
            ∧ Charset.ofName? (charsetOr charset) = none
            ∧ ∃ bytes, r.codecs (charsetOr charset) bytes = .error (.refused error) := by
  refine ⟨?_, ?_, fun d error => refused_of_nameInDisposition⟩
  · intro slot probe one other status status' given given' hone hother first second
      oneDisposition oneContentType
    obtain ⟨headers, hask, hpresent⟩ := ask_source_of_response hone
    obtain ⟨headers', hask', hpresent'⟩ := ask_source_of_response hother
    have hfirst : first = _ := resolveOver_of_ok hask
    have hsecond : second = _ := resolveOver_of_ok hask'
    have hdisposition : oneDisposition →
        present? headers dispositionHeader = present? headers' dispositionHeader := fun hd => by
      rw [hpresent _ (by decide), hpresent' _ (by decide), hd]
    have hcontentType : oneContentType →
        present? headers contentTypeHeader = present? headers' contentTypeHeader := fun hc => by
      rw [hpresent _ (by decide), hpresent' _ (by decide), hc]
    rw [hfirst, hsecond]
    refine ⟨fun hd => ?_, fun hc guess guess' => contentType_decides (hcontentType hc),
      fun hd hc => ?_⟩
    · obtain ⟨hwarnings, hname⟩ := disposition_decides r url (hdisposition hd)
      exact ⟨hname, hwarnings⟩
    · rw [readOff_congr (hdisposition hd) (hcontentType hc)]
  · intro perCall hgiven
    obtain ⟨slot, asked, hchosen⟩ := exists_chosen? hgiven
    refine ⟨slot, asked, chosen?_eq_some_iff.1 hchosen, questions_resolve hchosen,
      fun failure hask => ?_, fun headers hask => ⟨fun error => ?_, ?_⟩⟩
    · rw [resolve_of_error hchosen hask]
      exact ⟨rfl, rfl⟩
    · exact resolve_of_undecodable hchosen hask
    · exact resolve_of_decodable hchosen hask

/-- Names of headers in any case and order, a header that is overridden, and another status make no
difference.  A character set that refuses the bytes of the name ends a resolution silently. -/
theorem resolve_depends_on_two_headers_shuffled :
    let one := answering 200 [("Content-Type", "text/html"),
      ("CONTENT-DISPOSITION", "attachment; filename=cat.png"), ("content-type", "image/jpeg")]
    let other := answering 404 [("CONTENT-TYPE", "image/jpeg"),
      ("content-disposition", "attachment; filename=cat.png")]
    let refused := answering 200 [("Content-Disposition", "attachment; filename*=punycode''%C4")]
    resolution one = resolution other
      ∧ (resolution other).outcome.toOption = some ⟨some "cat.png".toList, some ".jpg".toList⟩
      ∧ (resolution refused).outcome = .error (.undecodable ⟨"UnicodeDecodeError".toList,
          "'ascii' codec can't decode byte 0xc4 in position 0: ordinal not in range(128)".toList⟩)
      ∧ (resolution refused).warnings = [] := by
  intro one other refused
  obtain ⟨htwo, hany, -⟩ := resolve_depends_on_two_headers {} "https://h/x".toList
  obtain ⟨-, -, hsame⟩ := htwo .perCall {} one other 200 404 _ _ rfl rfl
  obtain ⟨headers, hask, hundecodable⟩ :=
    exists_undecodable_answering (by decide) nameInDisposition_refused
  obtain ⟨slot, asked, hasked, -, -, hheaders⟩ :=
    hany (some (({} : Probe).source refused)) (Or.inl (Option.some_ne_none _))
  rcases hasked with ⟨-, hsource⟩ | ⟨-, hsource, -⟩
  · cases hsource
    exact ⟨hsame (by decide) (by decide), by decide, (hheaders _ hask).1 _ hundecodable⟩
  · cases hsource

/-- Not every disposition that gives no name is warned about, and not every response is resolved to
a guess. -/
theorem not_all_nameless_warned :
    (¬ ∀ d : String, d ≠ "" → (∀ n, nameInDisposition Codecs.standard d.toList ≠ .ok (some n)) →
        (resolution (answering 200 [("Content-Disposition", d)])).warnings ≠ [])
      ∧ ¬ ∀ given, ∃ guess, (resolution (answering 200 given)).outcome = .ok guess := by
  obtain ⟨headers, hask, hundecodable⟩ :=
    exists_undecodable_answering (by decide) nameInDisposition_refused
  have hchosen (source : Source) :
      ({} : Resolver).chosen? (some source) = some (.perCall, source) := rfl
  obtain ⟨houtcome, hwarnings⟩ := resolve_of_undecodable (hchosen _) hask hundecodable
  rw [← resolution_eq] at houtcome hwarnings
  refine ⟨fun h => ?_, fun h => ?_⟩
  · refine h "attachment; filename*=punycode''%C4" (by decide) (fun n hn => ?_) hwarnings
    rw [nameInDisposition_refused] at hn
    cases hn
  · obtain ⟨guess, hguess⟩ := h [("Content-Disposition", "attachment; filename*=punycode''%C4")]
    rw [houtcome] at hguess
    cases hguess

end DownloadNames.Header
