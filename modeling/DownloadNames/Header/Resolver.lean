import DownloadNames.Header.Probe
import DownloadNames.Header.Guess
import DownloadNames.Header.Mime
import DownloadNames.Header.Disposition
import DownloadNames.Text.Quoted

/-
Guessing the file name of a download from its headers.
A resolver asks one source once: the one given with the call, or else its own.  A failure of
the source is the failure of the call, and so is an error of decoding the disposition.  A
disposition from which no name can be taken gives a warning.
-/

namespace DownloadNames.Header

/-- The header that may name the file. -/
def dispositionHeader : Text := "Content-Disposition".toList

/-- The header that tells the media type. -/
def contentTypeHeader : Text := "Content-Type".toList

/-- Something that can be asked for the headers of an address. -/
structure Source where
  ask : (url : Text) → (names : List Text) → Except Failure Headers

/-- Which of the two sources was asked. -/
inductive Slot where
  | standard
  | perCall
deriving DecidableEq, Repr

/-- A question put to a source. -/
structure Question where
  slot : Slot
  url : Text
  names : List Text
deriving DecidableEq, Repr

/-- A disposition without a usable name. -/
structure Warning where
  url : Text
  disposition : Text
deriving DecidableEq, Repr

/-- The wording of a warning. -/
def Warning.message (w : Warning) : Text :=
  "No usable filename in Content-Disposition for ".toList ++ w.url ++ ':' :: ' ' ::
    Text.quoted w.disposition

/-- Why there is no guess. -/
inductive NoGuess where
  | noSource
  | source (failure : Failure)
  | undecodable (error : Fault.Cause)

/-- A resolution: the questions asked, the warnings logged, and the guess. -/
structure Resolution where
  questions : List Question
  warnings : List Warning
  outcome : Except NoGuess Guess

/-- A non-empty header of the given name. -/
def present? (headers : Headers) (name : Text) : Option Text :=
  match Assoc.find? name headers with
  | some (some (c :: cs)) => some (c :: cs)
  | _ => none

/-- The file name that the headers give, if they give one. -/
def nameFrom (codecs : Codecs) (headers : Headers) : Except Fault.Cause (Option Text) :=
  match present? headers dispositionHeader with
  | none => .ok none
  | some d => nameInDisposition codecs d

/-- What the headers say about the file besides its name. -/
def guessFrom (overrides : MimeOverrides) (headers : Headers) (name : Option Text) : Guess :=
  { name
    imageExt := (present? headers contentTypeHeader).bind (imageExtension · overrides) }

/-- The warnings that the headers of an address give rise to, with the name that they give. -/
def warningsFrom (url : Text) (headers : Headers) (name : Option Text) : List Warning :=
  match present? headers dispositionHeader, name with
  | some d, none => [⟨url, d⟩]
  | _, _ => []

/-- A source of its own, if it has one, the extensions of media types, and the names of character
sets. -/
structure Resolver where
  source : Option Source := none
  overrides : MimeOverrides := standardOverrides
  codecs : Codecs := Codecs.standard

namespace Resolver

/-- The source in force and where it comes from. -/
def chosen? (r : Resolver) (perCall : Option Source) : Option (Slot × Source) :=
  match perCall, r.source with
  | some s, _ => some (.perCall, s)
  | none, some s => some (.standard, s)
  | none, none => none

/-- What is logged and guessed where the headers of an address are known. -/
def readOff (r : Resolver) (url : Text) (headers : Headers) :
    List Warning × Except NoGuess Guess :=
  match nameFrom r.codecs headers with
  | .error error => ([], .error (.undecodable error))
  | .ok name => (warningsFrom url headers name, .ok (guessFrom r.overrides headers name))

/-- Resolves an address: asks the source in force once and reads the guess off its answer. -/
def resolve (r : Resolver) (url : Text) (perCall : Option Source) : Resolution :=
  match r.chosen? perCall with
  | none => ⟨[], [], .error .noSource⟩
  | some (slot, source) =>
    let names := [dispositionHeader, contentTypeHeader]
    let question : Question := ⟨slot, url, names⟩
    match source.ask url names with
    | .error failure => ⟨[question], [], .error (.source failure)⟩
    | .ok headers =>
      let (warnings, outcome) := r.readOff url headers
      ⟨[question], warnings, outcome⟩

end Resolver
end DownloadNames.Header
