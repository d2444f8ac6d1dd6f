import DownloadNames.Fault.Code
import DownloadNames.Fault.Suggestion
import DownloadNames.Fault.Context

/-
Faults: errors that carry a code, suggestions and a context.
A fault is built from a draft on a context.  Building first records the subject of the fault in
the context and only then completes both; a draft with a detail that its kind does not know is
refused, and depending on where the unknown detail is noticed the subject has been recorded by
then or not.  So a refused draft may leave its subject in the context.  A fault with a suggestion of
its own is also refused if the given suggestions take none, and by then the context is complete.
-/

namespace DownloadNames.Fault

/-- The kinds of faults. -/
inductive Kind where
  | general
  | network
  | headerFetch
  | configuration
  | validation
  | template
deriving DecidableEq, Repr

namespace Kind

/-- All kinds, a kind after those that it belongs to. -/
def all : List Kind :=
  [.general, .network, .headerFetch, .configuration, .validation, .template]

/-- The name under which a kind is reported. -/
def name : Kind → String
  | general => "DLKitError"
  | network => "NetworkError"
  | headerFetch => "HeaderFetchError"
  | configuration => "ConfigurationError"
  | validation => "ValidationError"
  | template => "TemplateError"

/-- The next wider kind. -/
def wider : Kind → Option Kind
  | general => none
  | network => some .general
  | headerFetch => some .network
  | configuration => some .general
  | validation => some .general
  | template => some .validation

/-- Every fault of the first kind is also one of the second. -/
def belongsTo (a b : Kind) : Bool :=
  a = b || a.wider = some b || a.wider.bind wider = some b

/-- The code of a fault for which none is given. -/
def standardCode : Kind → FaultCode
  | general => .unknown
  | network => .connectionFailed
  | headerFetch => .connectionFailed
  | configuration => .invalidFormat
  | validation => .invalidInput
  | template => .formatError

end Kind

/-- What a fault is about; each kind has details of its own. -/
inductive Subject where
  | general (message : Value)
  | network (message url statusCode : Value)
  | headerFetch (status statusText url : Value)
  | configuration (message key value : Value)
  | validation (message field value : Value)
  | template (message template field value : Value)

namespace Subject

/-- The kind of a subject. -/
def kind : Subject → Kind
  | general _ => .general
  | network .. => .network
  | headerFetch .. => .headerFetch
  | configuration .. => .configuration
  | validation .. => .validation
  | template .. => .template

/-- The message about a failed fetch. -/
def fetchMessage (status statusText : Value) : Text :=
  "Failed to fetch headers (status ".toList ++ status.display ++ [')']
    ++ (if statusText.isTruthy then ':' :: ' ' :: statusText.display else [])

/-- The message of a subject. -/
def message : Subject → Value
  | general m => m
  | network m _ _ => m
  | headerFetch status statusText _ => .text (fetchMessage status statusText)
  | configuration m _ _ => m
  | validation m _ _ => m
  | template m _ _ _ => m

/-- Notes a value under one name and what belongs to it under another, if the first is given. -/
def notePair (first second : String) (a b : Value) (ctx : Context) : Context :=
  if a.isTruthy then (ctx.note first.toList a).note second.toList b else ctx

/-- Notes the address that could not be reached, and the status, if there is an address. -/
def recordUrl (url status : Value) (ctx : Context) : Context :=
  if url.isTruthy then { ctx with url := url }.note "status_code".toList status else ctx

/-- Sets the template of the context, if there is one. -/
def recordTemplate : Value → Context → Context
  | .scalar .null, ctx => ctx
  | t, ctx => { ctx with template := t }

/-- What a fault on this subject leaves in its context. -/
def record : Subject → Context → Context
  | general _, ctx => ctx
  | network _ url status, ctx => recordUrl url status ctx
  | headerFetch status _ url, ctx => recordUrl url status ctx
  | configuration _ key value, ctx => notePair "config_key" "config_value" key value ctx
  | validation _ field value, ctx => notePair "field_name" "field_value" field value ctx
  | template _ t field value, ctx =>
    notePair "field_name" "field_value" field value (recordTemplate t ctx)

end Subject

/-- The error behind a fault: its class and its text. -/
structure Cause where
  name : Text
  message : Text
deriving DecidableEq, Repr

/-- What a fault is built from; `extras` are the names of details that were given but that no
fault has.  The given suggestions are `sealed` if none can be added to them: they are a sequence
that does not grow, or their priorities do not compare with a number. -/
structure Draft where
  subject : Subject
  code : Option FaultCode := none
  cause : Option Cause := none
  recoverable : Value := .bool true
  suggestions : List Suggestion := []
  extras : List Text := []
  sealed : Bool := false

namespace Draft

/-- The kind of the fault to be built. -/
def kind (draft : Draft) : Kind := draft.subject.kind

/-- The code of the fault to be built. -/
def finalCode (draft : Draft) : FaultCode := draft.code.getD draft.kind.standardCode

/-- Unknown details are noticed before anything is recorded: always for a general fault, and
for a failed fetch where they clash with what the fetch itself supplies. -/
def refusedAtOnce (draft : Draft) : Bool :=
  match draft.kind with
  | .general => !draft.extras.isEmpty
  | .headerFetch =>
    draft.extras.any fun x => x = "message".toList || x = "status_code".toList
  | _ => false

end Draft

end DownloadNames.Fault

namespace DownloadNames

/-- An error with its code, the error behind it and suggestions for recovering. -/
structure Fault where
  subject : Fault.Subject
  code : FaultCode
  cause : Option Fault.Cause
  recoverable : Value
  suggestions : List Suggestion

namespace Fault

/-- A draft held a detail that its kind does not know, or suggestions that take no further one. -/
inductive Refused where
  | unknownDetail
  | sealedSuggestions
deriving DecidableEq, Repr

/-- The kind of a fault. -/
def kind (f : Fault) : Kind := f.subject.kind

/-- The message of a fault. -/
def message (f : Fault) : Value := f.subject.message

/-- The suggestion that faults of a kind carry for a code. -/
def standardSuggestion? : Kind → FaultCode → Option Suggestion
  | .network, code | .headerFetch, code => match code with
    | .connectionFailed => some
      { action := "Check internet connection".toList
        description := "Verify the URL is reachable and try again.".toList }
    | .timeout => some
      { action := "Increase the timeout".toList
        description := "The server was slow to answer the HEAD request.".toList
        command := some "DLKIT_TIMEOUT=60 dlkit resolve <url>".toList }
    | _ => none
  | .configuration, code => match code with
    | .fileNotFound => some
      { action := "Check the configuration path".toList
        description := "Pass an existing YAML or JSON file with --config.".toList }
    | .invalidValue => some
      { action := "Check configuration values".toList
        description :=
          "Review the configuration file and DLKIT_* environment variables.".toList }
    | _ => none
  | _, _ => none

/-- The given suggestions together with the one that belongs to the code. -/
def initialSuggestions (kind : Kind) (code : FaultCode) (given : List Suggestion) :
    List Suggestion :=
  match standardSuggestion? kind code with
  | some s => Suggestion.add given s
  | none => given

/-- The fault that a draft describes. -/
def ofDraft (draft : Draft) : Fault where
  subject := draft.subject
  code := draft.finalCode
  cause := draft.cause
  recoverable := draft.recoverable
  suggestions := initialSuggestions draft.kind draft.finalCode draft.suggestions

/-- Builds a fault on a context: what becomes of the context, and the fault unless the draft is
refused. -/
def build (freshId : Text) (draft : Draft) (ctx : Context) : Context × Except Refused Fault :=
  if draft.refusedAtOnce then (ctx, .error .unknownDetail)
  else if draft.extras = [] then
    ((draft.subject.record ctx).complete freshId,
      if draft.sealed && (standardSuggestion? draft.kind draft.finalCode).isSome then
        .error .sealedSuggestions
      else .ok (ofDraft draft))
  else (draft.subject.record ctx, .error .unknownDetail)

/-- The fault with one more suggestion. -/
def suggest (f : Fault) (s : Suggestion) : Fault :=
  { f with suggestions := Suggestion.add f.suggestions s }

/-- The status and its text that a failed fetch met; other faults have none. -/
def status? (f : Fault) : Option (Value × Value) :=
  match f.subject with
  | .headerFetch status statusText _ => some (status, statusText)
  | _ => none

/-- The message for the user: the error, its code and correlation id, and the first three
suggestions. -/
def report (f : Fault) (ctx : Context) : Text :=
  Text.joinWith ['\n'] <|
    ["Error: ".toList ++ f.message.display]
      ++ (if f.code = .unknown then []
        else ["Error Code: ".toList ++ Text.ofNat f.code.number])
      ++ (if ctx.correlationId.isTruthy
        then ["Correlation ID: ".toList ++ ctx.correlationId.display] else [])
      ++ (if f.suggestions.isEmpty then []
        else "\nSuggested solutions:".toList :: Suggestion.numbered 1 (f.suggestions.take 3))

end Fault
end DownloadNames
