import DownloadNames.Fault.Basic
import DownloadNames.Text.LowerCase

/-
Asking a server for the headers of an address.
A probe sends one HEAD request and looks up the wanted headers in the reply, letter case of
names ignored.  Any status is an answer; only a transport that gives none is a failed fetch,
with the status 0.  What else goes wrong while asking is passed on as it is.
-/

namespace DownloadNames.Header

/-- Headers by name; a header that is not there has no value. -/
abbrev Headers := List (Text × Option Text)

/-- Why no headers could be had: a failed fetch, or an error foreign to fetching. -/
inductive Failure where
  | fetch (draft : Fault.Draft)
  | foreign (error : Fault.Cause)

/-- A HEAD request as it is handed to the transport. -/
structure HeadRequest where
  url : Text
  userAgent : Value
  timeout : Value
  allowRedirects : Value

/-- What the transport gives back. -/
inductive Reply where
  | response (status : Int) (headers : List (Text × Text))
  | timedOut (error : Fault.Cause)
  | failed (error : Fault.Cause)
  | foreign (error : Fault.Cause)

/-- The value of a header, letter case of names ignored; of two the later counts. -/
def headerValue? (headers : List (Text × Text)) (name : Text) : Option Text :=
  Assoc.find? (Text.lower name) (Assoc.putAll [] (headers.map fun (n, v) => (Text.lower n, v)))

/-- The draft of a failed fetch without any response. -/
def unreachable (url : Text) (code : Option FaultCode) (error : Fault.Cause) : Fault.Draft :=
  { subject := .headerFetch (.int 0) (.text error.message) (.text url)
    code := code
    cause := some error }

/-- The wanted headers according to a reply. -/
def Reply.headers (reply : Reply) (url : Text) (names : List Text) : Except Failure Headers :=
  match reply with
  | .response _ headers =>
    .ok (Assoc.putAll [] (names.map fun name => (name, headerValue? headers name)))
  | .timedOut error => .error (.fetch (unreachable url (some .timeout) error))
  | .failed error => .error (.fetch (unreachable url none error))
  | .foreign error => .error (.foreign error)

/-- How headers are asked for. -/
structure Probe where
  timeout : Value := .int 30
  userAgent : Value := .text "dlkit/0.3 (header probe)".toList
  allowRedirects : Value := .bool true

/-- A use of a probe: the requests sent, how often the connection was closed, and the result. -/
structure Exchange (α : Type) where
  requests : List HeadRequest
  closed : Nat
  outcome : α

namespace Probe

/-- The request for an address. -/
def request (probe : Probe) (url : Text) : HeadRequest :=
  { url := url
    userAgent := probe.userAgent
    timeout := probe.timeout
    allowRedirects := probe.allowRedirects }

/-- Fetches the wanted headers of an address over a transport. -/
def fetch (probe : Probe) (transport : HeadRequest → Reply) (url : Text) (names : List Text) :
    Except Failure Headers :=
  (transport (probe.request url)).headers url names

/-- Fetches once and closes the connection, whatever came of it. -/
def exchange (probe : Probe) (transport : HeadRequest → Reply) (url : Text) (names : List Text) :
    Exchange (Except Failure Headers) :=
  { requests := [probe.request url]
    closed := 1
    outcome := probe.fetch transport url names }

end Probe
end DownloadNames.Header
