import DownloadNames.Value.Basic

/-
The circumstances in which a fault arose.
A context may be shared: every fault that is built on it adds what it knows, so later faults
on the same context also show what earlier ones recorded.  The correlation id ties the faults
of one context together; it and the description of the system are filled in by the first fault
and then stay.
-/

namespace DownloadNames

/-- What is known of the running system: given by the caller or observed on the spot. -/
inductive SystemInfo where
  | given (entries : Entries)
  | observed

namespace SystemInfo

/-- Nothing is known of the system. -/
def isEmpty : SystemInfo → Bool
  | .given entries => entries.isEmpty
  | .observed => false

end SystemInfo

/-- The circumstances of one or more faults; what is not known is `null`.  The time is that at which
the circumstances were first described. -/
structure Context where
  operation : Value := .text []
  url : Value := .null
  filePath : Value := .null
  template : Value := .null
  correlationId : Value := .null
  timestamp : Value := .null
  systemInfo : SystemInfo := .given []
  userContext : List (Text × Value) := []

namespace Context

/-- Notes a named detail. -/
def note (ctx : Context) (name : Text) (v : Value) : Context :=
  { ctx with userContext := Assoc.put name v ctx.userContext }

/-- Gives the context a correlation id, unless it has one. -/
def identify (freshId : Text) (ctx : Context) : Context :=
  if ctx.correlationId.isTruthy then ctx else { ctx with correlationId := .text freshId }

/-- Describes the system, unless that has been done. -/
def observe (ctx : Context) : Context :=
  if ctx.systemInfo.isEmpty then { ctx with systemInfo := .observed } else ctx

/-- The context with its correlation id and the description of the system filled in. -/
def complete (freshId : Text) (ctx : Context) : Context := (ctx.identify freshId).observe

end Context
end DownloadNames
