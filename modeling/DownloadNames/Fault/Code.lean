import DownloadNames.Value.Display

/-
The numbered causes that faults are classified by.
The thousands group them: network, configuration, validation, and everything else.
-/

namespace DownloadNames

/-- What went wrong, as a closed list of numbered causes. -/
inductive FaultCode where
  | connectionFailed
  | timeout
  | invalidFormat
  | invalidValue
  | fileNotFound
  | invalidInput
  | formatError
  | unknown
deriving DecidableEq, Repr

namespace FaultCode

/-- All codes by ascending number. -/
def all : List FaultCode :=
  [.connectionFailed, .timeout, .invalidFormat, .invalidValue, .fileNotFound, .invalidInput,
    .formatError, .unknown]

/-- The number of a code. -/
def number : FaultCode → Nat
  | connectionFailed => 1001
  | timeout => 1002
  | invalidFormat => 3001
  | invalidValue => 3003
  | fileNotFound => 3004
  | invalidInput => 5001
  | formatError => 5005
  | unknown => 9000

/-- The name of a code. -/
def name : FaultCode → String
  | connectionFailed => "NETWORK_CONNECTION_FAILED"
  | timeout => "NETWORK_TIMEOUT"
  | invalidFormat => "CONFIG_INVALID_FORMAT"
  | invalidValue => "CONFIG_INVALID_VALUE"
  | fileNotFound => "CONFIG_FILE_NOT_FOUND"
  | invalidInput => "VALIDATION_INVALID_INPUT"
  | formatError => "VALIDATION_FORMAT_ERROR"
  | unknown => "UNKNOWN_ERROR"

/-- The code whose number a value equals; a floating-point number may equal it too. -/
def ofValue? : Value → Option FaultCode
  | .scalar s => all.find? fun c => s.keyForm = .int c.number
  | _ => none

/-- A value that is no number of a code. -/
structure Unknown where
  value : Value

/-- The wording for a value that is no number of a code. -/
def Unknown.message (u : Unknown) : Text := u.value.written ++ " is not a valid ErrorCode".toList

/-- The code with the number that a value equals, or the value itself as the reason. -/
def ofValue (v : Value) : Except Unknown FaultCode :=
  match ofValue? v with
  | some c => .ok c
  | none => .error ⟨v⟩

end FaultCode
end DownloadNames
