import DownloadNames.Fault.Basic

/-
A set of named contexts and the faults that were built on them.
Faults that name a context share it: what one of them records is seen by all.  A fault that
names none has a context of its own.
-/

namespace DownloadNames.Fault

/-- The context of a fault: a shared one by its name, or its own. -/
inductive Home where
  | shared (name : Text)
  | own (ctx : Context)

/-- Shared contexts and faults, both by name. -/
structure Board where
  contexts : List (Text × Context) := []
  faults : List (Text × Fault × Home) := []

namespace Board

/-- Why a step on a board fails. -/
inductive Failure where
  | unknownName (name : Text)
  | refused (reason : Refused)
deriving DecidableEq, Repr

/-- The shared context of a name. -/
def context (board : Board) (name : Text) : Except Failure Context :=
  match Assoc.find? name board.contexts with
  | some ctx => .ok ctx
  | none => .error (.unknownName name)

/-- The fault of a name together with its context as it is now. -/
def fault (board : Board) (id : Text) : Except Failure (Fault × Context) :=
  match Assoc.find? id board.faults with
  | some (f, .own ctx) => .ok (f, ctx)
  | some (f, .shared name) => (board.context name).map fun ctx => (f, ctx)
  | none => .error (.unknownName id)

/-- Builds a fault on a context of its own and keeps it under a name. -/
def raiseAlone (freshId id : Text) (draft : Draft) (board : Board) :
    Board × Except Failure Fault :=
  match build freshId draft {} with
  | (ctx, .ok f) => ({ board with faults := Assoc.put id (f, .own ctx) board.faults }, .ok f)
  | (_, .error e) => (board, .error (.refused e))

/-- Builds a fault on a shared context and keeps it under a name.  What the fault records in the
context stays there, also when the draft is refused. -/
def raiseOn (freshId id name : Text) (draft : Draft) (board : Board) :
    Board × Except Failure Fault :=
  match board.context name with
  | .error e => (board, .error e)
  | .ok ctx =>
    match build freshId draft ctx with
    | (ctx, .ok f) =>
      ({ contexts := Assoc.put name ctx board.contexts
         faults := Assoc.put id (f, .shared name) board.faults }, .ok f)
    | (ctx, .error e) =>
      ({ board with contexts := Assoc.put name ctx board.contexts }, .error (.refused e))

/-- Adds a suggestion to the fault of a name. -/
def suggest (id : Text) (s : Suggestion) (board : Board) : Board × Except Failure Fault :=
  match Assoc.find? id board.faults with
  | some (f, home) =>
    ({ board with faults := Assoc.put id (f.suggest s, home) board.faults }, .ok (f.suggest s))
  | none => (board, .error (.unknownName id))

end Board
end DownloadNames.Fault
