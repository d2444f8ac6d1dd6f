import DownloadNames.Assoc
import DownloadNames.Text.Basic
import DownloadNames.Decimal.Double

/-
Configuration values: what a YAML or JSON document, a command line or a caller can hand over.

A value is a scalar, a list or a mapping.  The keys of a mapping are scalars; two keys are the
same when they are equal as numbers, so `1`, `1.0` and `true` name one entry.
-/

namespace DownloadNames

/-- A day, or a day with a time and possibly an offset from universal time in minutes. -/
inductive Moment where
  | date (year month day : Nat)
  | time (year month day hour minute second micro : Nat) (offset : Option Int)
deriving DecidableEq, Repr

/-- A value without parts. -/
inductive Scalar where
  | null
  | bool (b : Bool)
  | int (i : Int)
  | real (d : Double)
  | text (s : Text)
  | bytes (b : List UInt8)
  | moment (m : Moment)
deriving DecidableEq, Repr

/-- A scalar, a list of values or a mapping with its entries in order. -/
inductive Value where
  | scalar (s : Scalar)
  | list (items : List Value)
  | map (entries : List (Scalar × Value))
deriving Repr

/-- The entries of a mapping. -/
abbrev Entries := List (Scalar × Value)

/-! ## Keys -/

/-- The number that a key stands for, if it stands for one; the key itself otherwise. -/
def Scalar.keyForm : Scalar → Scalar
  | .bool b => .int (if b then 1 else 0)
  | .real d => match d.toInt? with
    | some i => .int i
    | none => .real d
  | s => s

namespace Value

instance : Inhabited Value := ⟨.scalar .null⟩

/-- The value `null`. -/
@[match_pattern] abbrev null : Value := .scalar .null

/-- A truth value. -/
@[match_pattern] abbrev bool (b : Bool) : Value := .scalar (.bool b)

/-- An integer. -/
@[match_pattern] abbrev int (i : Int) : Value := .scalar (.int i)

/-- A floating-point number. -/
@[match_pattern] abbrev real (d : Double) : Value := .scalar (.real d)

/-- A text. -/
@[match_pattern] abbrev text (s : Text) : Value := .scalar (.text s)

/-- The key under which an entry is stored already, or the key itself. -/
def storedKey (k : Scalar) (entries : Entries) : Scalar :=
  match entries.find? fun e => e.1.keyForm = k.keyForm with
  | some e => e.1
  | none => k

/-- The value of the entry with an equal key. -/
def lookup? (k : Scalar) (entries : Entries) : Option Value :=
  (entries.find? fun e => e.1.keyForm = k.keyForm).map Prod.snd

/-- Sets an entry; an equal key keeps its first spelling and its place. -/
def putEntry (entries : Entries) (k : Scalar) (v : Value) : Entries :=
  Assoc.put (storedKey k entries) v entries

/-- The mapping that results from setting the entries one after the other. -/
def ofEntries (pairs : Entries) : Entries := pairs.foldl (fun acc p => putEntry acc p.1 p.2) []

/-- The entry of a mapping at a text key. -/
def entry? (key : Text) (entries : Entries) : Option Value := Assoc.find? (.text key) entries

/-- Whether a value counts as given: all do but `null`, `false`, zeros and whatever is empty. -/
def isTruthy : Value → Bool
  | .scalar .null => false
  | .scalar (.bool b) => b
  | .scalar (.int i) => i != 0
  | .scalar (.real d) => !d.isZero
  | .scalar (.text s) => s != []
  | .scalar (.bytes b) => b != []
  | .scalar (.moment _) => true
  | .list items => !items.isEmpty
  | .map entries => !entries.isEmpty

end Value
end DownloadNames
