import DownloadNames.Value.Basic

/-
Laying one mapping over another.

An entry of the upper mapping replaces that of the lower one, except that two mappings under
equal keys are merged in turn.  Keys keep the order and the spelling of the lower mapping, and new
ones follow in the order of the upper one.  `at?` is the view in which merging is stated: the value
that a mapping holds at a path of keys.
-/

namespace DownloadNames.Value

mutual

/-- What an entry becomes: two mappings are merged, otherwise the upper value stands. -/
def mergeValue (lower : Option Value) : Value → Value
  | .map entries =>
    match lower with
    | some (.map base) => .map (mergeEntries base entries)
    | _ => .map entries
  | v => v

/-- The lower entries with the upper ones laid over them. -/
def mergeEntries (lower : List (Scalar × Value)) : List (Scalar × Value) → List (Scalar × Value)
  | [] => lower
  | (k, v) :: rest =>
    mergeEntries (putEntry lower k (mergeValue (lookup? k lower) v)) rest

end

/-- The value at a path of keys; a path goes on only through mappings. -/
def at? : List Scalar → Value → Option Value
  | [], v => some v
  | k :: ks, .map entries => (lookup? k entries).bind (at? ks)
  | _ :: _, _ => none

end DownloadNames.Value
