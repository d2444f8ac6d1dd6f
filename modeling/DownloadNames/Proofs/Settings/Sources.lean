import DownloadNames.Settings.Load
import DownloadNames.Proofs.Value.Merge

/-
When reading the sources of settings succeeds, and how it fails.

Loading goes through stages, each of which ends it at the first failure.  For each stage this file
says exactly when it gives a result and when it gives a failure, so that the stages need not be
opened again.
-/

namespace DownloadNames.Settings

open Value (IsMapping)

/-! ## The file -/

section File

variable {readers : Readers} {files : Files} {given : Option Text} {places : List Text}
  {file : Entries} {e : LoadFailure}

/-- The file is the given one, or else the first of the places at which a file stands; without a
file there are no entries. -/
def IsFileLayer (readers : Readers) (files : Files) (given : Option Text) (places : List Text)
    (file : Entries) : Prop :=
  match given with
  | some path => ∃ node, files path = some node ∧ readNode readers path node = .ok (.map file)
  | none =>
    (∃ before path after bytes, places = before ++ path :: after
        ∧ (∀ p ∈ before, ∀ other, files p ≠ some (.file other))
        ∧ files path = some (.file bytes)
        ∧ readNode readers path (.file bytes) = .ok (.map file))
      ∨ (∀ p ∈ places, ∀ bytes, files p ≠ some (.file bytes)) ∧ file = []

theorem firstFile?_eq_some_iff {path : Text} {node : FileNode} :
    firstFile? files places = some (path, node) ↔
      ∃ before after bytes, places = before ++ path :: after
        ∧ (∀ p ∈ before, ∀ other, files p ≠ some (.file other))
        ∧ files path = some (.file bytes) ∧ node = .file bytes := by
  rw [firstFile?, List.findSome?_eq_some_iff]
  constructor
  · rintro ⟨before, p, after, hplaces, hp, hbefore⟩
    split at hp
    · next bytes hbytes =>
      cases hp
      refine ⟨before, after, bytes, hplaces, fun q hq other hother => ?_, hbytes, rfl⟩
      have hnone := hbefore q hq
      rw [hother] at hnone
      cases hnone
    · cases hp
  · rintro ⟨before, after, bytes, hplaces, hbefore, hbytes, rfl⟩
    refine ⟨before, path, after, hplaces, by rw [hbytes], fun q hq => ?_⟩
    split
    · next other hother => exact absurd hother (hbefore q hq other)
    · rfl

theorem firstFile?_eq_none_iff :
    firstFile? files places = none ↔ ∀ p ∈ places, ∀ bytes, files p ≠ some (.file bytes) := by
  rw [firstFile?, List.findSome?_eq_none_iff]
  refine forall_congr' fun p => imp_congr_right fun _ => ?_
  split
  · next bytes hbytes => simp [hbytes]
  · next hnot => exact iff_of_true rfl fun bytes hbytes => hnot bytes hbytes

theorem fileLayer_of_error (h : chosenFile? files given places = .error e) :
    fileLayer readers files given places = .error e := by
  simp [fileLayer, h, bind, Except.bind]

theorem fileLayer_of_none (h : chosenFile? files given places = .ok none) :
    fileLayer readers files given places = .ok [] := by
  simp [fileLayer, h, bind, Except.bind, pure, Except.pure]

theorem fileLayer_of_some {path : Text} {node : FileNode}
    (h : chosenFile? files given places = .ok (some (path, node))) :
    fileLayer readers files given places =
      match readNode readers path node with
      | .error reason => .error (.unreadable path reason)
      | .ok (.map entries) => .ok entries
      | .ok _ => .error (.notMapping path) := by
  simp only [fileLayer, h, bind, Except.bind]
  rfl

/-- There are entries of a file if there is no file, or the one that is chosen holds a mapping. -/
theorem fileLayer_eq_ok_iff :
    fileLayer readers files given places = .ok file ↔
      (chosenFile? files given places = .ok none ∧ file = [])
        ∨ ∃ path node, chosenFile? files given places = .ok (some (path, node))
            ∧ readNode readers path node = .ok (.map file) := by
  cases hchosen : chosenFile? files given places with
  | error e => simp [fileLayer_of_error hchosen]
  | ok chosen =>
    cases chosen with
    | none => simp [fileLayer_of_none hchosen, eq_comm]
    | some c =>
      obtain ⟨path, node⟩ := c
      rw [fileLayer_of_some hchosen]
      cases hread : readNode readers path node with
      | error reason => simp [hread]
      | ok v => cases v <;> simp [hread, and_assoc]

/-- The entries of a file come from that file alone. -/
theorem isFileLayer_of_fileLayer (h : fileLayer readers files given places = .ok file) :
    IsFileLayer readers files given places file := by
  cases given with
  | some path =>
    cases hfile : files path with
    | none => simp [fileLayer_eq_ok_iff, chosenFile?, hfile] at h
    | some node =>
      refine ⟨node, hfile, ?_⟩
      simpa [fileLayer_eq_ok_iff, chosenFile?, hfile, and_assoc] using h
  | none =>
    rcases fileLayer_eq_ok_iff.1 h with ⟨hnone, rfl⟩ | ⟨path, node, hsome, hread⟩
    · exact Or.inr ⟨firstFile?_eq_none_iff.1 (Except.ok.inj hnone), rfl⟩
    · obtain ⟨before, after, bytes, hplaces, hbefore, hbytes, rfl⟩ :=
        firstFile?_eq_some_iff.1 (Except.ok.inj hsome)
      exact Or.inl ⟨before, path, after, bytes, hplaces, hbefore, hbytes, hread⟩

end File

/-! ## All sources -/

section Gather

variable {inputs : Inputs} {given : Option Text} {places : List Text} {entries : Entries}
  {e : LoadFailure}

/-- What is checked are the three layers laid over each other. -/
theorem gather_eq_ok_iff :
    gather inputs given places = .ok entries ↔
      ∃ file environment, fileLayer inputs.readers inputs.files given places = .ok file
        ∧ ofEnvironment inputs.lead inputs.environment = .ok environment
        ∧ entries = layered file environment (ofArguments inputs.arguments) := by
  cases hfile : fileLayer inputs.readers inputs.files given places with
  | error e => simp [gather, hfile, bind, Except.bind]
  | ok file =>
    cases henv : ofEnvironment inputs.lead inputs.environment with
    | error b => simp [gather, hfile, henv, bind, Except.bind]
    | ok environment => simp [gather, hfile, henv, bind, Except.bind, pure, Except.pure, eq_comm]

theorem load_of_ok (h : gather inputs given places = .ok entries) :
    load inputs given places = validate entries := by
  simp [load, h, bind, Except.bind]

theorem load_of_error (h : gather inputs given places = .error e) :
    load inputs given places = .error e := by
  simp [load, h, bind, Except.bind]

end Gather
end DownloadNames.Settings
