import DownloadNames.CommandLine.Run
import DownloadNames.Proofs.Settings.Checks

/-
The same presets in settings, in a template engine and on the command line.

Names of presets are lower-cased three times: when settings are checked, when an engine is set up,
and when a preset is looked up.  Two names may become one on the way, and then the template that is
given last counts, at the place of the first.  Lower-casing again changes nothing, so settings, an
engine set up from settings and one set up from what was given hold the same presets, and the
warnings about settings are the problems of what is looked up.
-/

namespace DownloadNames

open Assoc (keys lastValue?)

/-! ## Presets by name -/

section Lookups

variable (given : List (Text × Text)) (n : Text)

/-- The template of a name is the last one that is given for it, letter case ignored. -/
theorem Template.Presets.get?_ofList :
    (ofList given).get? n = lastValue? (fun m => Text.lower m = Text.lower n) given :=
  Assoc.find?_putAll_map Text.lower (Text.lower n) given

theorem Template.Presets.names_ofList :
    (ofList given).names = ((keys given).map Text.lower).eraseDups := by
  have hkeys : keys (given.map fun e => (Text.lower e.1, e.2)) = (keys given).map Text.lower := by
    rw [keys, keys, List.map_map, List.map_map]
    rfl
  rw [← hkeys]
  exact Assoc.keys_putAll _

end Lookups

/-! ## Warnings about settings -/

namespace Settings

variable {s : Settings}

/-- Settings with lower-cased names are what an engine set up from them holds. -/
theorem presets_eq (h : Lowered s.templates.presets) : s.presets = ⟨s.templates.presets⟩ :=
  congrArg Template.Presets.mk (lowerNames_eq_self h)

theorem names_presets (h : Lowered s.templates.presets) :
    s.presets.names = keys s.templates.presets := by
  rw [presets_eq h]
  rfl

theorem preset?_of_mem (h : Lowered s.templates.presets) {e : Text × Text}
    (he : e ∈ s.templates.presets) : s.preset? e.1 = some e.2 := by
  rw [preset?, h.lower_eq e he]
  exact (Assoc.find?_eq_some_iff h.nodup).2 he

theorem exists_preset?_of_mem (h : Lowered s.templates.presets) {name : Text}
    (hname : name ∈ s.presets.names) : ∃ template, s.preset? name = some template := by
  rw [names_presets h] at hname
  obtain ⟨e, he, rfl⟩ := List.mem_map.1 hname
  exact ⟨e.2, preset?_of_mem h he⟩

/-- The warnings are the problems of the presets as they are looked up, in their order, and the
one about an empty replacement. -/
theorem warnings_eq (h : Lowered s.templates.presets) :
    s.warnings
      = (s.presets.names.flatMap fun name =>
          ((s.preset? name).toList.flatMap Template.problems).map (.preset name))
        ++ if s.paths.replacement = [] then [.emptyReplacement] else [] := by
  rw [warnings, names_presets h, keys, List.flatMap_map]
  congr 1
  rw [List.flatMap_def, List.flatMap_def, List.map_congr_left fun e he => ?_]
  rw [preset?_of_mem h he]
  simp

/-- There are no warnings where no preset has problems and the replacement is not empty. -/
theorem warnings_eq_nil_iff (h : Lowered s.templates.presets) :
    s.warnings = [] ↔
      (∀ name ∈ s.presets.names, ∀ template, s.preset? name = some template →
        Template.problems template = [])
      ∧ s.paths.replacement ≠ [] := by
  rw [warnings_eq h, List.append_eq_nil_iff, List.flatMap_eq_nil_iff]
  refine and_congr (forall_congr' fun name => forall_congr' fun hname => ?_) (by simp)
  obtain ⟨template, hfound⟩ := exists_preset?_of_mem h hname
  simp [hfound]

end Settings

/-- Settings as they are loaded have no strays, so all warnings about them are told. -/
theorem SettingsStore.warnings_of_loaded {store : SettingsStore} {s : Settings}
    (h : store.loaded = some ⟨s, []⟩) : store.warnings = s.warnings.map (·.message) := by
  have hall : (⟨s, []⟩ : LoadedSettings).warnings = s.warnings :=
    List.filter_eq_self.2 fun w _ => Bool.or_true _
  rw [SettingsStore.warnings, h, ← hall]

/-! ## Checks on the command line -/

namespace CommandLine

namespace Session

variable {α β : Type}

/-- A step succeeds if it does not end the run, whatever there has been before. -/
def Succeeds (step : Session α) : Prop := ∀ trace, ∃ a after, step.run.run trace = (.ok a, after)

theorem run_bind (step : Session α) (next : α → Session β) (trace : Trace) :
    (step >>= next).run.run trace = match step.run.run trace with
      | (.ok a, after) => (next a).run.run after
      | (.error ending, after) => (.error ending, after) := by
  rw [ExceptT.run_bind, StateT.run_bind]
  rcases step.run.run trace with ⟨_ | a, after⟩ <;> rfl

theorem not_succeeds_bind_finish (step : Session α) (ending : Ending) :
    ¬ (step >>= fun _ => (finish ending : Session β)).Succeeds := by
  intro hsucceeds
  obtain ⟨a, after, hrun⟩ := hsucceeds {}
  rw [run_bind] at hrun
  rcases hstep : step.run.run {} with ⟨_ | _, _⟩
  all_goals
    rw [hstep] at hrun
    cases hrun

/-- A text whose tags are well placed can be printed. -/
theorem succeeds_printStyled {s t : Text} (h : Markup.plainText s = .ok t) :
    (printStyled s).Succeeds := by
  intro trace
  rw [printStyled, styled, h]
  exact ⟨(), _, rfl⟩

end Session

theorem exists_plainText_valid :
    ∃ t, Markup.plainText (Session.inStyle "green" "Template is valid".toList) = .ok t := by
  have hok : (Markup.plainText (Session.inStyle "green" "Template is valid".toList)).toOption.isSome
      = true := by decide
  cases hplain : Markup.plainText (Session.inStyle "green" "Template is valid".toList) with
  | error e =>
    rw [hplain] at hok
    cases hok
  | ok t => exact ⟨t, rfl⟩

/-- A check succeeds on the templates without problems. -/
theorem succeeds_checkTemplate_iff (template : Text) :
    (checkTemplate template).Succeeds ↔ Template.problems template = [] := by
  rw [checkTemplate]
  cases Template.problems template with
  | nil =>
    obtain ⟨t, ht⟩ := exists_plainText_valid
    exact iff_of_true (Session.succeeds_printStyled ht) rfl
  | cons problem problems =>
    -- a problem may hold a bad tag, but printing it ends the run no later than what follows
    exact iff_of_false (Session.not_succeeds_bind_finish _ _) (List.cons_ne_nil _ _)

section Commands

variable (world : World) (s : Settings) (assignments : List Text) (render : Bool)

/-- A check of a template that is given, or of the one that a preset has. -/
theorem run_template_check (template : Text) :
    (Command.template (some template) assignments none render true false).run world s
      = checkTemplate template := rfl

theorem run_preset_check {name template : Text} (hname : name ≠ [])
    (hfound : s.presets.get? name = some template) (other : Option Text) :
    (Command.template other assignments (some name) render true false).run world s
      = checkTemplate template := by
  cases name with
  | nil => exact absurd rfl hname
  | cons c cs =>
    simp only [Command.run, chosenTemplate, hfound]
    rfl

end Commands

end CommandLine

/-! ## Every layer -/

namespace Settings

open CommandLine (Command World)

/-- Presets without empty templates are accepted as they are given. -/
theorem checkTemplates_presets {given : List (Text × Text)} (h : ∀ e ∈ given, e.2 ≠ []) :
    checkTemplates [(.text "presets".toList, LoadedSettings.tableEntries given)]
      = .ok ⟨lowerNames given⟩ := by
  refine Checked.map_eq_ok_iff.2 ⟨lowerNames given, ?_, rfl⟩
  refine Checked.entry_of_some rfl ?_
  exact checkPresets_eq_ok_iff.2 ⟨given, checkTexts_tableEntries given, h, rfl⟩

/-- Settings, an engine set up from them and one set up from what is given have the same presets:
of the templates given for a name, letter case ignored, the last.  The warnings about settings are
the problems of these templates, name by name, so there are none exactly if all of them pass the
check of the command line and the replacement is not empty. -/
theorem presets_agree {given : List (Text × Text)} (hgiven : ∀ e ∈ given, e.2 ≠ [])
    (base : Settings) :
    ∃ t, checkTemplates [(.text "presets".toList, LoadedSettings.tableEntries given)] = .ok t
      ∧ let s : Settings := { base with templates := t }
        let engine := Template.Presets.ofList given
        (∀ n, s.preset? n = lastValue? (fun m => Text.lower m = Text.lower n) given
          ∧ s.presets.get? n = s.preset? n ∧ engine.get? n = s.preset? n)
        ∧ s.presets.names = engine.names
        ∧ engine.names = ((keys given).map Text.lower).eraseDups
        ∧ (∀ name ∈ s.presets.names, ∃ template, s.preset? name = some template)
        ∧ s.warnings
            = (s.presets.names.flatMap fun name =>
                ((s.preset? name).toList.flatMap Template.problems).map (.preset name))
              ++ (if s.paths.replacement = [] then [.emptyReplacement] else [])
        ∧ (∀ store : SettingsStore, store.loaded = some ⟨s, []⟩ →
            store.warnings = s.warnings.map (·.message))
        ∧ ∀ world assignments render,
            let check (template preset : Option Text) :=
              (Command.template template assignments preset render true false).run world s
            (s.warnings = [] ↔
              (∀ name ∈ s.presets.names, ∀ template, s.preset? name = some template →
                (check (some template) none).Succeeds)
              ∧ s.paths.replacement ≠ [])
            ∧ ∀ name template other, name ≠ [] → s.preset? name = some template →
                check other (some name) = check (some template) none := by
  refine ⟨_, checkTemplates_presets hgiven, ?_⟩
  intro s engine
  -- names are lower-cased by the check already, so all three hold one table
  have hlowered : Lowered s.templates.presets := lowered_lowerNames given
  have hengine : s.presets = engine := presets_eq hlowered
  have hpreset (n : Text) : engine.get? n = s.preset? n := rfl
  refine ⟨fun n => ⟨(hpreset n).symm.trans (Template.Presets.get?_ofList given n),
      by rw [hengine, hpreset], hpreset n⟩,
    congrArg Template.Presets.names hengine, Template.Presets.names_ofList given,
    fun name => exists_preset?_of_mem hlowered, warnings_eq hlowered,
    fun store => SettingsStore.warnings_of_loaded, fun world assignments render => ?_⟩
  intro check
  have hcheck (template : Text) : check (some template) none = CommandLine.checkTemplate template :=
    CommandLine.run_template_check world s assignments render template
  constructor
  · rw [warnings_eq_nil_iff hlowered]
    refine and_congr_left' (forall_congr' fun name => forall_congr' fun _ => ?_)
    refine forall_congr' fun template => forall_congr' fun _ => ?_
    rw [hcheck, CommandLine.succeeds_checkTemplate_iff]
  · intro name template other hname hfound
    rw [← hpreset, ← hengine] at hfound
    rw [hcheck]
    exact CommandLine.run_preset_check world s assignments render hname hfound other

/-- Of two names that become one the place of the first and the template of the last counts. -/
theorem presets_agree_colliding_names :
    let given := [("A".toList, "<>".toList), ("b".toList, "<>".toList), ("a".toList, "<z>".toList)]
    (∀ e ∈ given, e.2 ≠ [])
      ∧ ∃ t, checkTemplates [(.text "presets".toList, LoadedSettings.tableEntries given)] = .ok t
        ∧ let s : Settings := { ({} : Settings) with templates := t }
          s.preset? "a".toList = some "<z>".toList
          ∧ s.presets.names = ["a".toList, "b".toList]
          ∧ s.warnings = [.preset "b".toList .emptyPlaceholder] := by
  intro given
  have hgiven : ∀ e ∈ given, e.2 ≠ [] := by decide
  obtain ⟨t, ht, hfound, hengine, hnames, -, hwarnings, -⟩ := presets_agree hgiven {}
  have hlisted := hengine.trans (hnames.trans (by decide : _ = ["a".toList, "b".toList]))
  have ha := (hfound "a".toList).1.trans (by decide : _ = some "<z>".toList)
  have hb := (hfound "b".toList).1.trans (by decide : _ = some "<>".toList)
  have hreplacement : ({ ({} : Settings) with templates := t }).paths.replacement ≠ [] :=
    List.cons_ne_nil _ _
  refine ⟨hgiven, t, ht, ha, hlisted, ?_⟩
  rw [hwarnings, hlisted, List.flatMap_cons, List.flatMap_singleton, ha, hb, if_neg hreplacement]
  decide

end Settings
end DownloadNames
