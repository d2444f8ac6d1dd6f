import DownloadNames.Settings.Example
import DownloadNames.Proofs.Settings.Checks
import DownloadNames.Proofs.Settings.Reported
import DownloadNames.Proofs.Settings.Runs

/-
Valid settings: what the checks establish, and what assignments on the top level keep.

Settings are reached by checking entries, by loading, and by assigning fields on the top level
(`LoadedSettings.Reachable`).  Whatever is reached is valid (`Reachable.valid`), and valid settings,
given as entries, pass the check as they are (`check_toEntries`): there is nothing left to rewrite.
-/

namespace DownloadNames

open Settings (Lowered)

/-! ## Validity -/

/-- No preset is empty, and the names of presets are lower-cased. -/
structure TemplateSettings.Valid (t : TemplateSettings) : Prop where
  names : Lowered t.presets
  nonempty : ∀ e ∈ t.presets, e.2 ≠ []

/-- The replacement is clean, and the separator is not empty. -/
structure PathSettings.Valid (p : PathSettings) : Prop where
  replacement : Path.CleanName p.replacement
  separator : p.separator ≠ []

/-- The timeout lies between 1 and 300, the names of media types are lower-cased, and no extension
begins with a dot. -/
structure HeaderSettings.Valid (h : HeaderSettings) : Prop where
  least : 1 ≤ h.timeout
  most : h.timeout ≤ 300
  names : Lowered h.mimeOverrides
  no_dot : ∀ e ∈ h.mimeOverrides, e.2.head? ≠ some '.'

/-- All sections are valid. -/
structure Settings.Valid (s : Settings) : Prop where
  templates : s.templates.Valid
  paths : s.paths.Valid
  headers : s.headers.Valid

namespace Settings

/-! ## Checked settings are valid -/

theorem valid_standardTemplates : ({} : TemplateSettings).Valid :=
  ⟨by decide, by decide⟩

theorem valid_standardPaths : ({} : PathSettings).Valid :=
  ⟨by decide, by decide⟩

theorem valid_standardHeaders : ({} : HeaderSettings).Valid :=
  ⟨by decide, by decide, by decide, by decide⟩

section Checks

variable {es : Entries} {v : Value}

theorem checkPresets_valid {presets : List (Text × Text)} (h : checkPresets v = .ok presets) :
    (⟨presets⟩ : TemplateSettings).Valid := by
  obtain ⟨table, -, hne, rfl⟩ := checkPresets_eq_ok_iff.1 h
  refine ⟨lowered_lowerNames table, fun e he => ?_⟩
  obtain ⟨name, hmem, -⟩ := mem_lowerNames he
  exact hne (name, e.2) hmem

theorem checkOverrides_valid {overrides : List (Text × Text)}
    (h : checkOverrides v = .ok overrides) :
    Lowered overrides ∧ ∀ e ∈ overrides, e.2.head? ≠ some '.' := by
  obtain ⟨table, -, rfl⟩ := checkOverrides_eq_ok_iff.1 h
  refine ⟨lowered_lowerNames _, fun e he hdot => ?_⟩
  obtain ⟨name, hmem, -⟩ := mem_lowerNames he
  obtain ⟨⟨_, ext⟩, -, heq⟩ := List.mem_map.1 hmem
  have hext : ext.dropWhile (· == '.') = e.2 := congrArg Prod.snd heq
  -- behind the leading dots no dot comes first
  have hhead := List.head?_dropWhile_not (· == '.') ext
  simp [hext, hdot] at hhead

theorem checkTemplates_valid {t : TemplateSettings} (h : checkTemplates es = .ok t) : t.Valid := by
  obtain ⟨presets, hpresets, rfl⟩ := Checked.map_eq_ok_iff.1 h
  exact Checked.entry_induction (P := fun presets => (⟨presets⟩ : TemplateSettings).Valid)
    valid_standardTemplates (fun v _ hv => checkPresets_valid hv) hpresets

theorem checkPaths_valid {p : PathSettings} (h : checkPaths es = .ok p) : p.Valid := by
  obtain ⟨⟨r, s⟩, hboth, rfl⟩ := Checked.map_eq_ok_iff.1 h
  obtain ⟨hr, hs⟩ := Checked.both_eq_ok_iff.1 hboth
  constructor
  · exact Checked.entry_induction (P := Path.CleanName) valid_standardPaths.replacement
      (fun v _ hv => (checkReplacement_eq_ok_iff.1 hv).2) hr
  · exact Checked.entry_induction (P := (· ≠ [])) valid_standardPaths.separator
      (fun v _ hv => (checkSeparator_eq_ok_iff.1 hv).2) hs

theorem checkHeaders_valid {h : HeaderSettings} (hcheck : checkHeaders es = .ok h) : h.Valid := by
  obtain ⟨⟨⟨t, u⟩, a, m⟩, hboth, rfl⟩ := Checked.map_eq_ok_iff.1 hcheck
  simp only [Checked.both_eq_ok_iff] at hboth
  obtain ⟨⟨ht, -⟩, -, hm⟩ := hboth
  obtain ⟨hleast, hmost⟩ : 1 ≤ t ∧ t ≤ 300 :=
    Checked.entry_induction (P := fun t : Int => 1 ≤ t ∧ t ≤ 300) (by decide)
      (fun v _ hv => (checkWithin_eq_ok_iff.1 hv).2) ht
  obtain ⟨hnames, hdot⟩ :=
    Checked.entry_induction (P := fun m => Lowered m ∧ ∀ e ∈ m, e.2.head? ≠ some '.')
      ⟨valid_standardHeaders.names, valid_standardHeaders.no_dot⟩
      (fun v _ hv => checkOverrides_valid hv) hm
  exact ⟨hleast, hmost, hnames, hdot⟩

theorem checkTemplateSection_valid {t : TemplateSettings} (h : checkTemplateSection v = .ok t) :
    t.Valid := by
  obtain ⟨es, -, hcheck⟩ := checkSection_eq_ok_iff.1 h
  exact checkTemplates_valid hcheck

theorem checkPathSection_valid {p : PathSettings} (h : checkPathSection v = .ok p) : p.Valid := by
  obtain ⟨es, -, hcheck⟩ := checkSection_eq_ok_iff.1 h
  exact checkPaths_valid hcheck

theorem checkHeaderSection_valid {h : HeaderSettings} (hcheck : checkHeaderSection v = .ok h) :
    h.Valid := by
  obtain ⟨es, -, hcheck⟩ := checkSection_eq_ok_iff.1 hcheck
  exact checkHeaders_valid hcheck

/-- Settings that pass the check are valid. -/
theorem check_valid {s : Settings} (h : check es = .ok s) : s.Valid := by
  obtain ⟨-, htemplates, hpaths, hheaders, -⟩ := check_eq_ok_iff.1 h
  constructor
  · exact Checked.entry_induction valid_standardTemplates
      (fun _ _ hv => checkTemplateSection_valid hv) htemplates
  · exact Checked.entry_induction valid_standardPaths
      (fun _ _ hv => checkPathSection_valid hv) hpaths
  · exact Checked.entry_induction valid_standardHeaders
      (fun _ _ hv => checkHeaderSection_valid hv) hheaders

end Checks

/-! ## Valid settings given as entries -/

section ToEntries

variable {s : Settings}

theorem checkPresets_tableEntries (h : s.templates.Valid) :
    checkPresets (LoadedSettings.tableEntries s.templates.presets) = .ok s.templates.presets :=
  checkPresets_eq_ok_iff.2
    ⟨_, checkTexts_tableEntries _, h.nonempty, lowerNames_eq_self h.names⟩

theorem checkOverrides_tableEntries (h : s.headers.Valid) :
    checkOverrides (LoadedSettings.tableEntries s.headers.mimeOverrides)
      = .ok s.headers.mimeOverrides := by
  refine checkOverrides_eq_ok_iff.2 ⟨_, checkTexts_tableEntries _, ?_⟩
  rw [dropDots_eq_self h.no_dot, lowerNames_eq_self h.names]

theorem checkTemplateSection_sectionValue (h : s.templates.Valid) :
    checkTemplateSection (sectionValue "templates" s) = .ok s.templates := by
  refine checkSection_eq_ok_iff.2 ⟨_, rfl, Checked.map_eq_ok_iff.2 ⟨s.templates.presets, ?_, rfl⟩⟩
  exact Checked.entry_of_some rfl (checkPresets_tableEntries h)

theorem checkPathSection_sectionValue (h : s.paths.Valid) :
    checkPathSection (sectionValue "paths" s) = .ok s.paths := by
  refine checkSection_eq_ok_iff.2 ⟨_, rfl,
    Checked.map_eq_ok_iff.2 ⟨(s.paths.replacement, s.paths.separator), ?_, rfl⟩⟩
  refine Checked.both_eq_ok_iff.2 ⟨?_, ?_⟩
  · exact Checked.entry_of_some rfl (checkReplacement_eq_ok_iff.2 ⟨rfl, h.replacement⟩)
  · exact Checked.entry_of_some rfl (checkSeparator_eq_ok_iff.2 ⟨rfl, h.separator⟩)

theorem checkHeaderSection_sectionValue (h : s.headers.Valid) :
    checkHeaderSection (sectionValue "headers" s) = .ok s.headers := by
  refine checkSection_eq_ok_iff.2 ⟨_, rfl, Checked.map_eq_ok_iff.2
    ⟨((s.headers.timeout, s.headers.userAgent),
      (s.headers.allowRedirects, s.headers.mimeOverrides)), ?_, rfl⟩⟩
  refine Checked.both_eq_ok_iff.2 ⟨Checked.both_eq_ok_iff.2 ⟨?_, ?_⟩,
    Checked.both_eq_ok_iff.2 ⟨?_, ?_⟩⟩
  · exact Checked.entry_of_some rfl (checkWithin_eq_ok_iff.2 ⟨rfl, h.least, h.most⟩)
  · exact Checked.entry_of_some rfl rfl
  · exact Checked.entry_of_some rfl rfl
  · exact Checked.entry_of_some rfl (checkOverrides_tableEntries h)

/-- Valid settings pass the check as they are. -/
theorem check_toEntries (h : s.Valid) : check s.toEntries = .ok s := by
  -- all fields are there, so nothing is taken from the standard settings
  refine check_eq_ok_iff.2 ⟨?_, ?_, ?_, ?_, ?_, ?_, rfl⟩
  · exact Checked.entry_of_some rfl rfl
  · exact Checked.entry_of_some rfl (checkTemplateSection_sectionValue h.templates)
  · exact Checked.entry_of_some rfl (checkPathSection_sectionValue h.paths)
  · exact Checked.entry_of_some rfl (checkHeaderSection_sectionValue h.headers)
  · exact Checked.entry_of_some rfl rfl
  · exact Checked.entry_of_some rfl rfl

theorem validate_toEntries (h : s.Valid) : validate s.toEntries = .ok s := by
  rw [validate]
  split
  · rw [check_toEntries h]
  · next hkeys => exact absurd rfl hkeys

end ToEntries
end Settings

/-! ## Assignments on the top level -/

namespace Setting

/-- A section that a field is set to is valid. -/
def Valid : Setting → Prop
  | templates t => t.Valid
  | paths p => p.Valid
  | headers h => h.Valid
  | version _ | verbose _ | debug _ => True

theorem Valid.applyTo {a : Setting} {s : Settings} (ha : a.Valid) (hs : s.Valid) :
    (a.applyTo s).Valid := by
  cases a with
  | templates t => exact { hs with templates := ha }
  | paths p => exact { hs with paths := ha }
  | headers h => exact { hs with headers := ha }
  | version => exact ⟨hs.templates, hs.paths, hs.headers⟩
  | verbose => exact ⟨hs.templates, hs.paths, hs.headers⟩
  | debug => exact ⟨hs.templates, hs.paths, hs.headers⟩

/-- A field is read with the check of its name. -/
theorem read_induction {P : Setting → Prop} {name : Text} {v : Value} {a : Setting}
    (hversion : ∀ t, Settings.checkText v = .ok t → P (version t))
    (htemplates : ∀ t, Settings.checkTemplateSection v = .ok t → P (templates t))
    (hpaths : ∀ p, Settings.checkPathSection v = .ok p → P (paths p))
    (hheaders : ∀ h, Settings.checkHeaderSection v = .ok h → P (headers h))
    (hverbose : ∀ b, Settings.checkTruth v = .ok b → P (verbose b))
    (hdebug : ∀ b, Settings.checkTruth v = .ok b → P (debug b))
    (h : read name v = .ok a) : P a := by
  -- the six fields are read in one way, each with its own check
  have checked {α : Type} {c : Settings.Checked α} {setting : α → Setting}
      (hc : ∀ b, c = .ok b → P (setting b))
      (h : (c.under (.name name)).map setting = .ok a) : P a := by
    obtain ⟨b, hb, rfl⟩ := Settings.Checked.map_eq_ok_iff.1 h
    exact hc b (Settings.Checked.under_eq_ok_iff.1 hb)
  simp only [read] at h
  split at h
  · exact checked hversion h
  split at h
  · exact checked htemplates h
  split at h
  · exact checked hpaths h
  split at h
  · exact checked hheaders h
  split at h
  · exact checked hverbose h
  split at h
  · exact checked hdebug h
  · cases h

theorem read_valid {name : Text} {v : Value} {a : Setting} (h : read name v = .ok a) : a.Valid :=
  read_induction (P := Valid) (fun _ _ => trivial)
    (fun _ hb => Settings.checkTemplateSection_valid hb)
    (fun _ hb => Settings.checkPathSection_valid hb)
    (fun _ hb => Settings.checkHeaderSection_valid hb) (fun _ _ => trivial) (fun _ _ => trivial) h

end Setting

/-! ## Reachable settings -/

namespace LoadedSettings

open Settings (Inputs)

/-- Settings made by checking entries or by loading, with fields on the top level assigned since
then. -/
inductive Reachable : LoadedSettings → Prop
  | checked {entries : Entries} {s : Settings} (h : Settings.check entries = .ok s) :
      Reachable ⟨s, []⟩
  | loaded {inputs : Inputs} {given : Option Text} {places : List Text} {s : Settings}
      (h : Settings.load inputs given places = .ok s) : Reachable ⟨s, []⟩
  | assigned {before after : LoadedSettings} {name : Text} {v : Value} (hbefore : Reachable before)
      (h : before.assign name v = .ok after) : Reachable after

/-- An assignment keeps settings valid, and gives no field in a section a value of another type. -/
theorem assign_valid {before after : LoadedSettings} {name : Text} {v : Value}
    (hstrays : before.strays = []) (hvalid : before.settings.Valid)
    (h : before.assign name v = .ok after) : after.strays = [] ∧ after.settings.Valid := by
  obtain ⟨s, strays⟩ := before
  obtain rfl : strays = [] := hstrays
  rw [assign_eq] at h
  obtain ⟨a, ha, rfl⟩ := Settings.Checked.map_eq_ok_iff.1 h
  exact ⟨rfl, (Setting.read_valid ha).applyTo hvalid⟩

theorem Reachable.valid {l : LoadedSettings} (h : Reachable l) :
    l.strays = [] ∧ l.settings.Valid := by
  -- along the assignments; what has been checked or loaded is valid at once
  induction h with
  | checked h => exact ⟨rfl, Settings.check_valid h⟩
  | loaded h =>
    obtain ⟨entries, -, hcheck⟩ := Settings.check_of_load h
    exact ⟨rfl, Settings.check_valid hcheck⟩
  | assigned _ h ih => exact assign_valid ih.1 ih.2 h

/-- Reachable settings are valid.  Given as entries again they pass the check as they are, and the
checks that rewrite their two tables leave both unchanged. -/
theorem reachable_valid_unchanged {l : LoadedSettings} (h : Reachable l) :
    l.strays = [] ∧ l.settings.Valid
      ∧ Settings.validate l.settings.toEntries = .ok l.settings
      ∧ Settings.checkPresets (tableEntries l.settings.templates.presets)
          = .ok l.settings.templates.presets
      ∧ Settings.checkOverrides (tableEntries l.settings.headers.mimeOverrides)
          = .ok l.settings.headers.mimeOverrides := by
  obtain ⟨hstrays, hvalid⟩ := h.valid
  exact ⟨hstrays, hvalid, Settings.validate_toEntries hvalid,
    Settings.checkPresets_tableEntries hvalid.templates,
    Settings.checkOverrides_tableEntries hvalid.headers⟩

/-- Names that differ in letter case only become one entry, and then the paths are assigned. -/
theorem reachable_valid_unchanged_one_name :
    let rows (es : List (String × Value)) : Entries := es.map fun e => (.text e.1.toList, e.2)
    let text (t : String) : Value := .text t.toList
    let presets := rows [("A", text "<x>"), ("b", text "<y>"), ("a", text "<z>")]
    let overrides := rows [("SVG+XML", text "..svg"), ("svg+xml", text ".s.")]
    let entries := rows [("templates", .map (rows [("presets", .map presets)])),
      ("headers", .map (rows [("timeout", text "300"), ("mime_overrides", .map overrides)]))]
    let s : Settings :=
      { templates := ⟨[(['a'], "<z>".toList), (['b'], "<y>".toList)]⟩
        headers := { timeout := 300, mimeOverrides := [("svg+xml".toList, "s.".toList)] } }
    let l : LoadedSettings := ⟨{ s with paths := { replacement := ['-'] } }, []⟩
    Settings.check entries = .ok s
      ∧ (⟨s, []⟩ : LoadedSettings).assign "paths".toList (.map (rows [("replacement", text "-")]))
          = .ok l
      ∧ l.settings.Valid ∧ Settings.validate l.settings.toEntries = .ok l.settings := by
  intro rows text presets overrides entries s l
  have hcheck : Settings.check entries = .ok s := Settings.Checked.of_toOption (by decide)
  have hpaths : Settings.checkPathSection (.map (rows [("replacement", text "-")]))
      = .ok { replacement := ['-'] } := Settings.Checked.of_toOption (by decide)
  have hread : Setting.read "paths".toList (.map (rows [("replacement", text "-")]))
      = .ok (.paths { replacement := ['-'] }) := by
    rw [Setting.read, if_neg (by decide), if_neg (by decide), if_pos rfl]
    exact congrArg (fun c => (c.under (.name "paths".toList)).map Setting.paths) hpaths
  have hassign := assign_of_ok hread s
  obtain ⟨-, hvalid, hvalidate, -⟩ := reachable_valid_unchanged
    (Reachable.assigned (.checked hcheck) hassign)
  exact ⟨hcheck, hassign, hvalid, hvalidate⟩

end LoadedSettings

/-! ## Runs of a store -/

namespace SettingsStore

/-- What a store has loaded, if anything, is reachable. -/
def HoldsReachable (m : SettingsStore) : Prop := ∀ l ∈ m.loaded, l.Reachable

theorem HoldsReachable.load {m : SettingsStore} (h : m.HoldsReachable) (inputs : Settings.Inputs) :
    (m.load inputs).1.HoldsReachable := by
  cases hload : Settings.load inputs m.given m.places with
  | error e => rwa [load_fst_of_error hload]
  | ok s =>
    rw [load_fst_of_ok hload]
    intro l hl
    obtain rfl := Option.mem_some.1 hl
    exact .loaded hload

theorem HoldsReachable.assign {m : SettingsStore} (h : m.HoldsReachable) (name : Text) (v : Value) :
    (m.assign name v).1.HoldsReachable := by
  cases hloaded : m.loaded with
  | none => simpa only [SettingsStore.assign, hloaded] using h
  | some l =>
    cases hassign : l.assign name v with
    | error issues => simpa only [SettingsStore.assign, hloaded, hassign] using h
    | ok after =>
      simp only [SettingsStore.assign, hloaded, hassign]
      intro l' hl'
      obtain rfl := Option.mem_some.1 hl'
      exact .assigned (h l hloaded) hassign

/-- Every run of a new store leads to settings that are reachable, if it leads to any. -/
theorem run_holdsReachable (given : Option Text) (places : List Text) (outside : Outside)
    (events : List Event) :
    (Scene.run ⟨new given places, outside⟩ events).store.HoldsReachable := by
  -- on the events; the scene in which they begin varies
  suffices hrun : ∀ scene : Scene, scene.store.HoldsReachable →
      (scene.run events).store.HoldsReachable from hrun _ fun l hl => nomatch hl
  induction events with
  | nil => exact fun scene h => h
  | cons event events ih =>
    intro scene h
    apply ih
    cases event with
    | change after => exact h
    | load lead arguments => exact h.load _
    | assign name v => exact h.assign name v

end SettingsStore
end DownloadNames
