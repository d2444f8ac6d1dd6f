import DownloadNames.Settings.Store

/-
Runs of a store of settings.

A run is a list of events: the files and the environment change, settings are loaded, and fields on
the top level of what is loaded are assigned.  What a store holds after a run is told by the events
alone (`Holds`): the settings of the last load that succeeds, with the assignments since then that
are accepted.  `Follows.step` keeps this over one event, and `follows_run` over a run.
-/

namespace DownloadNames

/-! ## Fields on the top level -/

/-- A field on the top level of settings, with a value of its type. -/
inductive Setting where
  | version (t : Text)
  | templates (t : TemplateSettings)
  | paths (p : PathSettings)
  | headers (h : HeaderSettings)
  | verbose (b : Bool)
  | debug (b : Bool)

namespace Setting

open Settings (Checked)

/-- The field of a name with a value, if the value passes the check that a loaded one passes. -/
def read (name : Text) (v : Value) : Checked Setting :=
  let checked {α : Type} (check : Value → Checked α) (setting : α → Setting) : Checked Setting :=
    ((check v).under (.name name)).map setting
  if name = "version".toList then checked Settings.checkText version
  else if name = "templates".toList then checked Settings.checkTemplateSection templates
  else if name = "paths".toList then checked Settings.checkPathSection paths
  else if name = "headers".toList then checked Settings.checkHeaderSection headers
  else if name = "verbose".toList then checked Settings.checkTruth verbose
  else if name = "debug".toList then checked Settings.checkTruth debug
  else .error [⟨[.name name], .existingField name, v⟩]

/-- Settings with one field set. -/
def applyTo (s : Settings) : Setting → Settings
  | version t => { s with version := t }
  | templates t => { s with templates := t }
  | paths p => { s with paths := p }
  | headers h => { s with headers := h }
  | verbose b => { s with verbose := b }
  | debug b => { s with debug := b }

end Setting

theorem Settings.Checked.map_map {α β γ : Type} (f : α → β) (g : β → γ) (c : Checked α) :
    Except.map g (Except.map f c) = Except.map (g ∘ f) c := by
  cases c <;> rfl

/-- An assignment sets the field that its value makes, and nothing else. -/
theorem LoadedSettings.assign_eq (name : Text) (v : Value) (s : Settings) :
    (⟨s, []⟩ : LoadedSettings).assign name v
      = (Setting.read name v).map fun a => ⟨a.applyTo s, []⟩ := by
  simp only [LoadedSettings.assign, Setting.read, apply_ite (Except.map _),
    Settings.Checked.map_map]
  rfl

theorem LoadedSettings.assign_of_ok {name : Text} {v : Value} {a : Setting}
    (h : Setting.read name v = .ok a) (s : Settings) :
    (⟨s, []⟩ : LoadedSettings).assign name v = .ok ⟨a.applyTo s, []⟩ := by
  rw [assign_eq, h]
  rfl

theorem LoadedSettings.assign_of_error {name : Text} {v : Value} {issues : List Settings.Issue}
    (h : Setting.read name v = .error issues) (s : Settings) :
    (⟨s, []⟩ : LoadedSettings).assign name v = .error issues := by
  rw [assign_eq, h]
  rfl

namespace SettingsStore

open Settings (Inputs)

/-! ## Events -/

/-- What is outside a store. -/
structure Outside where
  files : Settings.Files
  environment : List (Text × Text)
  readers : Settings.Readers := .standard

/-- What a load reads, with arguments and the beginning of the names of variables. -/
def Outside.inputs (outside : Outside) (lead : Text) (arguments : Entries) : Inputs :=
  { files := outside.files, environment := outside.environment, lead, arguments,
    readers := outside.readers }

/-- Something that happens to a store, or outside it. -/
inductive Event where
  | change (outside : Outside)
  | load (lead : Text) (arguments : Entries)
  | assign (name : Text) (v : Value)

/-- A store and what is outside it. -/
structure Scene where
  store : SettingsStore
  outside : Outside

/-- The scene after an event. -/
def Scene.step (scene : Scene) : Event → Scene
  | .change outside => { scene with outside }
  | .load lead arguments =>
    { scene with store := (scene.store.load (scene.outside.inputs lead arguments)).1 }
  | .assign name v => { scene with store := (scene.store.assign name v).1 }

/-- The scene after events, from the first on. -/
def Scene.run (scene : Scene) (events : List Event) : Scene := events.foldl step scene

/-! ## What is held, told by the events -/

section Held

variable (given : Option Text) (places : List Text) (outside : Outside)

/-- What is outside after events. -/
def Outside.after (events : List Event) : Outside :=
  events.foldl (fun
    | _, .change outside => outside
    | outside, _ => outside) outside

/-- The settings that an event loads, if it is a load and succeeds. -/
def Event.loads? : Event → Option Settings
  | .load lead arguments =>
    (Settings.load (outside.inputs lead arguments) given places).toOption
  | _ => none

/-- The field that an event sets if anything is loaded: that of an assignment whose value passes its
check. -/
def Event.sets? : Event → Option Setting
  | .assign name v => (Setting.read name v).toOption
  | _ => none

/-- No event is a load that succeeds. -/
def NoneLoads (events : List Event) : Prop :=
  ∀ before event after, events = before ++ event :: after →
    event.loads? given places (outside.after before) = none

/-- Settings with the fields set that events set. -/
def assigned (s : Settings) (events : List Event) : Settings :=
  (events.filterMap Event.sets?).foldl Setting.applyTo s

/-- What a store holds after events: nothing if no load succeeds, and otherwise the settings of the
last load that does, with the fields set that the events since then set. -/
def Holds (events : List Event) (loaded : Option LoadedSettings) : Prop :=
  (NoneLoads given places outside events ∧ loaded = none)
    ∨ ∃ before event since s, events = before ++ event :: since
        ∧ event.loads? given places (outside.after before) = some s
        ∧ NoneLoads given places (outside.after before) since
        ∧ loaded = some ⟨assigned s since, []⟩

end Held

section Told

variable {given : Option Text} {places : List Text} {outside : Outside} {events : List Event}
  {event : Event} {loaded : Option LoadedSettings}

theorem Outside.after_append (before after : List Event) :
    outside.after (before ++ after) = (outside.after before).after after := by
  rw [Outside.after, List.foldl_append]
  rfl

theorem assigned_append (s : Settings) (before after : List Event) :
    assigned s (before ++ after) = assigned (assigned s before) after := by
  rw [assigned, List.filterMap_append, List.foldl_append]
  rfl

theorem assigned_of_none {s : Settings} (h : event.sets? = none) : assigned s [event] = s := by
  simp [assigned, h]

theorem assigned_of_some {s : Settings} {a : Setting} (h : event.sets? = some a) :
    assigned s [event] = a.applyTo s := by
  simp [assigned, h]

theorem sets?_of_ok {name : Text} {v : Value} {a : Setting} (h : Setting.read name v = .ok a) :
    (Event.assign name v).sets? = some a := by
  rw [Event.sets?, h]
  rfl

theorem sets?_of_error {name : Text} {v : Value} {issues : List Settings.Issue}
    (h : Setting.read name v = .error issues) : (Event.assign name v).sets? = none := by
  rw [Event.sets?, h]
  rfl

theorem loads?_of_ok {lead : Text} {arguments : Entries} {s : Settings}
    (h : Settings.load (outside.inputs lead arguments) given places = .ok s) :
    (Event.load lead arguments).loads? given places outside = some s := by
  rw [Event.loads?, h]
  rfl

theorem loads?_of_error {lead : Text} {arguments : Entries} {e : Settings.LoadFailure}
    (h : Settings.load (outside.inputs lead arguments) given places = .error e) :
    (Event.load lead arguments).loads? given places outside = none := by
  rw [Event.loads?, h]
  rfl

/-- A load leaves what is outside as it was. -/
theorem after_of_loads {s : Settings} (h : event.loads? given places outside = some s) :
    outside.after [event] = outside := by
  cases event with
  | load => rfl
  | change => cases h
  | assign => cases h

theorem noneLoads_nil : NoneLoads given places outside [] := by
  intro before event after h
  cases before <;> cases h

theorem NoneLoads.snoc (h : NoneLoads given places outside events)
    (hevent : event.loads? given places (outside.after events) = none) :
    NoneLoads given places outside (events ++ [event]) := by
  intro before e after hsplit
  rcases List.eq_nil_or_concat after with rfl | ⟨after, last, rfl⟩
  · obtain ⟨rfl, hlast⟩ := List.append_inj' hsplit rfl
    cases hlast
    exact hevent
  · rw [List.concat_eq_append, ← List.cons_append, ← List.append_assoc] at hsplit
    obtain ⟨rfl, -⟩ := List.append_inj' hsplit rfl
    exact h before e after rfl

/-- A load that succeeds is the last one that does. -/
theorem holds_of_loads {s : Settings}
    (h : event.loads? given places (outside.after events) = some s) :
    Holds given places outside (events ++ [event]) (some ⟨s, []⟩) :=
  Or.inr ⟨events, event, [], s, rfl, h, noneLoads_nil, rfl⟩

/-- An event that loads nothing sets at most a field of what is held. -/
theorem Holds.snoc (h : Holds given places outside events loaded)
    (hevent : event.loads? given places (outside.after events) = none) :
    Holds given places outside (events ++ [event])
      (loaded.map fun l => { l with settings := assigned l.settings [event] }) := by
  rcases h with ⟨hnone, rfl⟩ | ⟨before, last, since, s, rfl, hlast, hsince, rfl⟩
  · exact Or.inl ⟨hnone.snoc hevent, rfl⟩
  · refine Or.inr ⟨before, last, since ++ [event], s, by simp, hlast, hsince.snoc ?_, ?_⟩
    · rwa [Outside.after_append, ← List.singleton_append, Outside.after_append,
        after_of_loads hlast] at hevent
    · rw [assigned_append]
      rfl

/-- An event that neither loads nor sets anything keeps what is held. -/
theorem Holds.snoc_of_none (h : Holds given places outside events loaded)
    (hevent : event.loads? given places (outside.after events) = none)
    (hsets : event.sets? = none) : Holds given places outside (events ++ [event]) loaded := by
  simpa only [assigned_of_none hsets, Option.map_id'] using h.snoc hevent

/-- Nothing in a section has been given a value of another type. -/
theorem Holds.strays_eq {l : LoadedSettings} (h : Holds given places outside events (some l)) :
    l.strays = [] := by
  rcases h with ⟨_, hl⟩ | ⟨_, _, _, s, _, _, _, hl⟩
  · cases hl
  · cases hl
    rfl

end Told

/-! ## Single steps of a store -/

section Store

variable {m : SettingsStore} {inputs : Inputs} (name : Text) (v : Value)

/-- The outcome of a load is told by what it reads and by where the store looks for a file. -/
theorem load_snd : (m.load inputs).2 = Settings.load inputs m.given m.places := by
  rw [load]
  cases Settings.load inputs m.given m.places <;> rfl

theorem load_fst_of_ok {s : Settings} (h : Settings.load inputs m.given m.places = .ok s) :
    (m.load inputs).1 = { m with loaded := some ⟨s, []⟩ } := by
  rw [load, h]

/-- A load that fails leaves the store as it was. -/
theorem load_fst_of_error {e : Settings.LoadFailure}
    (h : Settings.load inputs m.given m.places = .error e) : (m.load inputs).1 = m := by
  rw [load, h]

/-- An assignment that is rejected, or made before anything is loaded, leaves the store as it
was. -/
theorem assign_fst_of_not_ok (h : ∀ l, (m.assign name v).2 ≠ some (.ok l)) :
    (m.assign name v).1 = m := by
  cases hloaded : m.loaded with
  | none => simp [assign, hloaded]
  | some l =>
    cases hassign : l.assign name v with
    | error issues => simp [assign, hloaded, hassign]
    | ok l' =>
      have hok : (m.assign name v).2 = some (.ok l') := by simp [assign, hloaded, hassign]
      exact absurd hok (h l')

/-- An assignment is accepted if something is loaded and the value passes its check. -/
theorem assign_snd_eq_ok_iff (hstrays : ∀ l, m.loaded = some l → l.strays = []) :
    (∃ l, (m.assign name v).2 = some (.ok l))
      ↔ m.loaded ≠ none ∧ ∃ a, Setting.read name v = .ok a := by
  obtain ⟨given, places, loaded⟩ := m
  cases loaded with
  | none => simp [assign]
  | some l =>
    obtain ⟨s, strays⟩ := l
    obtain rfl : strays = [] := hstrays _ rfl
    cases hread : Setting.read name v with
    | error issues => simp [assign, LoadedSettings.assign_of_error hread]
    | ok a => simp [assign, LoadedSettings.assign_of_ok hread]

/-- An assignment sets the field that its value makes in what is loaded. -/
theorem assign_fst (hstrays : ∀ l, m.loaded = some l → l.strays = []) :
    (m.assign name v).1 = { m with loaded := m.loaded.map fun l =>
      { l with settings := assigned l.settings [.assign name v] } } := by
  obtain ⟨given, places, loaded⟩ := m
  cases loaded with
  | none => rfl
  | some l =>
    obtain ⟨s, strays⟩ := l
    obtain rfl : strays = [] := hstrays _ rfl
    cases hread : Setting.read name v with
    | error issues =>
      simp [assign, LoadedSettings.assign_of_error hread, assigned_of_none (sets?_of_error hread)]
    | ok a =>
      simp [assign, LoadedSettings.assign_of_ok hread, assigned_of_some (sets?_of_ok hread)]

end Store

/-! ## Runs -/

section Runs

variable {given : Option Text} {places : List Text} {outside : Outside} {events : List Event}
  {scene : Scene}

/-- A scene after events: the store looks for a file where it did, what is outside is what the
events made of it, and what is loaded is what the events tell. -/
structure Follows (given : Option Text) (places : List Text) (outside : Outside)
    (events : List Event) (scene : Scene) : Prop where
  given_eq : scene.store.given = given
  places_eq : scene.store.places = places
  outside_eq : scene.outside = outside.after events
  holds : Holds given places outside events scene.store.loaded

theorem Follows.step (h : Follows given places outside events scene) (event : Event) :
    Follows given places outside (events ++ [event]) (scene.step event) := by
  obtain ⟨hgiven, hplaces, houtside, hholds⟩ := h
  cases event with
  | change after =>
    exact ⟨hgiven, hplaces, by rw [Outside.after_append]; rfl, hholds.snoc_of_none rfl rfl⟩
  | load lead arguments =>
    have hinputs : Settings.load (scene.outside.inputs lead arguments) scene.store.given
        scene.store.places
          = Settings.load ((outside.after events).inputs lead arguments) given places := by
      rw [hgiven, hplaces, houtside]
    have hafter : scene.outside = outside.after (events ++ [.load lead arguments]) := by
      rw [Outside.after_append]
      exact houtside
    cases hload : Settings.load ((outside.after events).inputs lead arguments) given places with
    | ok s =>
      have hstep := load_fst_of_ok (hinputs.trans hload)
      have hheld := holds_of_loads (loads?_of_ok hload)
      exact ⟨by rw [Scene.step, hstep, hgiven], by rw [Scene.step, hstep, hplaces], hafter,
        by rwa [Scene.step, hstep]⟩
    | error e =>
      have hstep := load_fst_of_error (hinputs.trans hload)
      have hheld := hholds.snoc_of_none (loads?_of_error hload) rfl
      exact ⟨by rw [Scene.step, hstep, hgiven], by rw [Scene.step, hstep, hplaces], hafter,
        by rwa [Scene.step, hstep]⟩
  | assign name v =>
    have hstep := assign_fst name v fun l hl => (hl ▸ hholds).strays_eq
    have hheld : Holds given places outside (events ++ [.assign name v]) _ := hholds.snoc rfl
    have hafter : scene.outside = outside.after (events ++ [.assign name v]) := by
      rw [Outside.after_append]
      exact houtside
    exact ⟨by rw [Scene.step, hstep, hgiven], by rw [Scene.step, hstep, hplaces], hafter,
      by rwa [Scene.step, hstep]⟩

theorem Follows.run (h : Follows given places outside events scene) (more : List Event) :
    Follows given places outside (events ++ more) (scene.run more) := by
  induction more generalizing events scene with
  | nil =>
    rw [List.append_nil]
    exact h
  | cons event more ih =>
    rw [← List.singleton_append, ← List.append_assoc]
    exact ih (h.step event)

/-- A new store holds what the events of a run tell. -/
theorem follows_run (given : Option Text) (places : List Text) (outside : Outside)
    (events : List Event) :
    Follows (new given places).given (new given places).places outside events
      (Scene.run ⟨new given places, outside⟩ events) := by
  have hnew : Follows (new given places).given (new given places).places outside []
      ⟨new given places, outside⟩ := ⟨rfl, rfl, rfl, Or.inl ⟨noneLoads_nil, rfl⟩⟩
  exact hnew.run events

/-- After every run of a new store: it holds the settings of the last load that succeeded, with the
accepted assignments since then; the outcome of a load does not depend on the run; a load that fails
and an assignment that is not accepted leave the store as it is; and an assignment is accepted if
something is loaded and the value passes the check of its field. -/
theorem run_holds_last_load (given : Option Text) (places : List Text) (outside : Outside)
    (events : List Event) :
    let start := SettingsStore.new given places
    let store := (Scene.run ⟨start, outside⟩ events).store
    Holds start.given start.places outside events store.loaded
      ∧ (∀ inputs, (store.load inputs).2 = Settings.load inputs start.given start.places)
      ∧ (∀ inputs e, (store.load inputs).2 = .error e → (store.load inputs).1 = store)
      ∧ (∀ name v, (∀ l, (store.assign name v).2 ≠ some (.ok l)) → (store.assign name v).1 = store)
      ∧ ∀ name v, (∃ l, (store.assign name v).2 = some (.ok l))
          ↔ store.loaded ≠ none ∧ ∃ a, Setting.read name v = .ok a := by
  intro start store
  have hfollows := follows_run given places outside events
  have hgiven : store.given = start.given := hfollows.given_eq
  have hplaces : store.places = start.places := hfollows.places_eq
  have hholds : Holds start.given start.places outside events store.loaded := hfollows.holds
  refine ⟨hholds, fun inputs => ?_, fun inputs e he => ?_, assign_fst_of_not_ok,
    fun name v => assign_snd_eq_ok_iff name v fun l hl => (hl ▸ hholds).strays_eq⟩
  · rw [load_snd, hgiven, hplaces]
  · rw [load_snd] at he
    exact load_fst_of_error he

/-- A rejected assignment and a load that fails keep what has been assigned before them. -/
example :
    ((Scene.run ⟨new none [], { files := fun _ => none, environment := [] }⟩
      [.load [] [], .assign "verbose".toList (.bool true),
        .assign "verbose".toList (.text "maybe".toList),
        .load [] [(.text "timeout".toList, .int 0)]]).store.loaded.map
      fun l => (l.settings.verbose, l.settings.headers.timeout)) = some (true, 30) := by
  decide

end Runs
end SettingsStore
end DownloadNames
