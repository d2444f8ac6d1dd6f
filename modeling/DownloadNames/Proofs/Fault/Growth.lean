import DownloadNames.Fault.Basic

/-
What building a fault does to its context.

A context only grows (`Context.Grows`): whatever is built on it, and however far the building gets,
its correlation id and the description of the system stay once they are there, no detail is lost,
and details are only noted under five names.  Its address changes only where a fault about the
network gives one, and its template only where a fault about a template does.
-/

namespace DownloadNames

open Assoc (find? keys)

/-- The names under which faults note details. -/
def Fault.detailNames : List Text :=
  ["status_code", "config_key", "config_value", "field_name", "field_value"].map String.toList

/-! ## Growing contexts -/

/-- Nothing but the address and the template changes from one context to another once it is there,
and only details of faults are noted. -/
structure Context.Grows (before after : Context) : Prop where
  operation : after.operation = before.operation
  filePath : after.filePath = before.filePath
  timestamp : after.timestamp = before.timestamp
  correlationId :
    before.correlationId.isTruthy = true → after.correlationId = before.correlationId
  systemInfo : before.systemInfo.isEmpty = false → after.systemInfo = before.systemInfo
  kept : keys before.userContext <+: keys after.userContext
  noted : ∀ name, name ∉ Fault.detailNames →
    find? name after.userContext = find? name before.userContext

namespace Context

variable {before middle after : Context}

theorem Grows.refl (ctx : Context) : ctx.Grows ctx :=
  ⟨rfl, rfl, rfl, fun _ => rfl, fun _ => rfl, List.prefix_refl _, fun _ _ => rfl⟩

theorem Grows.trans (first : before.Grows middle) (last : middle.Grows after) :
    before.Grows after where
  operation := last.operation.trans first.operation
  filePath := last.filePath.trans first.filePath
  timestamp := last.timestamp.trans first.timestamp
  correlationId h := by
    have hfirst := first.correlationId h
    exact (last.correlationId (by rwa [hfirst])).trans hfirst
  systemInfo h := by
    have hfirst := first.systemInfo h
    exact (last.systemInfo (by rwa [hfirst])).trans hfirst
  kept := first.kept.trans last.kept
  noted name h := (last.noted name h).trans (first.noted name h)

theorem grows_note {name : Text} (hname : name ∈ Fault.detailNames) (v : Value) (ctx : Context) :
    ctx.Grows (ctx.note name v) where
  operation := rfl
  filePath := rfl
  timestamp := rfl
  correlationId _ := rfl
  systemInfo _ := rfl
  kept := by
    rw [note, Assoc.keys_put]
    split
    · exact List.prefix_refl _
    · exact List.prefix_append _ _
  noted other hother := by
    have hne : name ≠ other := fun h => hother (h ▸ hname)
    rw [note, Assoc.find?_put, if_neg hne]

/-- The address and the template are free to change. -/
theorem grows_of_eq_up_to {url template : Value} :
    before.Grows { before with url, template } :=
  ⟨rfl, rfl, rfl, fun _ => rfl, fun _ => rfl, List.prefix_refl _, fun _ _ => rfl⟩

theorem grows_identify (freshId : Text) (ctx : Context) : ctx.Grows (ctx.identify freshId) := by
  rw [identify]
  split
  · exact .refl ctx
  · next h => exact ⟨rfl, rfl, rfl, fun hid => absurd hid h, fun _ => rfl, List.prefix_refl _,
      fun _ _ => rfl⟩

theorem grows_observe (ctx : Context) : ctx.Grows ctx.observe := by
  rw [observe]
  split
  · next h => exact ⟨rfl, rfl, rfl, fun _ => rfl, fun hinfo => absurd h (by rw [hinfo]; decide),
      List.prefix_refl _, fun _ _ => rfl⟩
  · exact .refl ctx

theorem grows_complete (freshId : Text) (ctx : Context) : ctx.Grows (ctx.complete freshId) :=
  (grows_identify freshId ctx).trans (grows_observe _)

@[simp] theorem url_complete (freshId : Text) (ctx : Context) :
    (ctx.complete freshId).url = ctx.url := by
  rw [complete, observe, identify]
  split <;> split <;> rfl

@[simp] theorem template_complete (freshId : Text) (ctx : Context) :
    (ctx.complete freshId).template = ctx.template := by
  rw [complete, observe, identify]
  split <;> split <;> rfl

theorem correlationId_observe (ctx : Context) : ctx.observe.correlationId = ctx.correlationId := by
  rw [observe]
  split <;> rfl

/-- A complete context has a correlation id. -/
theorem correlationId_complete {freshId : Text} (hfresh : freshId ≠ []) (ctx : Context) :
    (ctx.complete freshId).correlationId.isTruthy = true := by
  rw [complete, correlationId_observe, identify]
  split
  · next h => exact h
  · exact bne_iff_ne.2 hfresh

end Context

/-! ## What a subject records -/

namespace Fault

namespace Subject

/-- A subject that is about the network gives an address. -/
def GivesUrl (s : Subject) (url : Value) : Prop :=
  url.isTruthy = true
    ∧ ((∃ message status, s = .network message url status)
      ∨ ∃ status statusText, s = .headerFetch status statusText url)

/-- A subject that is about a template gives one. -/
def GivesTemplate (s : Subject) (t : Value) : Prop :=
  t ≠ .null ∧ ∃ message field value, s = .template message t field value

theorem grows_notePair {first second : String} (hfirst : first.toList ∈ detailNames)
    (hsecond : second.toList ∈ detailNames) (a b : Value) (ctx : Context) :
    ctx.Grows (notePair first second a b ctx) := by
  rw [notePair]
  split
  · exact (Context.grows_note hfirst a ctx).trans (Context.grows_note hsecond b _)
  · exact .refl ctx

@[simp] theorem url_notePair (first second : String) (a b : Value) (ctx : Context) :
    (notePair first second a b ctx).url = ctx.url := by
  rw [notePair]
  split <;> rfl

@[simp] theorem template_notePair (first second : String) (a b : Value) (ctx : Context) :
    (notePair first second a b ctx).template = ctx.template := by
  rw [notePair]
  split <;> rfl

theorem grows_recordUrl (url status : Value) (ctx : Context) :
    ctx.Grows (recordUrl url status ctx) := by
  rw [recordUrl]
  split
  · exact Context.grows_of_eq_up_to.trans (Context.grows_note (by decide) status _)
  · exact .refl ctx

theorem url_recordUrl (url status : Value) (ctx : Context) :
    (recordUrl url status ctx).url = if url.isTruthy then url else ctx.url := by
  rw [recordUrl]
  split <;> rfl

@[simp] theorem template_recordUrl (url status : Value) (ctx : Context) :
    (recordUrl url status ctx).template = ctx.template := by
  rw [recordUrl]
  split <;> rfl

theorem grows_recordTemplate (t : Value) (ctx : Context) : ctx.Grows (recordTemplate t ctx) := by
  rw [recordTemplate.eq_def]
  split
  · exact .refl ctx
  · exact Context.grows_of_eq_up_to

@[simp] theorem url_recordTemplate (t : Value) (ctx : Context) :
    (recordTemplate t ctx).url = ctx.url := by
  rw [recordTemplate.eq_def]
  split <;> rfl

theorem grows_record (s : Subject) (ctx : Context) : ctx.Grows (s.record ctx) := by
  cases s with
  | general => exact .refl ctx
  | network => exact grows_recordUrl _ _ ctx
  | headerFetch => exact grows_recordUrl _ _ ctx
  | configuration => exact grows_notePair (by decide) (by decide) _ _ ctx
  | validation => exact grows_notePair (by decide) (by decide) _ _ ctx
  | template _ t =>
    exact (grows_recordTemplate t ctx).trans (grows_notePair (by decide) (by decide) _ _ _)

/-- The address changes only where the subject gives one. -/
theorem url_record (s : Subject) (ctx : Context) :
    (s.record ctx).url = ctx.url ∨ s.GivesUrl (s.record ctx).url := by
  cases s with
  | general => exact .inl rfl
  | network message url status =>
    rw [record, url_recordUrl]
    split
    · next h => exact .inr ⟨h, .inl ⟨message, status, rfl⟩⟩
    · exact .inl rfl
  | headerFetch status statusText url =>
    rw [record, url_recordUrl]
    split
    · next h => exact .inr ⟨h, .inr ⟨status, statusText, rfl⟩⟩
    · exact .inl rfl
  | configuration => exact .inl (url_notePair ..)
  | validation => exact .inl (url_notePair ..)
  | template => exact .inl ((url_notePair ..).trans (url_recordTemplate ..))

/-- The template changes only where the subject gives one. -/
theorem template_record (s : Subject) (ctx : Context) :
    (s.record ctx).template = ctx.template ∨ s.GivesTemplate (s.record ctx).template := by
  cases s with
  | general => exact .inl rfl
  | network => exact .inl (template_recordUrl ..)
  | headerFetch => exact .inl (template_recordUrl ..)
  | configuration => exact .inl (template_notePair ..)
  | validation => exact .inl (template_notePair ..)
  | template message t field value =>
    rw [record, template_notePair, recordTemplate.eq_def]
    split
    · exact .inl rfl
    · next h => exact .inr ⟨h, message, field, value, rfl⟩

end Subject

/-! ## Building -/

section Building

variable (freshId : Text) (draft : Draft) (ctx : Context)

/-- Building leaves the context as it is, or with the subject recorded, or completed as well; a
fault that is built has completed it. -/
theorem build_cases :
    ((build freshId draft ctx).1 = ctx ∧ (build freshId draft ctx).2 = .error .unknownDetail)
      ∨ ((build freshId draft ctx).1 = draft.subject.record ctx
        ∧ (build freshId draft ctx).2 = .error .unknownDetail)
      ∨ (build freshId draft ctx).1 = (draft.subject.record ctx).complete freshId := by
  rw [build]
  split
  · exact .inl ⟨rfl, rfl⟩
  · split
    · exact .inr (.inr rfl)
    · exact .inr (.inl ⟨rfl, rfl⟩)

theorem build_of_ok {fault : Fault} (h : (build freshId draft ctx).2 = .ok fault) :
    (build freshId draft ctx).1 = (draft.subject.record ctx).complete freshId := by
  obtain ⟨-, herr⟩ | ⟨-, herr⟩ | hctx := build_cases freshId draft ctx
  · rw [herr] at h
    cases h
  · rw [herr] at h
    cases h
  · exact hctx

theorem grows_build : ctx.Grows (build freshId draft ctx).1 := by
  obtain ⟨h, -⟩ | ⟨h, -⟩ | h := build_cases freshId draft ctx
  · rw [h]
    exact .refl ctx
  · rw [h]
    exact draft.subject.grows_record ctx
  · rw [h]
    exact (draft.subject.grows_record ctx).trans (Context.grows_complete freshId _)

theorem url_build :
    (build freshId draft ctx).1.url = ctx.url
      ∨ draft.subject.GivesUrl (build freshId draft ctx).1.url := by
  obtain ⟨h, -⟩ | ⟨h, -⟩ | h := build_cases freshId draft ctx
  · exact .inl (by rw [h])
  · rw [h]
    exact draft.subject.url_record ctx
  · rw [h, Context.url_complete]
    exact draft.subject.url_record ctx

theorem template_build :
    (build freshId draft ctx).1.template = ctx.template
      ∨ draft.subject.GivesTemplate (build freshId draft ctx).1.template := by
  obtain ⟨h, -⟩ | ⟨h, -⟩ | h := build_cases freshId draft ctx
  · exact .inl (by rw [h])
  · rw [h]
    exact draft.subject.template_record ctx
  · rw [h, Context.template_complete]
    exact draft.subject.template_record ctx

end Building

end Fault
end DownloadNames
