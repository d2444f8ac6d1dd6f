import DownloadNames.Fault.Board
import DownloadNames.Proofs.Fault.Growth
import DownloadNames.Proofs.Text.Pieces

/-
Runs of a board of faults.

A run is a list of events: faults are built on shared contexts or on contexts of their own, whether
they are refused or not, and suggestions are added.  What a shared context has become after a run is
told by the events alone (`Develops`): it has grown, its address and its template are the first ones
or were given by an event on it, and a context that no event is on is the same.  `develops_step`
keeps this over one event and `develops_run` over a run; with it the correlation id that the first
fault fills in is the one that all faults on the context report ever after.
-/

namespace DownloadNames.Fault.Board

open Assoc (find?)

/-! ## Events -/

/-- Something that happens to a board. -/
inductive Event where
  | raiseOn (freshId id name : Text) (draft : Draft)
  | raiseAlone (freshId id : Text) (draft : Draft)
  | suggest (id : Text) (s : Suggestion)

namespace Event

/-- The name of the shared context that an event is on. -/
def home? : Event → Option Text
  | .raiseOn _ _ name _ => some name
  | _ => none

/-- A fault on the context of a name is built from a subject. -/
def Raises (event : Event) (name : Text) (s : Subject) : Prop :=
  ∃ freshId id draft, event = .raiseOn freshId id name draft ∧ draft.subject = s

end Event

variable (board : Board)

/-- The board after an event. -/
def step : Event → Board
  | .raiseOn freshId id name draft => (board.raiseOn freshId id name draft).1
  | .raiseAlone freshId id draft => (board.raiseAlone freshId id draft).1
  | .suggest id s => (board.suggest id s).1

/-- The board after events, from the first on. -/
def run (events : List Event) : Board := events.foldl step board

theorem run_append (earlier later : List Event) :
    board.run (earlier ++ later) = (board.run earlier).run later := List.foldl_append

/-! ## One event -/

section Step

variable {board} {name : Text} {ctx : Context}

theorem context_eq_ok_iff :
    board.context name = .ok ctx ↔ find? name board.contexts = some ctx := by
  rw [context]
  cases find? name board.contexts <;> simp

theorem contexts_raiseOn (h : board.context name = .ok ctx) (freshId id : Text) (draft : Draft) :
    (board.raiseOn freshId id name draft).1.contexts
      = Assoc.put name (build freshId draft ctx).1 board.contexts := by
  simp only [raiseOn, h]
  cases build freshId draft ctx with
  | mk after result => cases result <;> rfl

theorem raiseOn_eq_ok_iff (h : board.context name = .ok ctx) {freshId id : Text} {draft : Draft}
    {fault : Fault} :
    (board.raiseOn freshId id name draft).2 = .ok fault
      ↔ (build freshId draft ctx).2 = .ok fault := by
  simp only [raiseOn, h]
  cases build freshId draft ctx with
  | mk after result => cases result <;> simp

/-- A fault that is built on a context makes of it what building makes of it, refused or not. -/
theorem context_raiseOn_self (h : board.context name = .ok ctx) (freshId id : Text)
    (draft : Draft) :
    (board.raiseOn freshId id name draft).1.context name = .ok (build freshId draft ctx).1 := by
  rw [context_eq_ok_iff, contexts_raiseOn h, Assoc.find?_put, if_pos rfl]

theorem context_raiseOn_of_ne {other : Text} (hne : other ≠ name) (freshId id : Text)
    (draft : Draft) :
    (board.raiseOn freshId id other draft).1.context name = board.context name := by
  cases h : board.context other with
  | error => simp only [raiseOn, h]
  | ok ctx => simp only [context, contexts_raiseOn h, Assoc.find?_put, if_neg hne]

theorem context_raiseAlone (freshId id : Text) (draft : Draft) :
    (board.raiseAlone freshId id draft).1.context name = board.context name := by
  simp only [raiseAlone]
  cases build freshId draft {} with
  | mk after result => cases result <;> rfl

theorem context_suggest (id : Text) (s : Suggestion) :
    (board.suggest id s).1.context name = board.context name := by
  simp only [suggest]
  cases find? id board.faults <;> rfl

/-- An event that is not on a context does not change it. -/
theorem context_step_of_ne {event : Event} (h : event.home? ≠ some name) :
    (board.step event).context name = board.context name := by
  cases event with
  | raiseOn freshId id other draft =>
    exact context_raiseOn_of_ne (fun heq => h (congrArg some heq)) freshId id draft
  | raiseAlone freshId id draft => exact context_raiseAlone freshId id draft
  | suggest id s => exact context_suggest id s

end Step

/-! ## What events make of a context -/

/-- What events can make of the context of a name. -/
structure Develops (events : List Event) (name : Text) (before after : Context) : Prop where
  grows : before.Grows after
  url : after.url = before.url
    ∨ ∃ event ∈ events, ∃ s, event.Raises name s ∧ s.GivesUrl after.url
  template : after.template = before.template
    ∨ ∃ event ∈ events, ∃ s, event.Raises name s ∧ s.GivesTemplate after.template
  untouched : (∀ event ∈ events, event.home? ≠ some name) → after = before

section Run

variable {board} {name : Text} {before middle after : Context} {events later : List Event}

theorem Develops.refl (events : List Event) (name : Text) (ctx : Context) :
    Develops events name ctx ctx :=
  ⟨.refl ctx, .inl rfl, .inl rfl, fun _ => rfl⟩

/-- What events make of a context, and what later ones make of that. -/
theorem Develops.trans (first : Develops events name before middle)
    (last : Develops later name middle after) : Develops (events ++ later) name before after where
  grows := first.grows.trans last.grows
  url := by
    rcases last.url with hlast | ⟨event, hmem, hgives⟩
    · rw [hlast]
      exact first.url.imp_right fun ⟨event, hmem, hgives⟩ =>
        ⟨event, List.mem_append_left _ hmem, hgives⟩
    · exact .inr ⟨event, List.mem_append_right _ hmem, hgives⟩
  template := by
    rcases last.template with hlast | ⟨event, hmem, hgives⟩
    · rw [hlast]
      exact first.template.imp_right fun ⟨event, hmem, hgives⟩ =>
        ⟨event, List.mem_append_left _ hmem, hgives⟩
    · exact .inr ⟨event, List.mem_append_right _ hmem, hgives⟩
  untouched h := by
    rw [last.untouched fun event hmem => h event (List.mem_append_right _ hmem),
      first.untouched fun event hmem => h event (List.mem_append_left _ hmem)]

/-- One event keeps the context of a name, as grown. -/
theorem develops_step (h : board.context name = .ok before) (event : Event) :
    ∃ after, (board.step event).context name = .ok after
      ∧ Develops [event] name before after := by
  -- only a fault that is built on the context can change it
  by_cases hhome : event.home? = some name
  · cases event with
    | raiseOn freshId id other draft =>
      obtain rfl : other = name := Option.some.inj hhome
      have hraises : (Event.raiseOn freshId id other draft).Raises other draft.subject :=
        ⟨freshId, id, draft, rfl, rfl⟩
      refine ⟨_, context_raiseOn_self h freshId id draft, grows_build freshId draft before,
        (url_build freshId draft before).imp_right fun hgives =>
          ⟨_, List.mem_singleton_self _, _, hraises, hgives⟩,
        (template_build freshId draft before).imp_right fun hgives =>
          ⟨_, List.mem_singleton_self _, _, hraises, hgives⟩,
        fun hnone => absurd rfl (hnone _ (List.mem_singleton_self _))⟩
    | raiseAlone => cases hhome
    | suggest => cases hhome
  · exact ⟨before, (context_step_of_ne hhome).trans h, .refl [event] name before⟩

/-- Events keep the context of a name, as grown. -/
theorem develops_run (h : board.context name = .ok before) (events : List Event) :
    ∃ after, (board.run events).context name = .ok after
      ∧ Develops events name before after := by
  induction events generalizing board before with
  | nil => exact ⟨before, h, .refl [] name before⟩
  | cons event events ih =>
    obtain ⟨middle, hmiddle, hfirst⟩ := develops_step h event
    obtain ⟨after, hafter, hlast⟩ := ih hmiddle
    exact ⟨after, hafter, hfirst.trans hlast⟩

end Run

/-! ## The correlation id of a context -/

/-- A fault reports the correlation id of its context. -/
theorem correlationId_infix_report (f : Fault) {ctx : Context}
    (h : ctx.correlationId.isTruthy = true) :
    "\nCorrelation ID: ".toList ++ ctx.correlationId.display <:+: f.report ctx := by
  have hinfix (first line : Text) (codes solutions : List Text) :
      ['\n'] ++ line <:+: Text.joinWith ['\n'] ([first] ++ codes ++ [line] ++ solutions) := by
    have hmem : line ∈ codes ++ [line] ++ solutions := by simp
    exact Text.infix_joinWith hmem
  rw [report, if_pos h]
  exact hinfix _ _ _ _

section Identified

variable {board : Board} {name freshId id : Text} {draft : Draft} {before after : Context}
  {events earlier later : List Event}

/-- Once a fault has been built on a context, its correlation id stays the same. -/
theorem correlationId_run (hbefore : board.context name = .ok before) (hfresh : freshId ≠ [])
    (hbuilt : ∃ fault, (board.raiseOn freshId id name draft).2 = .ok fault) (later : List Event) :
    ∃ middle after, (board.raiseOn freshId id name draft).1.context name = .ok middle
      ∧ middle.correlationId.isTruthy = true
      ∧ ((board.raiseOn freshId id name draft).1.run later).context name = .ok after
      ∧ after.correlationId = middle.correlationId := by
  obtain ⟨fault, hfault⟩ := hbuilt
  have hmiddle := context_raiseOn_self hbefore freshId id draft
  rw [build_of_ok _ _ _ ((raiseOn_eq_ok_iff hbefore).1 hfault)] at hmiddle
  have hid := Context.correlationId_complete hfresh (draft.subject.record before)
  obtain ⟨after, hafter, hdevelops⟩ := develops_run hmiddle later
  exact ⟨_, after, hmiddle, hid, hafter, hdevelops.grows.correlationId hid⟩

/-- What a run of faults, refused ones among them, makes of a shared context, and the correlation id
that the faults on it report from the first one on that is built. -/
theorem context_run (hbefore : board.context name = .ok before) (events : List Event) :
    ∃ after, (board.run events).context name = .ok after
      ∧ Develops events name before after
      ∧ ∀ earlier freshId id draft later,
          events = earlier ++ .raiseOn freshId id name draft :: later → freshId ≠ [] →
          (∃ fault, ((board.run earlier).raiseOn freshId id name draft).2 = .ok fault) →
          ∃ middle, ((board.run earlier).raiseOn freshId id name draft).1.context name = .ok middle
            ∧ middle.correlationId.isTruthy = true
            ∧ after.correlationId = middle.correlationId
            ∧ ∀ id fault, find? id (board.run events).faults = some (fault, .shared name) →
                (board.run events).fault id = .ok (fault, after)
                  ∧ "\nCorrelation ID: ".toList ++ middle.correlationId.display
                      <:+: fault.report after := by
  obtain ⟨after, hafter, hdevelops⟩ := develops_run hbefore events
  refine ⟨after, hafter, hdevelops, ?_⟩
  intro earlier freshId id draft later hevents hfresh hbuilt
  -- the run up to the fault leaves some context for it, and the rest of the run keeps the id
  obtain ⟨start, hstart, -⟩ := develops_run hbefore earlier
  obtain ⟨middle, last, hmiddle, hid, hlast, hsame⟩ := correlationId_run hstart hfresh hbuilt later
  have hrun : board.run events
      = ((board.run earlier).raiseOn freshId id name draft).1.run later := by
    rw [hevents, run_append]
    rfl
  obtain rfl : after = last := by
    rw [hrun, hlast] at hafter
    exact (Except.ok.inj hafter).symm
  refine ⟨middle, hmiddle, hid, hsame, fun id' fault hfound => ?_⟩
  constructor
  · simp only [Board.fault, hfound, hafter]
    rfl
  · rw [← hsame] at hid ⊢
    exact correlationId_infix_report fault hid

end Identified

/-- A refused fault leaves its address and no correlation id; the next one fills the id in, and a
fault about a template built afterwards keeps both. -/
theorem context_run_after_refused :
    let name := "c".toList
    let start : Context := { userContext := [("k".toList, .int 1)] }
    let board : Board := { contexts := [(name, start)] }
    let refused : Draft :=
      { subject := .network (.text "m".toList) (.text "u".toList) (.int 404)
        extras := ["x".toList] }
    let plain : Draft := { subject := .general (.text "m".toList) }
    let late : Draft :=
      { subject := .template (.text "m".toList) (.text "<".toList) .null .null }
    let earlier : List Event := [.raiseOn "1".toList "a".toList name refused]
    let events := earlier ++ [.raiseOn "2".toList "b".toList name plain,
      .raiseOn "3".toList "d".toList name late]
    board.context name = .ok start
      ∧ ∃ after, (board.run events).context name = .ok after ∧ Develops events name start after
        ∧ after.url = .text "u".toList ∧ after.template = .text "<".toList
        ∧ after.correlationId = .text "2".toList
        ∧ ∃ fault, (board.run events).fault "b".toList = .ok (fault, after)
          ∧ "\nCorrelation ID: 2".toList <:+: fault.report after := by
  intro name start board refused plain late earlier events
  have hstart : board.context name = .ok start := rfl
  obtain ⟨after, hafter, hdevelops, hid⟩ := context_run hstart events
  obtain ⟨middle, hmiddle, -, -, hreport⟩ :=
    hid earlier "2".toList "b".toList plain _ rfl (by decide) ⟨_, rfl⟩
  obtain ⟨hfault, hline⟩ := hreport "b".toList _ rfl
  cases hmiddle
  refine ⟨hstart, after, hafter, hdevelops, ?_, ?_, ?_, _, hfault, hline⟩
  all_goals cases hafter; rfl

end DownloadNames.Fault.Board
