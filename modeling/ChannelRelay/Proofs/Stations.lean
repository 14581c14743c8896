import ChannelRelay.Relaying
import ChannelRelay.Proofs.Task

/-!
# Subscriptions and listeners

What may happen at the station of one chain, whatever the other threads do in between.

* `Station.Step`: everything that one event can do to a station;
* `Stations.run?_get`: a run of both stations is a run of each of them;
* `pending_run`: what the chain emits is handled in order, or still to be taken;
* `looping_run`: a listener that is neither told to stop nor disconnected goes on;
* `ended_of_joined`, `no_calls_of_ended`: a listener that was waited for is gone.
-/

namespace ChannelRelay

namespace Station

/-! ## One event -/

/-- What one event does to a station. -/
inductive Step : Station → Event → Station → Prop where
  | subscribe : Step .absent .subscribe (.subscribed {})
  | listen (subscription : Subscription) (chain counterparty : Side) :
      Step (.subscribed subscription) (.listen chain counterparty)
        (.listening { chain, counterparty, subscription })
  | emitEarly (sub : Subscription) (batch : EventBatch) (isOpen : sub.closed = false) :
      Step (.subscribed sub) (.act (.emit batch))
        (.subscribed { sub with pending := sub.pending ++ [batch] })
  | closeEarly (sub : Subscription) :
      Step (.subscribed sub) (.act .close) (.subscribed { sub with closed := true })
  | emit (l : Listener) (batch : EventBatch) (isOpen : l.subscription.closed = false) :
      Step (.listening l) (.act (.emit batch))
        (.listening { l with subscription.pending := l.subscription.pending ++ [batch] })
  | close (l : Listener) :
      Step (.listening l) (.act .close) (.listening { l with subscription.closed := true })
  | handle (l : Listener) (batch : EventBatch) (rest : List EventBatch)
      (stepping : l.task.phase = .stepping) (free : l.handling = none)
      (pending : l.subscription.pending = batch :: rest) :
      Step (.listening l) (.act (.handle (l.callFor batch)))
        (.listening { l with
          subscription.pending := rest, handling := some (l.callFor batch) })
  | handled (l : Listener) (succeeded : Bool) (stepping : l.task.phase = .stepping) :
      Step (.listening l) (.act (.handled succeeded))
        (.listening { l with handling := none, task.phase := .polling })
  | timeout (l : Listener) (stepping : l.task.phase = .stepping) :
      Step (.listening l) (.act .timeout) (.listening { l with task.phase := .polling })
  | disconnect (l : Listener) (stepping : l.task.phase = .stepping) (free : l.handling = none)
      (drained : l.subscription.pending = []) (closed : l.subscription.closed = true) :
      Step (.listening l) (.act .disconnect) (.listening { l with task.phase := .leaving })
  | task (l : Listener) (e : Task.ThreadEvent) (t : Task) (goesOn : ∀ o, e ≠ .finish o)
      (step : Task.Step l.task (.thread e) t) :
      Step (.listening l) (.act (.task e)) (.listening { l with task := t })
  | touch (l : Listener) (e : Task.HandleEvent) (t : Task)
      (step : Task.Step l.task (.handle e) t) :
      Step (.listening l) (.touch e) (.listening { l with task := t })

theorem finish?_eq_some {l l' : Listener} {outcome : StepOutcome}
    (h : l.finish? outcome = some l') :
    l.task.phase = .stepping ∧
      l' = { l with task.phase := if outcome.isFinal then .leaving else .polling } := by
  obtain ⟨t, advanced, ⟨⟩⟩ := Option.bind_eq_some_iff.mp h
  cases Task.step_of_advance? advanced with
  | finished _ stepping => exact ⟨stepping, rfl⟩

theorem step_of_listener {l l' : Listener} {e : Listener.Event} (h : l.next? e = some l') :
    Step (.listening l) (.act e) (.listening l') := by
  cases e with
  | emit batch =>
    obtain ⟨sub, emitted, ⟨⟩⟩ := Option.bind_eq_some_iff.mp h
    unfold Subscription.emit? at emitted
    split at emitted
    · cases emitted
    · rename_i isOpen
      cases emitted
      exact .emit l batch (by simpa using isOpen)
  | close =>
    cases h
    exact .close l
  | handle call =>
    simp only [Listener.next?] at h
    split at h
    · cases h
    · rename_i batch rest pending
      split at h
      · rename_i ready
        obtain ⟨waiting, rfl⟩ := ready
        cases h
        obtain ⟨stepping, free⟩ : l.task.phase = .stepping ∧ l.handling = none := by
          simpa [Listener.isWaiting] using waiting
        exact .handle l batch rest stepping free pending
      · cases h
  | handled succeeded =>
    simp only [Listener.next?] at h
    split at h
    · obtain ⟨stepping, rfl⟩ := finish?_eq_some h
      cases succeeded <;> exact .handled l _ stepping
    · cases h
  | timeout =>
    simp only [Listener.next?] at h
    split at h
    · obtain ⟨stepping, rfl⟩ := finish?_eq_some h
      exact .timeout l stepping
    · cases h
  | disconnect =>
    simp only [Listener.next?] at h
    split at h
    · rename_i ready
      obtain ⟨waiting, drained, closed⟩ := ready
      obtain ⟨stepping, rfl⟩ := finish?_eq_some h
      have free : l.handling = none := by
        simp only [Listener.isWaiting, Bool.and_eq_true, Option.isNone_iff_eq_none] at waiting
        exact waiting.2
      exact .disconnect l stepping free drained closed
    · cases h
  | task e =>
    cases e with
    | finish outcome => cases h
    | poll | enter | stop | exit =>
      obtain ⟨t, advanced, ⟨⟩⟩ := Option.bind_eq_some_iff.mp h
      exact .task l _ t nofun (Task.step_of_advance? advanced)

theorem step_of_next? {st st' : Station} {e : Event} (h : st.next? e = some st') :
    Step st e st' := by
  cases st with
  | absent =>
    cases e with
    | subscribe =>
      cases h
      exact .subscribe
    | listen | touch | act => cases h
  | subscribed sub =>
    cases e with
    | listen chain counterparty =>
      cases h
      exact .listen sub chain counterparty
    | act e =>
      cases e with
      | emit batch =>
        obtain ⟨sub', emitted, rfl⟩ := Option.map_eq_some_iff.mp h
        unfold Subscription.emit? at emitted
        split at emitted
        · cases emitted
        · rename_i isOpen
          cases emitted
          exact .emitEarly sub batch (by simpa using isOpen)
      | close =>
        cases h
        exact .closeEarly sub
      | handle | handled | timeout | disconnect | task => cases h
    | subscribe | touch => cases h
  | listening l =>
    cases e with
    | touch e =>
      obtain ⟨l', next, rfl⟩ := Option.map_eq_some_iff.mp h
      obtain ⟨t, touched, ⟨⟩⟩ := Option.bind_eq_some_iff.mp next
      exact .touch l e t (Task.step_of_touch? touched)
    | act e =>
      obtain ⟨l', next, rfl⟩ := Option.map_eq_some_iff.mp h
      exact step_of_listener next
    | subscribe | listen => cases h

/-! ## Runs -/

variable {st st' : Station} {events : List Event}

theorem run?_cons {e : Event} :
    st.run? (e :: events) = some st' ↔ ∃ v, st.next? e = some v ∧ v.run? events = some st' := by
  simp only [run?, Option.bind_eq_some_iff]

theorem run?_append {first rest : List Event} :
    st.run? (first ++ rest) = some st' ↔
      ∃ v, st.run? first = some v ∧ v.run? rest = some st' := by
  induction first generalizing st with
  | nil => simp [run?]
  | cons e first ih =>
    simp only [List.cons_append, run?_cons, ih]
    constructor
    · rintro ⟨w, step, v, front, back⟩
      exact ⟨v, ⟨w, step, front⟩, back⟩
    · rintro ⟨v, ⟨w, step, front⟩, back⟩
      exact ⟨w, step, v, front, back⟩

/-- Where the station was at any event of a run, and what the event did. -/
theorem run_split {before after : List Event} {e : Event}
    (run : st.run? (before ++ e :: after) = some st') :
    ∃ v w, st.run? before = some v ∧ Step v e w ∧ w.run? after = some st' := by
  obtain ⟨v, front, run⟩ := run?_append.mp run
  obtain ⟨w, next, back⟩ := run?_cons.mp run
  exact ⟨v, w, front, step_of_next? next, back⟩

/-- What every event with the property `A` keeps, a run of such events keeps. -/
theorem run_invariant {P : Station → Prop} {A : Event → Prop}
    (keeps : ∀ {v e w}, A e → Step v e w → P v → P w)
    (run : st.run? events = some st') (all : ∀ e ∈ events, A e) (h : P st) : P st' := by
  induction events generalizing st with
  | nil =>
    cases run
    exact h
  | cons e rest ih =>
    obtain ⟨v, next, run⟩ := run?_cons.mp run
    exact ih run (fun e mem => all e (List.mem_cons_of_mem _ mem))
      (keeps (all e List.mem_cons_self) (step_of_next? next) h)

/-! ## What becomes of the events -/

/-- What has been emitted and not been taken. -/
def pending : Station → List EventBatch
  | absent => []
  | subscribed subscription => subscription.pending
  | listening l => l.subscription.pending

def Event.emitted? : Event → Option EventBatch
  | .act (.emit batch) => some batch
  | _ => none

def Event.call? : Event → Option HandlerCall
  | .act (.handle call) => some call
  | _ => none

/-- Everything that the chain emits is handled in order, but for what is still to be taken. -/
theorem pending_run (run : st.run? events = some st') :
    st.pending ++ events.filterMap Event.emitted? =
      (events.filterMap Event.call?).map HandlerCall.batch ++ st'.pending := by
  induction events generalizing st with
  | nil =>
    cases run
    simp
  | cons e rest ih =>
    obtain ⟨v, next, run⟩ := run?_cons.mp run
    have later := ih run
    cases step_of_next? next with
    | subscribe | listen | closeEarly | close | handled | timeout | disconnect | task | touch =>
      exact later
    | emitEarly | emit =>
      simp only [pending, List.append_assoc] at later
      exact later
    | handle l batch others stepping free taken =>
      have front : pending (.listening l) = batch :: others := taken
      rw [front]
      exact congrArg (batch :: ·) later

/-- A subscription is found closed only when there is nothing left in it. -/
theorem Step.drained (h : Step st (.act .disconnect) st') : st.pending = [] := by
  cases h with
  | disconnect _ _ _ drained => exact drained

/-- The listener, if there is one, is on the side `s`. -/
def IsFor (s : Side) : Station → Prop
  | listening l => l.chain = s ∧ l.counterparty = s.other
  | _ => True

/-- Whether a listener that the event starts is on the side `s`. -/
def Event.IsFor (s : Side) : Event → Prop
  | .listen chain counterparty => chain = s ∧ counterparty = s.other
  | _ => True

theorem Step.isFor {s : Side} {e : Event} (wired : e.IsFor s) (h : Step st e st')
    (before : st.IsFor s) : st'.IsFor s := by
  cases h with
  | subscribe | emitEarly | closeEarly => trivial
  | listen => exact wired
  | emit | close | handle | handled | timeout | disconnect | task | touch => exact before

/-- The handler is told which chain the batch comes from, and which one is the other. -/
theorem calls_run {s : Side} (run : st.run? events = some st') (before : st.IsFor s)
    (wired : ∀ e ∈ events, e.IsFor s) :
    ∀ call ∈ events.filterMap Event.call?, call.chain = s ∧ call.counterparty = s.other := by
  intro call mem
  obtain ⟨e, mem, called⟩ := List.mem_filterMap.mp mem
  obtain ⟨first, rest, rfl⟩ := List.append_of_mem mem
  obtain ⟨v, w, front, step, _⟩ := run_split run
  have there : v.IsFor s := run_invariant (fun ok step h => step.isFor ok h) front
    (fun e mem => wired e (List.mem_append_left _ mem)) before
  cases step with
  | handle l batch =>
    cases called
    exact there
  | _ => cases called

/-! ## Why a listener stops -/

/-- Whether there is a listener. -/
def HasListener : Station → Prop
  | listening _ => True
  | _ => False

theorem Step.hasListener {e : Event} (h : Step st e st') :
    st'.HasListener ↔ st.HasListener ∨ ∃ chain counterparty, e = .listen chain counterparty := by
  cases h <;> simp [HasListener]

/-- A listener that was started stays there, and nothing else puts one there. -/
theorem hasListener_run (run : st.run? events = some st') :
    st'.HasListener ↔
      st.HasListener ∨ ∃ chain counterparty, .listen chain counterparty ∈ events := by
  induction events generalizing st with
  | nil =>
    cases run
    simp
  | cons e rest ih =>
    obtain ⟨v, next, run⟩ := run?_cons.mp run
    rw [ih run, (step_of_next? next).hasListener]
    simp only [List.mem_cons, exists_or, or_assoc, eq_comm]

/-- The events that tell a listener to stop. -/
def Event.Tells : Event → Prop
  | .touch .signal | .touch .release => True
  | _ => False

/-- The listener, if there is one, has not been told to stop. -/
def Untold : Station → Prop
  | listening l => l.task.signalled = false ∧ l.task.released = false
  | _ => True

theorem Step.untold {e : Event} (silent : ¬ e.Tells) (h : Step st e st') (before : st.Untold) :
    st'.Untold := by
  cases h with
  | subscribe | emitEarly | closeEarly => trivial
  | listen => exact ⟨rfl, rfl⟩
  | emit | close | handle | handled | timeout | disconnect => exact before
  | task l e t goesOn step =>
    cases step with
    | found => exact ⟨rfl, before.2⟩
    | abandoned | cleared | entered | finished | marked | exited => exact before
  | touch l e t step =>
    cases step with
    | signalled | unheard | released => exact absurd trivial silent
    | observed | joined => exact before

theorem untold_run (run : st.run? events = some st') (silent : ∀ e ∈ events, ¬ e.Tells)
    (before : st.Untold) : st'.Untold :=
  run_invariant (fun ok step h => step.untold ok h) run silent before

/-- The listener, if there is one, has not left its loop. -/
def Looping : Station → Prop
  | listening l => l.task.phase.isLooping = true
  | _ => True

theorem Step.looping {e : Event} (untold : st.Untold) (connected : e ≠ .act .disconnect)
    (h : Step st e st') (before : st.Looping) : st'.Looping := by
  cases h with
  | subscribe | emitEarly | closeEarly => trivial
  | listen | handled | timeout => rfl
  | emit | close | handle => exact before
  | disconnect => exact absurd rfl connected
  | task l e t goesOn step =>
    cases step with
    | found _ signalled => cases untold.1.symm.trans signalled
    | abandoned _ _ released => cases untold.2.symm.trans released
    | cleared | entered => rfl
    | finished outcome => exact absurd rfl (goesOn outcome)
    | marked phase | exited phase =>
      have there : l.task.phase.isLooping = true := before
      rw [phase] at there
      cases there
  | touch l e t step =>
    cases step with
    | signalled | unheard | released | observed | joined => exact before

/-- A listener that is neither told to stop nor disconnected goes on. -/
theorem looping_run (run : st.run? events = some st') (silent : ∀ e ∈ events, ¬ e.Tells)
    (connected : .act .disconnect ∉ events) (untold : st.Untold) (before : st.Looping) :
    st'.Looping := by
  refine (run_invariant (P := fun v => v.Untold ∧ v.Looping)
    (A := fun e => ¬ e.Tells ∧ e ≠ .act .disconnect) ?_ run ?_ ⟨untold, before⟩).2
  · rintro v e w ⟨quiet, kept⟩ step ⟨untold, looping⟩
    exact ⟨step.untold quiet untold, step.looping untold kept looping⟩
  · exact fun e mem => ⟨silent e mem, fun same => connected (same ▸ mem)⟩

/-- The listener has ended. -/
def Ended : Station → Prop
  | listening l => l.task.phase = .ended
  | _ => False

theorem Step.ended {e : Event} (h : Step st e st') (before : st.Ended) :
    st'.Ended ∧ e.call? = none := by
  cases h with
  | subscribe | listen | emitEarly | closeEarly => exact before.elim
  | emit | close => exact ⟨before, rfl⟩
  | handle _ _ _ stepping | handled _ _ stepping | timeout _ stepping | disconnect _ stepping =>
    cases stepping.symm.trans before
  | task _ _ _ _ step => exact ⟨step.ended before, rfl⟩
  | touch _ _ _ step => exact ⟨step.ended before, rfl⟩

/-- A listener that was waited for has ended. -/
theorem ended_of_joined (run : st.run? events = some st') (joined : .touch .joined ∈ events) :
    st'.Ended := by
  obtain ⟨before, after, rfl⟩ := List.append_of_mem joined
  obtain ⟨v, w, _, step, back⟩ := run_split run
  have gone : w.Ended := by
    cases step with
    | touch l _ t step =>
      cases step with
      | joined ended => exact ended
  exact run_invariant (A := fun _ => True) (fun _ step h => (step.ended h).1) back
    (fun _ _ => trivial) gone

/-- A listener that has ended calls no handler. -/
theorem no_calls_of_ended (run : st.run? events = some st') (ended : st.Ended) :
    events.filterMap Event.call? = [] := by
  refine List.filterMap_eq_nil_iff.mpr fun e mem => ?_
  obtain ⟨before, after, rfl⟩ := List.append_of_mem mem
  obtain ⟨v, w, front, step, _⟩ := run_split run
  have still : v.Ended := run_invariant (A := fun _ => True)
    (fun _ step h => (step.ended h).1) front (fun _ _ => trivial) ended
  exact (step.ended still).2

end Station

/-! ## Both stations -/

/-- What happens at the station of a side. -/
def eventsAt (s : Side) (trace : List Happening) : List Station.Event :=
  trace.filterMap fun h => h.event?.bind fun (at_, e) => if at_ = s then some e else none

theorem eventsAt_append (s : Side) (trace more : List Happening) :
    eventsAt s (trace ++ more) = eventsAt s trace ++ eventsAt s more :=
  List.filterMap_append

theorem eventsAt_cons {s : Side} {trace : List Happening} {h : Happening} {e : Station.Event}
    (means : h.event? = some (s, e)) : eventsAt s (h :: trace) = e :: eventsAt s trace := by
  simp [eventsAt, means]

theorem mem_eventsAt {s : Side} {trace : List Happening} {e : Station.Event} :
    e ∈ eventsAt s trace ↔ ∃ h ∈ trace, h.event? = some (s, e) := by
  unfold eventsAt
  rw [List.mem_filterMap]
  refine exists_congr fun h => and_congr_right fun _ => ?_
  rw [Option.bind_eq_some_iff]
  constructor
  · rintro ⟨⟨there, found⟩, same, kept⟩
    by_cases here : there = s
    · cases (if_pos here).symm.trans kept
      rw [same, here]
    · cases (if_neg here).symm.trans kept
  · intro same
    exact ⟨(s, e), same, if_pos rfl⟩

theorem mem_callerExchanges {trace : List Happening} {x : Exchange Start} :
    x ∈ callerExchanges trace ↔ .caller x ∈ trace := by
  unfold callerExchanges
  rw [List.mem_filterMap]
  constructor
  · rintro ⟨h | _, mem, same⟩
    · cases same
      exact mem
    · cases same
  · exact fun mem => ⟨_, mem, rfl⟩

theorem callerExchanges_append (trace more : List Happening) :
    callerExchanges (trace ++ more) = callerExchanges trace ++ callerExchanges more :=
  List.filterMap_append

theorem mem_eventsAt_of_caller {s : Side} {trace : List Happening} {e : Exchange Start}
    {event : Station.Event} (mem : e ∈ callerExchanges trace)
    (means : e.stationEvent? = some (s, event)) : event ∈ eventsAt s trace :=
  mem_eventsAt.mpr ⟨_, mem_callerExchanges.mp mem, means⟩

/-- What happens at a station is done by the caller, or by the chain and its listener. -/
theorem mem_eventsAt_cases {s : Side} {trace : List Happening} {e : Station.Event}
    (mem : e ∈ eventsAt s trace) :
    (∃ x ∈ callerExchanges trace, x.stationEvent? = some (s, e)) ∨
      ∃ a, e = .act a ∧ .station s a ∈ trace := by
  obtain ⟨h, happened, means⟩ := mem_eventsAt.mp mem
  cases h with
  | caller x => exact .inl ⟨x, mem_callerExchanges.mpr happened, means⟩
  | station at_ a =>
    cases means
    exact .inr ⟨a, rfl, happened⟩

theorem mem_eventsAt_act {s : Side} {trace : List Happening} {a : Listener.Event} :
    .act a ∈ eventsAt s trace ↔ .station s a ∈ trace := by
  constructor
  · intro mem
    obtain ⟨x, _, means⟩ | ⟨_, same, happened⟩ := mem_eventsAt_cases mem
    · unfold Exchange.stationEvent? at means
      split at means <;> cases means
    · cases same
      exact happened
  · exact fun mem => mem_eventsAt.mpr ⟨_, mem, rfl⟩

namespace Stations

variable {stations stations' : Stations} {trace : List Happening}

theorem run?_append {first rest : List Happening} :
    run? stations (first ++ rest) = some stations' ↔
      ∃ mid, run? stations first = some mid ∧ run? mid rest = some stations' := by
  induction first generalizing stations with
  | nil => simp [run?]
  | cons h first ih =>
    simp only [List.cons_append, run?, Option.bind_eq_some_iff, ih]
    constructor
    · rintro ⟨v, step, mid, front, back⟩
      exact ⟨mid, ⟨v, step, front⟩, back⟩
    · rintro ⟨mid, ⟨v, step, front⟩, back⟩
      exact ⟨v, step, mid, front, back⟩

/-- A run of both stations is a run of each of them: what happens at one does not concern the
other. -/
theorem run?_get (s : Side) (run : run? stations trace = some stations') :
    (stations.get s).run? (eventsAt s trace) = some (stations'.get s) := by
  induction trace generalizing stations with
  | nil =>
    cases run
    rfl
  | cons h rest ih =>
    obtain ⟨mid, next, run⟩ := Option.bind_eq_some_iff.mp run
    have later := ih run
    unfold next? at next
    cases event : h.event? with
    | none =>
      rw [event] at next
      cases next
      simpa [eventsAt, event] using later
    | some at_ =>
      obtain ⟨s', e⟩ := at_
      rw [event] at next
      obtain ⟨v, moved, rfl⟩ := Option.map_eq_some_iff.mp next
      by_cases here : s' = s
      · subst here
        rw [Pair.get_set_self] at later
        rw [eventsAt_cons event]
        exact Station.run?_cons.mpr ⟨v, moved, later⟩
      · obtain rfl : s = s'.other := by cases s <;> cases s' <;> simp at here ⊢
        rw [Pair.get_set_other] at later
        simpa [eventsAt, event, here] using later

theorem run?_absent (s : Side) (run : run? .initial trace = some stations) :
    Station.absent.run? (eventsAt s trace) = some (stations.get s) := by
  have projected := run?_get s run
  cases s <;> exact projected

end Stations

end ChannelRelay
