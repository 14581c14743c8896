import ChannelRelay.Proofs.Start

/-!
# What the listeners deliver

From the start of a strategy on, the batches that a chain emits are handled in order, up to some
point, whatever the caller, the chains and the two listeners do meanwhile.

* `lifetime_ok`: the parts of a caller's exchanges, if the start succeeds;
* `SignalsFirst`: no listener loses its handle before it was told to stop;
* `run?_excused`: that a handler fails makes no difference to any listener;
* `listeners_deliver`: what is delivered, and when a listener stops.
-/

namespace ChannelRelay

variable {ids : Pair ChainId} {uses : List RelayHandle.Use} {ending : RelayHandle.Ending}
  {t u : List (Exchange Start)} {s : Side} {trace : List Happening} {stations : Stations}

/-! ## The caller -/

/-- The requests by which a handle is used that is kept. -/
def Strategy.Request.IsUse : Strategy.Request → Prop
  | .signal _ | .isStopped _ => True
  | _ => False

namespace RelayHandle

theorem isStopped_asks : isStopped.Asks Strategy.Request.IsUse := by
  refine Dialogue.asks_bind (Dialogue.asks_request trivial) fun src => ?_
  split
  · exact Dialogue.asks_request trivial
  · trivial

theorem use_asks (use : Use) : (RelayHandle.use use).Asks Strategy.Request.IsUse := by
  cases use with
  | shutdown => exact ⟨trivial, fun _ => ⟨trivial, fun _ => trivial⟩⟩
  | isStopped => exact Dialogue.asks_bind isStopped_asks fun _ => trivial

theorem useAndFinish_admits (h : (useAndFinish uses ending).Admits t ()) :
    ∃ used finished, t = used ++ finished ∧ (∀ e ∈ used, e.request.IsUse) ∧
      (finish ending).Admits finished () := by
  induction uses generalizing t with
  | nil => exact ⟨[], t, rfl, by simp, h⟩
  | cons use rest ih =>
    obtain ⟨_, first, _, rfl, here, later⟩ := Dialogue.admits_bind.mp h
    obtain ⟨used, finished, rfl, uses, finishes⟩ := ih later
    refine ⟨first ++ used, finished, (List.append_assoc ..).symm, fun e mem => ?_, finishes⟩
    obtain mem | mem := List.mem_append.mp mem
    · exact (use_asks use).of_admits here e mem
    · exact uses e mem

theorem finish_joins (h : (finish ending).Admits t ()) (s : Side) : ⟨.join s, ()⟩ ∈ t := by
  cases ending with
  | shutdownAndWait =>
    obtain rfl := shutdownAndWait_admits.mp h
    cases s <;> simp [Strategy.operate, Task.HandleOp.events, Exchange.ofTouch]
  | drop =>
    obtain rfl := drop_admits.mp h
    cases s <;> simp [Strategy.operate, Task.HandleOp.events, Exchange.ofTouch]

end RelayHandle

namespace Strategy

theorem lifetime_ok {done : Unit} (h : (lifetime ids uses ending).run.Admits t (.ok done)) :
    ∃ begun used finished, t = begun ++ (used ++ finished) ∧
      (start ids).run.Admits begun (.ok ()) ∧ (∀ e ∈ used, e.request.IsUse) ∧
      (RelayHandle.finish ending).Admits finished () := by
  obtain ⟨_, same, _⟩ | ⟨_, begun, _, rfl, started, h⟩ := Dialogue.admits_exceptBind.mp h
  · cases same
  obtain ⟨_, _, later⟩ := Dialogue.admits_exceptLift.mp h
  obtain ⟨used, finished, rfl, uses, finishes⟩ := RelayHandle.useAndFinish_admits later
  exact ⟨begun, used, finished, rfl, started, uses, finishes⟩

/-- A listener is signalled before the means to signal it are given up. -/
def SignalsFirst (s : Side) (t : List (Exchange Start)) : Prop :=
  ∀ front, front <+: t → ⟨.release s, ()⟩ ∈ front → ⟨.signal s, ()⟩ ∈ front

theorem SignalsFirst.append (first : SignalsFirst s t) (rest : SignalsFirst s u) :
    SignalsFirst s (t ++ u) := by
  rintro front ⟨later, split⟩ released
  obtain ⟨more, rfl, _⟩ | ⟨more, rfl, inside⟩ := List.append_eq_append_iff.mp split
  · exact first front ⟨more, rfl⟩ released
  · obtain released | released := List.mem_append.mp released
    · exact List.mem_append_left _ (first t List.prefix_rfl released)
    · exact List.mem_append_right _ (rest more ⟨later, inside.symm⟩ released)

theorem signalsFirst_of_kept (kept : ∀ e ∈ t, e.request ≠ .release s) : SignalsFirst s t :=
  fun _ front released => absurd rfl (kept _ (front.subset released))

theorem signalsFirst_operate {op : Task.HandleOp} {rest : List Task.HandleEvent}
    (first : op.events = .signal :: rest) (s' : Side) : SignalsFirst s (operate op s') := by
  by_cases same : s' = s
  · subst same
    rintro front ⟨later, split⟩ released
    rw [operate, first] at split
    cases front with
    | nil => cases released
    | cons x front =>
      obtain ⟨rfl, _⟩ := List.cons.inj split
      exact List.mem_cons_self
  · refine signalsFirst_of_kept fun e mem released => same ?_
    obtain ⟨event, _, rfl⟩ := List.mem_map.mp mem
    cases event <;> cases released
    rfl

theorem signalsFirst_finish (h : (RelayHandle.finish ending).Admits t ()) :
    SignalsFirst s t := by
  cases ending with
  | shutdownAndWait =>
    obtain rfl := RelayHandle.shutdownAndWait_admits.mp h
    exact (signalsFirst_operate rfl _).append (signalsFirst_operate rfl _)
  | drop =>
    obtain rfl := RelayHandle.drop_admits.mp h
    exact ((signalsFirst_operate rfl _).append (signalsFirst_operate rfl _)).append
      ((signalsFirst_operate rfl _).append (signalsFirst_operate rfl _))

theorem signalsFirst_lifetime {done : Unit}
    (h : (lifetime ids uses ending).run.Admits t (.ok done)) (s : Side) : SignalsFirst s t := by
  obtain ⟨begun, used, finished, rfl, started, uses, finishes⟩ := lifetime_ok h
  have starting : SignalsFirst s begun :=
    signalsFirst_of_kept fun e mem => (((start_course started).kept s).2 e mem).2
  have using_ : SignalsFirst s used := signalsFirst_of_kept fun e mem released => by
    have := uses e mem
    rw [released] at this
    exact this
  exact starting.append (using_.append (signalsFirst_finish finishes))

theorem finish_touches (h : (RelayHandle.finish ending).Admits t ()) :
    ∀ e ∈ t, ∃ s touch, e = Exchange.ofTouch s touch := by
  have one (op : Task.HandleOp) (s : Side) :
      ∀ e ∈ operate op s, ∃ s touch, e = .ofTouch s touch := by
    intro e mem
    obtain ⟨touch, _, rfl⟩ := List.mem_map.mp mem
    exact ⟨s, touch, rfl⟩
  cases ending with
  | shutdownAndWait =>
    obtain rfl := RelayHandle.shutdownAndWait_admits.mp h
    exact List.forall_mem_append.mpr ⟨one _ _, one _ _⟩
  | drop =>
    obtain rfl := RelayHandle.drop_admits.mp h
    simp only [List.forall_mem_append]
    exact ⟨⟨one _ _, one _ _⟩, one _ _, one _ _⟩

theorem wired_lifetime {done : Unit} (h : (lifetime ids uses ending).run.Admits t (.ok done)) :
    ∀ e ∈ t, e.request.IsWired := by
  obtain ⟨begun, used, finished, rfl, started, uses, finishes⟩ := lifetime_ok h
  simp only [List.forall_mem_append]
  refine ⟨(start_wired ids).of_admits started, fun e mem => ?_, fun e mem => ?_⟩
  · have used := uses e mem
    cases request : e.request <;> rw [request] at used
    all_goals first | exact used.elim | trivial
  · obtain ⟨s, touch, rfl⟩ := finish_touches finishes e mem
    cases touch <;> trivial

end Strategy

/-! ## The stations -/

/-- What happens, but for the failure of a handler. -/
def Happening.excused : Happening → Happening
  | station s (.handled _) => station s (.handled true)
  | h => h

theorem Listener.next?_handled (l : Listener) (succeeded : Bool) :
    l.next? (.handled succeeded) = l.next? (.handled true) := by
  cases succeeded with
  | true => rfl
  | false => simp [next?, finish?, Task.advance?, StepOutcome.isFinal]

theorem Stations.next?_excused (stations : Stations) (h : Happening) :
    stations.next? h.excused = stations.next? h := by
  cases h with
  | caller => rfl
  | station s e =>
    cases e with
    | handled succeeded =>
      have same (st : Station) :
          st.next? (.act (.handled true)) = st.next? (.act (.handled succeeded)) := by
        cases st with
        | absent | subscribed => rfl
        | listening l => exact congrArg (Option.map _) (l.next?_handled succeeded).symm
      simp only [Happening.excused, next?, Happening.event?, same]
    | emit | close | handle | timeout | disconnect | task => rfl

/-- No listener goes another way because a handler fails. -/
theorem Stations.run?_excused (stations : Stations) (trace : List Happening) :
    stations.run? (trace.map Happening.excused) = stations.run? trace := by
  induction trace generalizing stations with
  | nil => rfl
  | cons h rest ih =>
    simp only [List.map_cons, run?, next?_excused]
    exact Option.bind_congr fun mid _ => ih mid

/-- The batches that the chain emits. -/
def emitted (s : Side) (trace : List Happening) : List EventBatch :=
  (eventsAt s trace).filterMap Station.Event.emitted?

/-- The calls of the handler by the listener on the chain. -/
def handlerCalls (s : Side) (trace : List Happening) : List HandlerCall :=
  (eventsAt s trace).filterMap Station.Event.call?

/-- The listeners that the caller starts are on the two chains of the path. -/
def Wired (trace : List Happening) : Prop := ∀ e ∈ callerExchanges trace, e.request.IsWired

theorem Wired.isFor (wired : Wired trace) (s : Side) : ∀ e ∈ eventsAt s trace, e.IsFor s := by
  intro e mem
  obtain ⟨x, asked, means⟩ | ⟨_, rfl, _⟩ := mem_eventsAt_cases mem
  · cases e with
    | listen chain counterparty =>
      obtain rfl := Exchange.eq_of_stationEvent?_listen means
      have same : counterparty = s.other := wired _ asked
      cases means
      exact ⟨rfl, same⟩
    | subscribe | touch | act => trivial
  · trivial

/-- What the chain emits is handled in order, but for what is still to be taken. -/
theorem handlerCalls_eq (wired : Wired trace)
    (run : Stations.run? .initial trace = some stations) (s : Side) :
    ∃ taken, handlerCalls s trace = taken.map (HandlerCall.mk s s.other) ∧
      emitted s trace = taken ++ (stations.get s).pending := by
  have runAt := Stations.run?_absent s run
  refine ⟨(handlerCalls s trace).map HandlerCall.batch, ?_, Station.pending_run runAt⟩
  have calls := Station.calls_run runAt trivial (wired.isFor s)
  rw [List.map_map]
  refine (List.map_id _).symm.trans (List.map_congr_left fun call mem => ?_)
  obtain ⟨ours, theirs⟩ := calls call mem
  rw [Function.comp_apply, ← theirs, ← ours, id]

/-- When a listener finds itself disconnected, it has had everything handled that its chain has
emitted. -/
theorem drained_of_disconnect {before after : List Happening} (wired : Wired before)
    (run : Stations.run? .initial (before ++ .station s .disconnect :: after) = some stations) :
    handlerCalls s before = (emitted s before).map (HandlerCall.mk s s.other) := by
  obtain ⟨mid, front, back⟩ := Stations.run?_append.mp run
  obtain ⟨taken, calls, all⟩ := handlerCalls_eq wired front s
  have backAt := Stations.run?_get s back
  rw [eventsAt_cons rfl] at backAt
  obtain ⟨w, next, _⟩ := Station.run?_cons.mp backAt
  rw [calls, all, (Station.step_of_next? next).drained, List.append_nil]

/-! ## Every run -/

/-- What is promised of a strategy that was started, while its caller uses the handle and until
it has finished with it. -/
structure Delivery (ids : Pair ChainId) (uses : List RelayHandle.Use)
    (ending : RelayHandle.Ending) (trace : List Happening) (stations : Stations) : Prop where
  /-- The batches are handled in order and each once, for the chain that they come from. -/
  inOrder : ∀ s, ∃ taken, taken <+: emitted s trace ∧
    handlerCalls s trace = taken.map (HandlerCall.mk s s.other)
  /-- The listeners go on as if no handler had failed. -/
  excused : Stations.run? .initial (trace.map Happening.excused) = some stations
  /-- Nothing stops a listener but its shutdown, and that it is disconnected itself. -/
  stops : ∀ s, ¬ (stations.get s).Looping →
    .caller ⟨.signal s, ()⟩ ∈ trace ∨ .station s .disconnect ∈ trace
  drained : ∀ s before after, trace = before ++ .station s .disconnect :: after →
    handlerCalls s before = (emitted s before).map (HandlerCall.mk s s.other)
  finished : ∀ before after, trace = before ++ after →
    (Strategy.lifetime ids uses ending).run.Admits (callerExchanges before) (.ok ()) →
    ∀ s, handlerCalls s after = [] ∧ (stations.get s).Ended

/-- **Delivery.** After a start that succeeds, or that may still do so, the batches that a chain
emits are handled in order up to some point. A listener stops only when it is told to or when it
has handled everything that there will ever be. None is left once the handle is gone. -/
theorem listeners_deliver {rest : List (Exchange Start)}
    (admitted : (Strategy.lifetime ids uses ending).run.Admits (callerExchanges trace ++ rest)
      (.ok ()))
    (run : Stations.run? .initial trace = some stations) :
    Delivery ids uses ending trace stations := by
  have wired : Wired trace := fun e mem =>
    Strategy.wired_lifetime admitted e (List.mem_append_left _ mem)
  refine {
    inOrder := fun s => ?_
    excused := (Stations.run?_excused .initial trace).trans run
    stops := fun s stopped => ?_
    drained := ?_
    finished := ?_ }
  · obtain ⟨taken, calls, all⟩ := handlerCalls_eq wired run s
    exact ⟨taken, ⟨_, all.symm⟩, calls⟩
  · by_cases told : .caller ⟨.signal s, ()⟩ ∈ trace
    · exact .inl told
    by_cases cut : .station s .disconnect ∈ trace
    · exact .inr cut
    refine absurd (Station.looping_run (Stations.run?_absent s run) ?_ ?_ trivial trivial) stopped
    · intro e mem tells
      obtain ⟨x, asked, means⟩ | ⟨_, rfl, _⟩ := mem_eventsAt_cases mem
      · obtain rfl | rfl := Exchange.eq_of_tells means tells
        · exact told (mem_callerExchanges.mp asked)
        · have signalled := Strategy.signalsFirst_lifetime admitted s _ ⟨rest, rfl⟩ asked
          exact told (mem_callerExchanges.mp signalled)
      · exact tells.elim
    · exact fun mem => cut (mem_eventsAt_act.mp mem)
  · rintro s before after rfl
    have earlier : Wired before := fun e mem =>
      wired e (callerExchanges_append before _ ▸ List.mem_append_left _ mem)
    exact drained_of_disconnect earlier run
  · rintro before after rfl complete s
    obtain ⟨mid, front, back⟩ := Stations.run?_append.mp run
    obtain ⟨_, _, finished, same, _, _, finishes⟩ := Strategy.lifetime_ok complete
    have joined : ⟨.join s, ()⟩ ∈ callerExchanges before := by
      rw [same]
      exact List.mem_append_right _ (List.mem_append_right _
        (RelayHandle.finish_joins finishes s))
    have event : .touch .joined ∈ eventsAt s before := mem_eventsAt_of_caller joined rfl
    constructor
    · exact Station.no_calls_of_ended (Stations.run?_get s back)
        (Station.ended_of_joined (Stations.run?_absent s front) event)
    · refine Station.ended_of_joined (Stations.run?_absent s run) ?_
      rw [eventsAt_append]
      exact List.mem_append_left _ event

/-- The handler fails once, one listener is disconnected, and a last batch comes too late for the
other. It is the one that is not handled. -/
theorem listeners_deliver_two_of_three :
    let ids : Pair ChainId := ⟨⟨"ibc-0", 0⟩, ⟨"ibc-1", 1⟩⟩
    let header : Header := ⟨⟨0, 7⟩, ⟨"/header", []⟩⟩
    let cache := (HeaderCache.empty.insert ids.src header).insert ids.dst header
    let batch (n : UInt64) : EventBatch := ⟨ids.src, ⟨0, n⟩, []⟩
    let task (s : Side) (e : Task.ThreadEvent) : Happening := .station s (.task e)
    let begun : List Happening :=
      [.caller ⟨.chain .src .latestHeader, .ok header⟩,
        .caller ⟨.chain .dst .latestHeader, .ok header⟩, .caller ⟨.share cache, ()⟩,
        .caller ⟨.chain .src .subscribe, .ok ()⟩, .station .src (.emit (batch 8)),
        .caller ⟨.listen .src .dst, ()⟩, task .src .poll, task .src .enter,
        .station .src (.handle ⟨.src, .dst, batch 8⟩),
        .caller ⟨.chain .dst .subscribe, .ok ()⟩, .caller ⟨.listen .dst .src, ()⟩,
        task .dst .poll, task .dst .enter, .station .dst .close, .station .dst .disconnect,
        .caller ⟨.pending .packets, .ok ⟨[], []⟩⟩, .caller ⟨.relay .packets ⟨[], []⟩, .ok ()⟩,
        .station .src (.handled false), task .dst .stop,
        .caller ⟨.pending .acknowledgements, .ok ⟨[], []⟩⟩,
        .caller ⟨.relay .acknowledgements ⟨[], []⟩, .ok ()⟩]
    let trace : List Happening := begun ++
      [.station .src (.emit (batch 9)), task .src .poll, task .src .enter,
        .station .src (.handle ⟨.src, .dst, batch 9⟩), .station .src (.handled true),
        task .src .poll, task .src .enter, .caller ⟨.isStopped .src, false⟩,
        .caller ⟨.signal .src, ()⟩, .station .src (.emit (batch 10)), .station .src .timeout,
        task .src .poll, task .src .stop, task .src .exit, .caller ⟨.join .src, ()⟩,
        .caller ⟨.signal .src, ()⟩, .caller ⟨.release .src, ()⟩, task .dst .exit,
        .caller ⟨.signal .dst, ()⟩, .caller ⟨.join .dst, ()⟩, .caller ⟨.signal .dst, ()⟩,
        .caller ⟨.release .dst, ()⟩]
    emitted .src trace = [batch 8, batch 9, batch 10] ∧
      handlerCalls .src trace = [⟨.src, .dst, batch 8⟩, ⟨.src, .dst, batch 9⟩] ∧
      ∃ stations, Delivery ids [.isStopped] .shutdownAndWait trace stations := by
  intro ids header cache batch task begun trace
  obtain ⟨stations, run⟩ := Option.isSome_iff_exists.mp
    (show (Stations.run? .initial trace).isSome by decide)
  have admitted : (Strategy.lifetime ids [.isStopped] .shutdownAndWait).run.Admits
      (callerExchanges trace ++ []) (.ok ()) :=
    ⟨_, _, rfl, _, _, rfl, _, _, rfl, _, _, rfl, _, _, rfl, _, _, rfl, _, _, rfl, _, _, rfl,
      _, _, rfl, _, _, rfl, _, _, rfl, _, _, rfl, _, _, rfl, _, _, rfl, _, _, rfl, _, _, rfl,
      _, _, rfl, _, _, rfl, _, _, rfl, _, _, rfl, rfl, rfl⟩
  exact ⟨rfl, rfl, stations, listeners_deliver admitted run⟩

end ChannelRelay
