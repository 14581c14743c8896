import ChannelRelay.Proofs.Height
import ChannelRelay.Proofs.HeaderSeek
import ChannelRelay.Proofs.Handshake.Progress
import ChannelRelay.Simulation.Chain

/-!
# Headers that bring a client up to date

The headers that a chain returns for a client are passed on as they are, if their heights
increase. Nothing else is asked of them: they need not begin above the height that the client
trusts, nor lead to the latest header, and there need not be any.

* `firstDescent?_eq_none`: no two neighbours descend just if all heights increase;
* `CatchesUp`: what headers are to do for a client;
* `catchesUp_iff`: increasing headers do it if the first and the last one are where they must be;
* `headersFor_found`: what is known of the headers found for a client.
-/

namespace ChannelRelay

open Handshake (Increasing firstDescent?_of_increasing)

variable {headers : List Header} {trusted target : Height}

theorem increasing_of_firstDescent? (h : HeaderCache.firstDescent? headers = none) :
    Increasing headers := by
  induction headers with
  | nil => exact List.Pairwise.nil
  | cons a rest ih =>
    cases rest with
    | nil => exact List.pairwise_singleton _ _
    | cons b rest =>
      rw [HeaderCache.firstDescent?] at h
      split at h
      · cases h
      · rename_i ascent
        have later := ih h
        have above : a.height < b.height := Height.not_le_iff.mp ascent
        refine List.pairwise_cons.mpr ⟨List.forall_mem_cons.mpr ⟨above, ?_⟩, later⟩
        exact fun c mem => Height.lt_trans above ((List.pairwise_cons.mp later).1 c mem)

theorem firstDescent?_eq_none : HeaderCache.firstDescent? headers = none ↔ Increasing headers :=
  ⟨increasing_of_firstDescent?, firstDescent?_of_increasing⟩

/-- The headers take a client step by step from `trusted` to `target`, or beyond. -/
structure CatchesUp (trusted target : Height) (headers : List Header) : Prop where
  increasing : Increasing headers
  above : ∀ h ∈ headers, trusted < h.height
  arrives : ∃ last, headers.getLast? = some last ∧ target ≤ last.height

/-- Increasing headers are all above what the first one is above. -/
theorem catchesUp_iff (increasing : Increasing headers) :
    CatchesUp trusted target headers ↔
      (∃ first, headers.head? = some first ∧ trusted < first.height) ∧
      ∃ last, headers.getLast? = some last ∧ target ≤ last.height := by
  constructor
  · rintro ⟨_, above, last, isLast, arrives⟩
    refine ⟨?_, last, isLast, arrives⟩
    cases headers with
    | nil => cases isLast
    | cons first rest => exact ⟨first, rfl, above first List.mem_cons_self⟩
  · rintro ⟨⟨first, isFirst, begins⟩, arrives⟩
    refine ⟨increasing, ?_, arrives⟩
    cases headers with
    | nil => cases isFirst
    | cons _ rest =>
      cases isFirst
      have later := (List.pairwise_cons.mp increasing).1
      exact List.forall_mem_cons.mpr
        ⟨begins, fun h mem => Height.lt_trans begins (later h mem)⟩

namespace HeaderCache

variable {cache : HeaderCache} {ids : Pair ChainId} {s : Side} {t : List (Exchange Chains)}

theorem get?_of_queryContext {id : ChainId} {context : QueryContext}
    (h : cache.queryContext id = .ok context) : ∃ header, cache.get? id = some header := by
  unfold HeaderCache.queryContext at h
  cases found : cache.latestHeader id with
  | ok header => exact ⟨header, latestHeader_eq_ok.mp found⟩
  | error e =>
    rw [found] at h
    cases h

/-- Headers are found only if there are latest headers of both chains. -/
theorem holds_of_headersFor (run : (cache.headersFor ids s).run.Admits t (.ok headers)) :
    ∃ latest, cache.Holds ids latest := by
  unfold HeaderCache.headersFor at run
  obtain ⟨_, same, _⟩ | ⟨mine, _, _, _, ⟨_, target⟩, afterTarget⟩ := Relay.admits_bind.mp run
  · cases same
  obtain ⟨_, same, _⟩ | ⟨_, _, _, _, ⟨_, context⟩, _⟩ := Relay.admits_bind.mp afterTarget
  · cases same
  have here := latestHeader_eq_ok.mp target.symm
  obtain ⟨theirs, there⟩ := get?_of_queryContext context.symm
  cases s with
  | src => exact ⟨⟨mine, theirs⟩, fun s => by cases s <;> assumption⟩
  | dst => exact ⟨⟨theirs, mine⟩, fun s => by cases s <;> assumption⟩

/-- Headers are found between chains of which the latest headers are known, and as they are sought
there. -/
theorem headersFor_ok_iff : (cache.headersFor ids s).run.Admits t (.ok headers) ↔
    ∃ latest, cache.Holds ids latest ∧ Sought ids latest s t (.ok headers) := by
  constructor
  · intro run
    obtain ⟨latest, holds⟩ := holds_of_headersFor run
    rw [holds.headersFor s] at run
    exact ⟨latest, holds, missingHeaders_admits.mp run⟩
  · rintro ⟨latest, holds, sought⟩
    rw [holds.headersFor s]
    exact missingHeaders_admits.mpr sought

/-- **Headers for a client.** The client needs none, or it is behind and the chain has returned
them in increasing order. They bring it up to date if the first and the last one do. -/
theorem headersFor_found (run : (cache.headersFor ids s).run.Admits t (.ok headers)) :
    ∃ latest trusted, cache.Holds ids latest ∧
      (((latest.get s).height ≤ trusted ∧ headers = [] ∧
          t = [⟨(s.other, .clientHeight (latest.get s.other).height), .ok trusted⟩]) ∨
        (trusted < (latest.get s).height ∧ Increasing headers ∧
          t = [⟨(s.other, .clientHeight (latest.get s.other).height), .ok trusted⟩,
            ⟨(s, .headersForUpdate trusted (latest.get s)), .ok headers⟩] ∧
          (CatchesUp trusted (latest.get s).height headers ↔
            (∃ first, headers.head? = some first ∧ trusted < first.height) ∧
            ∃ last, headers.getLast? = some last ∧ (latest.get s).height ≤ last.height))) := by
  obtain ⟨latest, holds, sought⟩ := headersFor_ok_iff.mp run
  cases sought with
  | upToDate trusted caughtUp => exact ⟨latest, trusted, holds, .inl ⟨caughtUp, rfl, rfl⟩⟩
  | built trusted behind _ ascending =>
    have increasing := firstDescent?_eq_none.mp ascending
    exact ⟨latest, trusted, holds, .inr ⟨Height.not_le_iff.mp behind, increasing, rfl,
      catchesUp_iff increasing⟩⟩

/-- A client five heights behind is brought up to date in two steps. -/
theorem headersFor_found_in_two_steps :
    let ids : Pair ChainId := ⟨.ofString "ibc-0", .ofString "ibc-1"⟩
    let header (n : UInt64) : Header := Simulation.ScriptedChain.header ⟨0, n⟩
    let cache := HeaderCache.empty.refreshed ids ⟨header 10, header 10⟩
    let t : List (Exchange Chains) := [⟨(.dst, .clientHeight (header 10).height), .ok ⟨0, 5⟩⟩,
      ⟨(.src, .headersForUpdate ⟨0, 5⟩ (header 10)), .ok [header 8, header 10]⟩]
    (cache.headersFor ids .src).run.Admits t (.ok [header 8, header 10]) ∧
      CatchesUp ⟨0, 5⟩ (header 10).height [header 8, header 10] := by
  intro ids header cache t
  have known : cache.Holds ids ⟨header 10, header 10⟩ :=
    holds_refreshed (by decide) .empty ⟨header 10, header 10⟩
  have run : (cache.headersFor ids .src).run.Admits t (.ok [header 8, header 10]) :=
    headersFor_ok_iff.mpr ⟨_, known, .built ⟨0, 5⟩ (by decide) _ (by decide)⟩
  refine ⟨run, ?_⟩
  obtain ⟨latest, trusted, _, ⟨_, none, _⟩ | ⟨_, _, same, catchesUp⟩⟩ := headersFor_found run
  · cases none
  · simp only [t, List.cons.injEq, Exchange.mk.injEq, Prod.mk.injEq,
      ChainCall.headersForUpdate.injEq] at same
    obtain ⟨_, ⟨⟨_, trusts, target⟩, _⟩, _⟩ := same
    rw [← trusts, ← target] at catchesUp
    exact catchesUp.mpr ⟨⟨header 8, rfl, by decide⟩, header 10, rfl, by decide⟩

/-- A client five heights behind. Whatever increases is passed on: no headers, ones that stop short,
and ones that begin below the height that the client trusts. -/
theorem headersFor_leaves_behind :
    let ids : Pair ChainId := ⟨.ofString "ibc-0", .ofString "ibc-1"⟩
    let header (n : UInt64) : Header := Simulation.ScriptedChain.header ⟨0, n⟩
    let cache := HeaderCache.empty.refreshed ids ⟨header 10, header 10⟩
    ∀ reply ∈ [[], [header 7], [header 3, header 10]],
      (cache.headersFor ids .src).run.Admits [⟨(.dst, .clientHeight (header 10).height), .ok ⟨0, 5⟩⟩,
        ⟨(.src, .headersForUpdate ⟨0, 5⟩ (header 10)), .ok reply⟩] (.ok reply) ∧
      ¬ (header 10).height ≤ ⟨0, 5⟩ ∧ ¬ CatchesUp ⟨0, 5⟩ (header 10).height reply := by
  intro ids header cache reply mem
  have known : cache.Holds ids ⟨header 10, header 10⟩ :=
    holds_refreshed (by decide) .empty ⟨header 10, header 10⟩
  have increasing : HeaderCache.firstDescent? reply = none := by
    revert mem reply
    decide
  refine ⟨headersFor_ok_iff.mpr ⟨_, known, .built ⟨0, 5⟩ (by decide) reply increasing⟩,
    by decide, fun catchesUp => ?_⟩
  simp only [List.mem_cons, List.not_mem_nil, or_false] at mem
  obtain rfl | rfl | rfl := mem
  · obtain ⟨_, last, _⟩ := catchesUp.arrives
    cases last
  · obtain ⟨_, last, arrives⟩ := catchesUp.arrives
    cases last
    exact absurd arrives (by decide)
  · exact absurd (catchesUp.above _ List.mem_cons_self) (by decide)

end HeaderCache

end ChannelRelay
