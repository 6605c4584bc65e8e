import ScriptBridge.Proofs.Async.Lifecycle
import ScriptBridge.Proofs.Export.Operation
import ScriptBridge.Proofs.Export.Run

/-!
# The bridges of a thread

A thread may have one bridge after the other: a call that sets one up drops the bridge before it.
`Thread.Story` is a run of a thread with all the bridges that it has had, and with what was done on
each of them (`Generation`).

* `Thread.Story.describes` : every bridge of a thread has come about **as its host could have made
  it do by operations**, from its own creation on.
* `Thread.callbacks_keep_to_their_bridge` : what a callback reports is what it has done to the call
  with this number **of the bridge that there is**, and a number that this bridge has not given to a
  call ends nothing.

Numbers of calls are given out by each bridge from one on, so a number that an earlier bridge has
given to a call may come to be that of another one (`Thread.earlier_number_settles`).
-/

namespace ScriptBridge

open Script
open Bridge (Operation)

namespace Bridge

variable {c : BridgeConfig} {events events' : List Event} {b b' : Bridge} {id : Nat}

/-- Where no call was started and none has ended, each is where it was. -/
theorem Books.phase_eq (h : Books events b) (h' : Books events' b')
    (hsettled : settledCalls events' = settledCalls events)
    (hnumbers : b'.ledger.numbers = b.ledger.numbers) :
    phase events' b' id = phase events b id := by
  simp only [phase, hsettled, h.mem_requests, h'.mem_requests, hnumbers]

theorem Books.phase_takeDispatched (h : Books events b) :
    phase (events ++ [⟨.takeDispatched, (b.step .takeDispatched).1⟩])
      (b.step .takeDispatched).2 id = phase events b id := by
  refine h.phase_eq (h.step .takeDispatched).1 ?_ rfl
  rw [settledCalls_concat]
  exact List.append_nil _

end Bridge

/-! ### Generations -/

/-- A bridge that a thread has set up, with what was done on it since. -/
structure Generation where
  events : List Bridge.Event
  bridge : Bridge

namespace Generation

variable {g : Generation}

/-- The bridge was created, and then this has happened. -/
def Lived (g : Generation) : Prop := ∃ c, Bridge.Run c g.events g.bridge

/-- After further operations. -/
def after (g : Generation) (ops : List Operation) : Generation :=
  ⟨g.events ++ g.bridge.history ops, g.bridge.after ops⟩

/-- The numbers that the bridge has given to async calls. -/
def issued (g : Generation) : List Nat := (Bridge.requests g.events g.bridge).map (·.id)

/-- How far a call of the bridge has come. -/
def phase (g : Generation) (id : Nat) : Bridge.Phase := Bridge.phase g.events g.bridge id

theorem after_append (g : Generation) (ops ops' : List Operation) :
    g.after (ops ++ ops') = (g.after ops).after ops' := by
  simp only [after, Bridge.history_append, Bridge.after_append, List.append_assoc]

theorem Lived.after (h : g.Lived) (ops : List Operation) : (g.after ops).Lived := by
  obtain ⟨c, run⟩ := h
  exact ⟨c, run.goes_on ops⟩

theorem Lived.books (h : g.Lived) : Bridge.Books g.events g.bridge := by
  obtain ⟨c, run⟩ := h
  exact run.books

/-- The numbers of calls are 1, 2, 3, … -/
theorem Lived.issued_perm (h : g.Lived) : g.issued.Perm (List.range' 1 g.issued.length) := by
  rw [issued, List.length_map]
  exact h.books.lifecycle.numbered

theorem Lived.mem_issued {id : Nat} (h : g.Lived) : id ∈ g.issued ↔ id ∈ g.bridge.ledger.numbers :=
  h.books.mem_requests

theorem Lived.phase_eq_unissued {id : Nat} (h : g.Lived) : g.phase id = .unissued ↔ id ∉ g.issued :=
  h.books.phase_eq_unissued.trans (not_congr h.mem_issued.symm)

/-- Taking requests leaves every call where it is. -/
theorem Lived.phase_takeDispatched (h : g.Lived) (id : Nat) :
    (g.after [.takeDispatched]).phase id = g.phase id := h.books.phase_takeDispatched

/-! ### Callbacks -/

open ExportCall (conversion ending)

/-- No script runs where the outcome of a call is null. -/
theorem afterOutcome_null (b : Bridge) : b.afterOutcome (.resolveJson .null) = b := by
  have hrequire : (exec (BridgeM.require (Exchange.ofJson .null)) b).2 = b := by
    cases hb : b.isHalted with
    | true => rw [BridgeM.exec_require, hb, if_pos rfl]
    | false =>
      have hdone : Exchange.ofJson .null b.world = .done .null b.world := by
        rw [Exchange.ofJson]
        rfl
      rw [BridgeM.exec_require_of_done hb hdone]
  rw [Bridge.afterOutcome, BridgeM.outcomeValue, exec_bind]
  rcases hr : exec (BridgeM.require (Exchange.ofJson .null)) b with ⟨e | v, b'⟩
  all_goals
    rw [hr] at hrequire
    exact hrequire

/-- Nor does any where a callback makes the outcome of a call. -/
theorem afterOutcome_of_callbackOutcome {value : Handle} {rejected : Bool} {b : Bridge}
    {o : CallOutcome} (ho : (exec (Thread.callbackOutcome value rejected) b).1 = .ok o)
    (b₁ : Bridge) : b₁.afterOutcome o = b₁ := by
  unfold Thread.callbackOutcome at ho
  cases rejected with
  | false =>
    cases hnull : value.isNull with
    | true =>
      rw [hnull] at ho
      cases ho
      exact afterOutcome_null b₁
    | false =>
      rw [hnull] at ho
      cases ho
      exact Bridge.afterOutcome_eq nofun
  | true =>
    have hreject : ∃ message, o = .reject message := by
      cases hnull : value.isNull with
      | true =>
        rw [hnull] at ho
        cases ho
        exact ⟨_, rfl⟩
      | false =>
        rw [hnull] at ho
        simp only [if_true, Bool.false_eq_true, if_false, exec_bind] at ho
        rcases hr : exec (BridgeM.getString value) b with ⟨e | s, b'⟩
        · rw [hr] at ho
          cases ho
        · rw [hr] at ho
          cases ho
          exact ⟨s, rfl⟩
    obtain ⟨message, rfl⟩ := hreject
    exact Bridge.afterOutcome_eq nofun

/-- A callback that yields something has tried to end the call with an outcome that no script had a
part in. -/
theorem ending_of_ended {id : Nat} {value : Handle} {rejected : Bool} {b : Bridge} {e : CallEnd}
    (he : (exec (do BridgeM.completeCall id (← Thread.callbackOutcome value rejected)) b).1 =
      .ok e) :
    ∃ o, ending id value rejected b = [.completeCall id o] ∧
      (exec (BridgeM.completeCall id o) (b.after (conversion value rejected))).1 = .ok e ∧
      ∀ b₁ : Bridge, b₁.afterOutcome o = b₁ := by
  rw [ExportCall.exec_endCall] at he
  rw [ending]
  cases ho : (exec (Thread.callbackOutcome value rejected) b).1 with
  | error e' =>
    rw [ho] at he
    cases he
  | ok o =>
    rw [ho] at he
    exact ⟨o, rfl, he, afterOutcome_of_callbackOutcome ho⟩

theorem after_completeCall {id : Nat} {o : CallOutcome} {e : CallEnd}
    (he : (exec (BridgeM.completeCall id o) g.bridge).1 = .ok e) :
    g.after [.completeCall id o] = ⟨g.events ++ [⟨.completeCall id o, .ok (.ended e)⟩],
      (exec (BridgeM.completeCall id o) g.bridge).2⟩ := by
  change Generation.mk (g.events ++ [⟨_, (g.bridge.step (.completeCall id o)).1⟩])
    (g.bridge.step (.completeCall id o)).2 = _
  rw [Bridge.step_completeCall, he]
  rfl

/-- What a callback does to the calls of the bridge: `before` is when it looks its call up. -/
structure EndsCall (before after : Generation) (id : Nat) (e : CallEnd) : Prop where
  /-- What it yields tells where the call was, and where it is now. -/
  tells : Bridge.Tells (.ok (.ended e)) (before.phase id) (after.phase id)
  /-- If it has ended nothing, all calls are where they were. -/
  unchanged : e = .alreadySettled ∨ e = .unknown → ∀ i, after.phase i = before.phase i

/-- **What ending a call yields tells where the call was and is.** -/
theorem Lived.ends_completeCall (hg : g.Lived) {id : Nat} {o : CallOutcome} {e : CallEnd}
    (he : (exec (BridgeM.completeCall id o) g.bridge).1 = .ok e)
    (hmade : g.bridge.afterOutcome o = g.bridge) :
    EndsCall g (g.after [.completeCall id o]) id e := by
  rw [after_completeCall he]
  constructor
  · have htells := (Bridge.Books.ends_completeCall id o hg.books hmade).2.2
    rw [he] at htells
    exact htells
  · intro hnot i
    have hsame : (exec (BridgeM.completeCall id o) g.bridge).2 = g.bridge := by
      obtain ⟨e', hr, -⟩ | ⟨e', -, -, hb⟩ | ⟨cap, l, -, hend⟩ := Bridge.ends_completeCall id o hmade
      · rw [he] at hr
        cases hr
      · exact hb
      · rw [he] at hend
        obtain ⟨⟨⟨⟩⟩ | ⟨⟨⟩⟩, -⟩ | ⟨e', l', ⟨⟩, -⟩ := hend
        all_goals obtain ⟨⟨⟩⟩ | ⟨⟨⟩⟩ := hnot
    rw [hsame]
    obtain rfl | rfl := hnot
    all_goals exact Bridge.phase_concat_of_none rfl rfl

/-- So it is for a callback, whatever runs where it reads its value. -/
theorem Lived.ends (hg : g.Lived) {id : Nat} {value : Handle} {rejected : Bool} {e : CallEnd}
    (he : (exec (do BridgeM.completeCall id (← Thread.callbackOutcome value rejected)) g.bridge).1 =
      .ok e) : EndsCall (g.after (conversion value rejected))
        (g.after (conversion value rejected ++ ending id value rejected g.bridge ++
          [.takeDispatched])) id e := by
  obtain ⟨o, hending, hended, hmade⟩ := ending_of_ended he
  have hends := (hg.after _).ends_completeCall hended (hmade _)
  -- then requests are taken, which leaves every call where it is
  have htake :=
    ((hg.after (conversion value rejected)).after [.completeCall id o]).phase_takeDispatched
  rw [hending, after_append, after_append]
  refine ⟨?_, fun hnot i => (htake i).trans (hends.unchanged hnot i)⟩
  rw [htake]
  exact hends.tells

end Generation

/-! ### Lineages -/

/-- The bridges that a thread has had, the oldest first, and the one that it has. -/
structure Lineage where
  past : List Generation := []
  now : Option Generation := none

/-- All of them. -/
def Lineage.bridges (l : Lineage) : List Generation := l.past ++ l.now.toList

namespace ExportCall

/-- What a call does to the bridges of its thread: it drops the one that there is and sets another
one up, or it does its operations on it.  Then requests are taken. -/
def turn (c : ExportCall) (tags : TagSource) (l : Lineage) : Lineage :=
  if c.replaces then
    { past := l.past ++ (l.now.map (·.after [.takeDispatched])).toList
      now := (c.successor tags).map fun b => (Generation.mk [] b).after [.takeDispatched] }
  else
    { past := l.past
      now := l.now.map fun g => g.after (c.operations g.bridge ++ [.takeDispatched]) }

/-- No bridge of the past is forgotten. -/
theorem past_turn (c : ExportCall) (tags : TagSource) (l : Lineage) :
    l.past <+: (c.turn tags l).past := by
  rw [turn]
  split_ifs
  · exact List.prefix_append _ _
  · exact List.prefix_rfl

/-- A bridge that is set up was created. -/
theorem lived_successor {c : ExportCall} {tags : TagSource} {b : Bridge}
    (h : c.successor tags = some b) : (Generation.mk [] b).Lived := by
  rw [successor] at h
  split at h
  · rename_i config _
    cases hcreate : Bridge.create config tags with
    | error e =>
      rw [hcreate] at h
      cases h
    | ok made =>
      rw [hcreate] at h
      obtain rfl := Option.some.inj h
      exact ⟨config, .create hcreate⟩
  · cases h

end ExportCall

namespace Thread

variable {calls : List ExportEvent} {l : Lineage} {t : Thread}

/-- A run of a thread, with the bridges that it has had. -/
inductive Story : List ExportEvent → Lineage → Thread → Prop
  | new (tags : TagSource) : Story [] {} { tags }
  | call {calls : List ExportEvent} {l : Lineage} {t : Thread} (story : Story calls l t)
    (c : ExportCall) : Story (calls ++ [⟨c, (c.perform t).1⟩]) (c.turn t.tags l) (c.perform t).2
  | aside {calls : List ExportEvent} {l : Lineage} {t : Thread} (story : Story calls l t)
    (tags : TagSource) (delivered : List AsyncRequest) : Story calls l { t with tags, delivered }

theorem Story.run (story : Story calls l t) : Run calls t := by
  induction story with
  | new tags => exact .new tags
  | call story c ih => exact ih.call c
  | aside story tags delivered ih => exact ih.aside tags delivered

theorem Run.story (run : Run calls t) : ∃ l, Story calls l t := by
  induction run with
  | new tags => exact ⟨{}, .new tags⟩
  | call run c ih =>
    obtain ⟨l, story⟩ := ih
    exact ⟨_, story.call c⟩
  | aside run tags delivered ih =>
    obtain ⟨l, story⟩ := ih
    exact ⟨l, story.aside tags delivered⟩

/-- The bridges are those of the thread, and each was created and then operated. -/
structure Describes (l : Lineage) (t : Thread) : Prop where
  current : t.bridge = l.now.map (·.bridge)
  lived : ∀ g ∈ l.bridges, g.Lived

/-- One call. -/
theorem Describes.call (h : Describes l t) (hidle : t.isRunning = false) (c : ExportCall) :
    Describes (c.turn t.tags l) (c.perform t).2 := by
  have hnow (g : Generation) (hg : l.now = some g) : g.Lived :=
    h.lived g (List.mem_append_right _ (Option.mem_toList.2 hg))
  cases hc : c.replaces with
  | true =>
    rw [ExportCall.turn, if_pos hc]
    refine ⟨?_, fun g hg => ?_⟩
    · rw [ExportCall.bridge_perform_of_replaces hc hidle, Option.map_map]
      rfl
    · -- a bridge of the past, the one that was there, or the one that is set up
      rw [Lineage.bridges, List.mem_append, List.mem_append, Option.mem_toList, Option.mem_toList,
        Option.map_eq_some_iff, Option.map_eq_some_iff] at hg
      obtain (hpast | ⟨g₀, hg₀, rfl⟩) | ⟨b, hb, rfl⟩ := hg
      · exact h.lived g (List.mem_append_left _ hpast)
      · exact (hnow g₀ hg₀).after _
      · exact (ExportCall.lived_successor hb).after _
  | false =>
    rw [ExportCall.turn, hc, if_neg Bool.false_ne_true]
    refine ⟨?_, fun g hg => ?_⟩
    · rw [ExportCall.bridge_perform hc hidle, h.current, Option.map_map, Option.map_map]
      rfl
    · rw [Lineage.bridges, List.mem_append, Option.mem_toList, Option.map_eq_some_iff] at hg
      obtain hpast | ⟨g₀, hg₀, rfl⟩ := hg
      · exact h.lived g (List.mem_append_left _ hpast)
      · exact (hnow g₀ hg₀).after _

/-- **In every run** the bridges of a thread have come about by operations. -/
theorem Story.describes (story : Story calls l t) : Describes l t := by
  induction story with
  | new tags => exact ⟨rfl, List.forall_mem_nil _⟩
  | call story c ih => exact ih.call story.run.sound.idle c
  | aside story tags delivered ih => exact ⟨ih.current, ih.lived⟩

/-- The thread after calls, one after the other. -/
def after (t : Thread) (cs : List ExportCall) : Thread := cs.foldl (fun t c => (c.perform t).2) t

theorem after_cons (t : Thread) (c : ExportCall) (cs : List ExportCall) :
    t.after (c :: cs) = (c.perform t).2.after cs := rfl

theorem after_append (t : Thread) (cs cs' : List ExportCall) :
    t.after (cs ++ cs') = (t.after cs).after cs' := List.foldl_append

/-- A run goes on with whatever is called. -/
theorem Story.after (story : Story calls l t) (cs : List ExportCall) : ∃ more l',
    more.map (·.call) = cs ∧ l.past <+: l'.past ∧ Story (calls ++ more) l' (t.after cs) := by
  induction cs generalizing calls l t with
  | nil =>
    refine ⟨[], l, rfl, List.prefix_rfl, ?_⟩
    rw [List.append_nil]
    exact story
  | cons c cs ih =>
    obtain ⟨more, l', hmore, hpast, hstory⟩ := ih (story.call c)
    refine ⟨⟨c, (c.perform t).1⟩ :: more, l', ?_, (c.past_turn t.tags l).trans hpast, ?_⟩
    · rw [List.map_cons, hmore]
    · rw [List.append_assoc] at hstory
      exact hstory

/-! ### What a caller can rely on -/

theorem perform_endCall (id : Nat) (value : Handle) (rejected : Bool) (t : Thread) :
    ((ExportCall.endCall id value rejected .valid).perform t).1 =
      ((promiseCallback id value rejected t).1.1,
        (promiseCallback id value rejected t).1.2.map .ended) := rfl

/-- The body of a callback yields what ending the call on the bridge yields. -/
theorem ends_endCall (id : Nat) (value : Handle) (rejected : Bool) (out : OutPointer) (t : Thread) :
    Ends (do
      let done ← ExportM.onBridge do BridgeM.completeCall id (← callbackOutcome value rejected)
      unless out = .null do ExportM.write out
      return done) t fun r _ => ∀ e, r = .ok e → ∃ b, t.bridge = some b ∧
        (exec (do BridgeM.completeCall id (← callbackOutcome value rejected)) b).1 = .ok e := by
  refine Ends.bind (P := fun r _ => ∀ e, r = .ok e → ∃ b, t.bridge = some b ∧
    (exec (do BridgeM.completeCall id (← callbackOutcome value rejected)) b).1 = .ok e) ?_ ?_ ?_
  · refine ExportM.ends_onBridge nofun fun b hb e he => ⟨b, hb, ?_⟩
    cases hr : (exec (do BridgeM.completeCall id (← callbackOutcome value rejected)) b).1 with
    | error e' =>
      rw [hr] at he
      cases he
    | ok e' =>
      rw [hr] at he
      cases he
      rfl
  · intro done t' hdone
    cases out with
    | null =>
      rintro _ ⟨⟩
      exact hdone done rfl
    | valid =>
      rintro _ ⟨⟩
      exact hdone done rfl
  · rintro _ _ - _ ⟨⟩

theorem endCall_eq_ended {id : Nat} {value : Handle} {rejected : Bool} {out : OutPointer}
    {e : CallEnd} (hidle : t.isRunning = false)
    (h : ((ExportCall.endCall id value rejected out).perform t).1.2 = some (.ended e)) :
    ∃ b, t.bridge = some b ∧
      (exec (do BridgeM.completeCall id (← callbackOutcome value rejected)) b).1 = .ok e := by
  obtain ⟨hbusy, -⟩ | ⟨-, r, t₁, m, hr, hrun⟩ :=
    ExportM.run_cases
      (ends_endCall id value rejected out { t with isRunning := true, written := 0 })
  · rw [hidle] at hbusy
    cases hbusy
  · have hanswer : (ExportM.answer r).2.map ExportResult.ended = some (.ended e) := by
      rw [ExportCall.perform, Export.map, endCall, hrun] at h
      exact h
    cases r with
    | error f => cases hanswer
    | ok e' =>
      cases hanswer
      exact hr e rfl

/-- What a caller can rely on for the async calls of a thread that has had the bridges of a
lineage. -/
structure KeepsCallsApart (l : Lineage) (t : Thread) : Prop where
  /-- The bridge of the thread is the last one, -/
  current : t.bridge = l.now.map (·.bridge)
  /-- and all of them have come about by operations. -/
  lived : ∀ g ∈ l.bridges, g.Lived
  /-- Each gives the numbers 1, 2, 3, … to its own calls, each once. -/
  numbered : ∀ g ∈ l.bridges, g.issued.Perm (List.range' 1 g.issued.length)
  /-- What a callback yields tells where the call of the bridge that there is was when it was looked
  up, and where it is now: it is ended only if it was pending. -/
  ends : ∀ id value rejected out e,
    ((ExportCall.endCall id value rejected out).perform t).1.2 = some (.ended e) →
      ∃ g g', l.now = some g ∧
        ((ExportCall.endCall id value rejected out).turn t.tags l).now = some g' ∧
        (g.after (ExportCall.conversion value rejected)).EndsCall g' id e
  /-- A number that this bridge has not given to a call ends nothing, whichever bridge has done so
  before. -/
  foreign : ∀ id value rejected out e,
    ((ExportCall.endCall id value rejected out).perform t).1.2 = some (.ended e) →
      (∀ g, l.now = some g → id ∉ (g.after (ExportCall.conversion value rejected)).issued) →
      e = .unknown

theorem Describes.keepsCallsApart (h : Describes l t) (hidle : t.isRunning = false) :
    KeepsCallsApart l t := by
  have hends (id value rejected out e)
      (he : ((ExportCall.endCall id value rejected out).perform t).1.2 = some (.ended e)) :
      ∃ g g', l.now = some g ∧
        ((ExportCall.endCall id value rejected out).turn t.tags l).now = some g' ∧ g.Lived ∧
        (g.after (ExportCall.conversion value rejected)).EndsCall g' id e := by
    obtain ⟨b, hb, hended⟩ := endCall_eq_ended hidle he
    obtain ⟨g, hg, rfl⟩ := Option.map_eq_some_iff.1 (h.current.symm.trans hb)
    have hlived : g.Lived := h.lived g (List.mem_append_right _ (Option.mem_toList.2 hg))
    refine ⟨g, _, hg, ?_, hlived, hlived.ends hended⟩
    rw [ExportCall.turn, if_neg (by nofun), hg]
    rfl
  refine ⟨h.current, h.lived, fun g hg => (h.lived g hg).issued_perm,
    fun id value rejected out e he => ?_, fun id value rejected out e he hid => ?_⟩
  · obtain ⟨g, g', hg, hg', -, hends⟩ := hends id value rejected out e he
    exact ⟨g, g', hg, hg', hends⟩
  · obtain ⟨g, g', hg, hg', hlived, hends⟩ := hends id value rejected out e he
    have hunissued := (hlived.after _).phase_eq_unissued.2 (hid g hg)
    have htells := hends.tells
    rw [hunissued] at htells
    cases e with
    | unknown => rfl
    | resolved => cases htells.1
    | rejected => cases htells.1
    | alreadySettled => cases htells.1

/-! ### One number, two calls -/

/-- Starts an async call on a new bridge; `tag` is the tag of its handles. -/
def starting (tag : UInt16) : List ExportCall :=
  [.globalObject .valid, .getProperty (.make tag 1 0) (.bytes (Utf8.encode "env")) .valid,
    .call (.make tag 1 1) (.bytes (Utf8.encode "callHostAsync")) (.handles []) .valid]

/-- Sets a bridge up. -/
def defaultInit : ExportCall := .init fun _ => none

/-- Starts a call on one bridge, and then one on another bridge in its place. -/
def startingTwice : List ExportCall := defaultInit :: starting 1 ++ defaultInit :: starting 2

set_option maxRecDepth 100000 in
/-- What comes of a call on one bridge and then on another one, and of a callback with the number
1. -/
theorem run_twice :
    ((after {} (defaultInit :: starting 1)).bridge.map fun b =>
        (b.ledger.numbers, b.ledger.queue.map (·.id)),
      (after {} (defaultInit :: starting 1)).requests.map (·.id),
      (promiseCallback 1 .null false (after {} startingTwice)).1) =
      (some ([1], [1]), [], (.ok, some .resolved)) := by
  decide +kernel

/-- The first bridge is a past one then, and has given the number 1 to a call. -/
theorem exists_story_twice : ∃ calls l, Story calls l (after {} startingTwice) ∧
    calls.map (·.call) = startingTwice ∧ ∃ g ∈ l.past, 1 ∈ g.issued := by
  have hrun := run_twice
  simp only [Prod.mk.injEq, Option.map_eq_some_iff] at hrun
  obtain ⟨⟨b₁, hb₁, hnumbers, -⟩, -, -⟩ := hrun
  obtain ⟨calls₁, l₁, hcalls₁, -, story₁⟩ := (Story.new {}).after (defaultInit :: starting 1)
  obtain ⟨g₁, hg₁, rfl⟩ := Option.map_eq_some_iff.1 (story₁.describes.current.symm.trans hb₁)
  have hlived : g₁.Lived :=
    story₁.describes.lived g₁ (List.mem_append_right _ (Option.mem_toList.2 hg₁))
  -- the first bridge is dropped by the call that sets up the second one
  have hdropped (tags : TagSource) :
      g₁.after [.takeDispatched] ∈ (defaultInit.turn tags l₁).past := by
    have hreplaces : defaultInit.replaces = true := rfl
    rw [ExportCall.turn, if_pos hreplaces, hg₁]
    exact List.mem_append_right _ (List.mem_singleton.2 rfl)
  obtain ⟨calls₂, l₂, hcalls₂, hpast, story⟩ := (story₁.call defaultInit).after (starting 2)
  rw [← after_cons, ← after_append] at story
  refine ⟨_, l₂, story, ?_, _, hpast.subset (hdropped _), ?_⟩
  · rw [List.map_append, List.map_append, hcalls₂, List.nil_append, hcalls₁, List.append_assoc]
    rfl
  · have hsame : (g₁.after [.takeDispatched]).bridge.ledger.numbers = g₁.bridge.ledger.numbers :=
      rfl
    rw [(hlived.after _).mem_issued, hsame, hnumbers]
    exact List.mem_singleton.2 rfl

theorem perform_endCall_twice : ((ExportCall.endCall 1 .null false .valid).perform
    (after {} startingTwice)).1 = (.ok, some (.ended .resolved)) := by
  have hrun := run_twice
  simp only [Prod.mk.injEq] at hrun
  obtain ⟨-, -, hended⟩ := hrun
  rw [perform_endCall, hended]
  rfl

/-- **Callbacks keep to the bridge that there is**, whichever bridges a thread has had. -/
theorem callbacks_keep_to_their_bridge (run : Run calls t) :
    (∃ l, Story calls l t) ∧ ∀ l, Story calls l t → KeepsCallsApart l t :=
  ⟨run.story, fun _ story => story.describes.keepsCallsApart run.sound.idle⟩

/-- It holds of a thread that has started a call on a bridge, and then one on another bridge, both
with the number 1: a callback with that number ends the call of the second one. -/
theorem callbacks_keep_to_their_bridge_renewed : ∃ calls l t, Run calls t ∧ Story calls l t ∧
    calls.map (·.call) = startingTwice ∧ (∃ g ∈ l.past, 1 ∈ g.issued) ∧
    ((ExportCall.endCall 1 .null false .valid).perform t).1 = (.ok, some (.ended .resolved)) ∧
    KeepsCallsApart l t := by
  obtain ⟨calls, l, story, hcalls, hpast⟩ := exists_story_twice
  exact ⟨calls, l, _, story.run, story, hcalls, hpast, perform_endCall_twice,
    (callbacks_keep_to_their_bridge story.run).2 l story⟩

/-- **The number of an earlier call may be that of a later one**: the first bridge of a thread has
given the number 1 to a call, and a callback with this number ends a call of the second one. -/
theorem earlier_number_settles : ∃ calls l t, Story calls l t ∧
    calls.map (·.call) = defaultInit :: starting 1 ++ defaultInit :: starting 2 ∧
    (∃ g ∈ l.past, 1 ∈ g.issued) ∧
    ((ExportCall.endCall 1 .null false .valid).perform t).1 = (.ok, some (.ended .resolved)) := by
  obtain ⟨calls, l, story, hcalls, hpast⟩ := exists_story_twice
  exact ⟨calls, l, _, story, hcalls, hpast, perform_endCall_twice⟩

end Thread

end ScriptBridge
