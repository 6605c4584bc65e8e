import ScriptBridge.Proofs.Bridge.Conservation
import ScriptBridge.Proofs.Handle.Tag

/-!
# The bridges of a process

A process creates bridges and does operations on them, in any order; they share the source of their
tags and nothing else.  A bridge that is shut down is one on which nothing more happens.

* `Bridge.Run.tag` : in every run of a bridge, its handles have the tag of its table, which is the
  one that it was created with.
* `Process.Sound.step`, `Process.sound_run` : in every run of a process **the bridge that was
  created after `k` others has the tag `TagSource.nth k`**, for good.
* `Process.bridges_apart` : so what one bridge has ever given out is refused by every other one, as
  long as the two were created fewer than 65535 creations apart.
-/

namespace ScriptBridge

open Script

namespace Bridge

variable {c : BridgeConfig} {events : List Event} {b b' : Bridge} {tags tags' : TagSource}
  {op : Operation}

/-! ### The tag of one bridge -/

/-- The handle that an operation has given out, if it has. -/
def Event.handle? (e : Event) : Option Handle :=
  match e.answer with
  | .ok (.handle h) => some h
  | _ => none

/-- The handles that were given out. -/
def issued (events : List Event) : List Handle := events.filterMap Event.handle?

theorem issued_concat (events : List Event) (e : Event) :
    issued (events ++ [e]) = issued events ++ e.handle?.toList := by
  rw [issued, List.filterMap_append]
  rfl

/-- No operation changes the tag, and a handle that it gives out has it. -/
theorem Transfer.tag {t t' : HandleTable Value} {r : Except BridgeError Answer}
    (h : Transfer t op r t') (ht : t.Listed) :
    t'.tag = t.tag ∧ ∀ g, Event.handle? ⟨op, r⟩ = some g → g.tag = t.tag := by
  cases h with
  | failed _ e => exact ⟨rfl, nofun⟩
  | given _ v =>
    refine ⟨HandleTable.insert_tag, fun g hg => ?_⟩
    obtain rfl : (t.insert v).1 = g := Option.some.inj hg
    exact ht.tag_insert
  | released h t' hr => exact ⟨(HandleTable.release?_eq_some hr).2.2.2.1, nofun⟩
  | left _ a _ ha =>
    refine ⟨rfl, fun g hg => ?_⟩
    cases a with
    | handle _ => cases ha
    | _ => cases hg

/-- **All that a bridge gives out has the tag of its table.** -/
theorem Run.tag (run : Run c events b) : ∀ h ∈ issued events, h.tag = b.handles.tag := by
  induction run with
  | create => exact nofun
  | @step events b run op ih =>
    obtain ⟨htag, hgiven⟩ := (transfer_step b op).tag run.counts.counted.toListed
    intro h hh
    rw [issued_concat, List.mem_append, Option.mem_toList] at hh
    rw [htag]
    exact hh.elim (ih h) (hgiven h)

/-- A release of a handle that the table refuses fails and changes nothing. -/
theorem step_release_of_refuses {h : Handle} (href : b.handles.Refuses h) :
    b.step (.release h) = (.error (.invalidHandle h), b) := by
  rw [step, Operation.program, exec_map, BridgeM.release, exec_bind, exec_get]
  simp only [href.release]
  rfl

end Bridge

/-! ### Processes -/

/-- A bridge of a process, with what has happened on it. -/
structure Member where
  bridge : Bridge
  events : List Bridge.Event := []

/-- What a process has of its bridges. -/
structure Process where
  /-- What the tags of new bridges are drawn from. -/
  tags : TagSource := {}
  /-- The bridges, in the order in which they were created. -/
  members : List Member := []

namespace Process

open Bridge

/-- What a process does. -/
inductive Action
  | create (c : BridgeConfig)
  | operate (i : Nat) (op : Operation)

end Process

namespace Member

/-- One operation on a bridge. -/
def operate (m : Member) (op : Bridge.Operation) : Member where
  bridge := (m.bridge.step op).2
  events := m.events ++ [⟨op, (m.bridge.step op).1⟩]

end Member

namespace Process

open Bridge

/-- One action.  A creation that fails leaves nothing behind. -/
def step (p : Process) : Action → Process
  | .create c =>
    match Bridge.create c p.tags with
    | .ok (b, tags) => { tags, members := p.members ++ [{ bridge := b }] }
    | .error _ => p
  | .operate i op => { p with members := p.members.modify i (·.operate op) }

/-- A new process after some actions. -/
def run (actions : List Action) : Process := actions.foldl step {}

/-- The bridges have had runs of their own, and the tags that come with their places. -/
structure Sound (p : Process) : Prop where
  /-- The next tag is that of the next place. -/
  tags : p.tags.DrawsNth p.members.length
  /-- What has happened on a bridge is a run of it. -/
  runs : ∀ m ∈ p.members, ∃ c, Run c m.events m.bridge
  /-- A bridge has the tag of its place. -/
  nth : ∀ i m, p.members[i]? = some m → m.bridge.handles.tag = TagSource.nth i

theorem sound_start : Sound {} := ⟨TagSource.drawsNth_start, nofun, nofun⟩

variable {p : Process}

theorem Sound.create (h : p.Sound) {c : BridgeConfig} {b : Bridge} {tags : TagSource}
    (hb : Bridge.create c p.tags = .ok (b, tags)) :
    Sound { tags, members := p.members ++ [{ bridge := b }] } := by
  obtain ⟨hhandles, rfl⟩ : b.handles = .empty p.tags.draw.1 ∧ tags = p.tags.draw.2 := by
    obtain ⟨ns, rfl, htags⟩ := setUp_draws hb
    exact ⟨rfl, htags⟩
  refine ⟨?_, fun m hm => ?_, fun i m hm => ?_⟩
  · rw [List.length_append]
    exact h.tags.draw
  · obtain hm | hm := List.mem_append.1 hm
    · exact h.runs m hm
    · obtain rfl := List.mem_singleton.1 hm
      exact ⟨c, .create hb⟩
  · rw [List.getElem?_append] at hm
    split_ifs at hm with hi
    · exact h.nth i m hm
    · -- the new bridge is the last one
      rw [List.getElem?_singleton] at hm
      split_ifs at hm with hlast
      obtain rfl := Option.some.inj hm
      obtain rfl : i = p.members.length := by omega
      rw [hhandles]
      exact h.tags

theorem Sound.operate (h : p.Sound) (i : Nat) (op : Operation) :
    Sound { p with members := p.members.modify i (·.operate op) } := by
  refine ⟨?_, fun m hm => ?_, fun j m hm => ?_⟩
  · rw [List.length_modify]
    exact h.tags
  · obtain ⟨j, hj⟩ := List.mem_iff_getElem?.1 hm
    rw [List.getElem?_modify, Option.map_eq_map, Option.map_eq_some_iff] at hj
    obtain ⟨m₀, hm₀, rfl⟩ := hj
    obtain ⟨c, run⟩ := h.runs m₀ (List.mem_of_getElem? hm₀)
    split_ifs
    · exact ⟨c, run.step op⟩
    · exact ⟨c, run⟩
  · rw [List.getElem?_modify, Option.map_eq_map, Option.map_eq_some_iff] at hm
    obtain ⟨m₀, hm₀, rfl⟩ := hm
    split_ifs
    · obtain ⟨c, run⟩ := h.runs m₀ (List.mem_of_getElem? hm₀)
      have htag := ((transfer_step m₀.bridge op).tag run.counts.counted.toListed).1
      exact htag.trans (h.nth j m₀ hm₀)
    · exact h.nth j m₀ hm₀

/-- One action keeps the bridges apart. -/
theorem Sound.step (h : p.Sound) (a : Action) : (p.step a).Sound := by
  cases a with
  | create c =>
    rw [Process.step]
    split
    · rename_i b tags hb
      exact h.create hb
    · exact h
  | operate i op => exact h.operate i op

theorem Sound.after (h : p.Sound) (actions : List Action) :
    (actions.foldl Process.step p).Sound := by
  induction actions generalizing p with
  | nil => exact h
  | cons a actions ih => exact ih (h.step a)

theorem sound_run (actions : List Action) : (run actions).Sound := sound_start.after actions

/-- All that a bridge has given out has the tag of its place. -/
theorem Sound.issued (h : p.Sound) {i : Nat} {m : Member} (hm : p.members[i]? = some m)
    {g : Handle} (hg : g ∈ Bridge.issued m.events) : g.tag = TagSource.nth i := by
  obtain ⟨c, run⟩ := h.runs m (List.mem_of_getElem? hm)
  rw [run.tag g hg, h.nth i m hm]

/-- How the bridges of a process are told apart, at two moments of its run: those at the first are
compared with those at the second. -/
structure KeepsApart (p q : Process) : Prop where
  /-- No tag is zero, -/
  tag_ne_zero : ∀ (i : Nat) (m : Member), p.members[i]? = some m → m.bridge.handles.tag ≠ 0
  /-- and two of them are the same exactly if their bridges are a multiple of 65535 creations
  apart. -/
  period : ∀ (i j : Nat) (m n : Member), p.members[i]? = some m → q.members[j]? = some n →
    (m.bridge.handles.tag = n.bridge.handles.tag ↔ (65535 : Int) ∣ (i : Int) - j)
  /-- A handle that one bridge has given out is refused by every other one that was created fewer
  than 65535 creations before or after it; the release of it there fails and changes nothing. -/
  refused : ∀ (i j : Nat) (m n : Member) (h : Handle), p.members[i]? = some m →
    q.members[j]? = some n → i ≠ j →
    ((i : Int) - j).natAbs < 65535 → h ∈ Bridge.issued m.events →
    n.bridge.handles.Refuses h ∧ n.bridge.step (.release h) = (.error (.invalidHandle h), n.bridge)
  /-- No handle that was given out is the null handle. -/
  ne_null : ∀ (i : Nat) (m : Member) (h : Handle), p.members[i]? = some m →
    h ∈ Bridge.issued m.events → h ≠ .null

/-- **The bridges of a process are kept apart by their tags**, at any two moments of any run. -/
theorem bridges_apart (actions : List Action) (s t : Nat) :
    KeepsApart (run (actions.take s)) (run (actions.take t)) := by
  have hp := sound_run (actions.take s)
  have hq := sound_run (actions.take t)
  refine ⟨fun i m hm => ?_, fun i j m n hm hn => ?_, fun i j m n h hm hn hne hnear hh => ?_,
    fun i m h hm hh => ?_⟩
  · rw [hp.nth i m hm]
    exact TagSource.nth_ne_zero i
  · rw [hp.nth i m hm, hq.nth j n hn]
    exact TagSource.nth_eq_iff i j
  · have htag : h.tag ≠ n.bridge.handles.tag := by
      rw [hp.issued hm hh, hq.nth j n hn, Ne, TagSource.nth_eq_iff]
      omega
    have hrefuses := HandleTable.refuses_of_tag htag
    exact ⟨hrefuses, step_release_of_refuses hrefuses⟩
  · rintro rfl
    have hzero := hp.issued hm hh
    exact TagSource.nth_ne_zero i hzero.symm

end Process

end ScriptBridge
