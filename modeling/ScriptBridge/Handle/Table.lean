import ScriptBridge.Error

/-!
# The table of live values

A table keeps the values that handles name.  A released slot is reused, last released first,
under the next generation, so that an old handle to it stays refused until the generations have
gone all the way round.
-/

namespace ScriptBridge

/-- A place for one value, and how often it was emptied, modulo 2^16. -/
structure Slot (α : Type) where
  generation : UInt16
  value : Option α

/-- The values that one bridge keeps for its host. -/
structure HandleTable (α : Type) where
  /-- The tag of the bridge. -/
  tag : UInt16
  slots : Array (Slot α) := #[]
  /-- The slots to reuse, the next one first. -/
  free : List UInt32 := []
  /-- The number of values kept. -/
  live : Nat := 0

namespace HandleTable

variable {α : Type}

/-- The table with nothing in it. -/
def empty (tag : UInt16) : HandleTable α := { tag }

/-- The value that `h` names, if it names one here. -/
def get? (t : HandleTable α) (h : Handle) : Option α :=
  if h.tag = t.tag then
    match t.slots[h.index.toNat]? with
    | some slot => if slot.generation = h.generation then slot.value else none
    | none => none
  else none

/-- The value that `h` names; every other word is refused. -/
def get (t : HandleTable α) (h : Handle) : Except BridgeError α :=
  match t.get? h with
  | some v => .ok v
  | none => .error (.invalidHandle h)

/-- Whether `h` names a value of this table. -/
def contains (t : HandleTable α) (h : Handle) : Bool := (t.get? h).isSome

/-- The number of values kept. -/
def size (t : HandleTable α) : Nat := t.live

/-- Keeps `v` and gives out a handle for it. -/
def insert (t : HandleTable α) (v : α) : Handle × HandleTable α :=
  match t.free with
  | i :: free =>
    match t.slots[i.toNat]? with
    | some slot =>
      (.make t.tag slot.generation i,
        { t with
          slots := t.slots.setIfInBounds i.toNat { slot with value := some v }
          free
          live := t.live + 1 })
    | none => (.null, { t with free })
  | [] =>
    (.make t.tag 1 t.slots.size.toUInt32,
      { t with slots := t.slots.push ⟨1, some v⟩, live := t.live + 1 })

/-- Lets go of the value that `h` names; `none` when it names none. -/
def release? (t : HandleTable α) (h : Handle) : Option (HandleTable α) :=
  if t.contains h then
    some { t with
      slots := t.slots.modify h.index.toNat fun slot => ⟨slot.generation + 1, none⟩
      free := h.index :: t.free
      live := t.live - 1 }
  else none

end HandleTable

end ScriptBridge
