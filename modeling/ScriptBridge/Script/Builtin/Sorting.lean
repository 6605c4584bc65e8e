import ScriptBridge.Script.Proc

/-!
# Sorting

Items are sorted by asking for the order of two of them at a time.  Programs see which two are
asked for, so the questions are fixed: short runs are sorted by insertion, and longer ones are
divided at the median of three items, the shorter part first.  The order of two items is never
asked for if they are the same item.
-/

namespace ScriptBridge.Script

namespace Sorting

variable {m : Type → Type} {α : Type} [Monad m] [Inhabited α]

/-- What asks for the order of two items. -/
abbrev Ask (m : Type → Type) (α : Type) := α → α → m Ordering

/-- The item at a place. -/
def item (a : Array α) (i : Nat) : α := a.getD i default

/-- Moves the item at `start + i` down as long as the one before it is greater. -/
def sink (ask : Ask m α) (start : Nat) : Nat → Array α → m (Array α)
  | 0, a => pure a
  | i + 1, a => do
    if (← ask (item a (start + i)) (item a (start + i + 1))) == .gt then
      sink ask start i (a.swapIfInBounds (start + i) (start + i + 1))
    else return a

/-- Sorts `count` items from `start` on by insertion. -/
def insertion (ask : Ask m α) (start count : Nat) (a : Array α) : m (Array α) :=
  (List.range count).foldlM (fun a i => sink ask start i a) a

/-- The place of the middle one of three items. -/
def median (ask : Ask m α) (a : Array α) (x y z : Nat) : m Nat := do
  if (← ask (item a x) (item a y)) == .lt then
    if (← ask (item a y) (item a z)) == .lt then return y
    return if (← ask (item a x) (item a z)) == .lt then z else x
  else
    if (← ask (item a y) (item a z)) == .gt then return y
    return if (← ask (item a x) (item a z)) == .lt then x else z

/-- The first of `count` places from `low` on whose item is not below the pivot. -/
def climb (ask : Ask m α) (a : Array α) (pivot : α) : Nat → Nat → m Nat
  | 0, low => pure low
  | count + 1, low => do
    if (← ask pivot (item a low)) == .gt then climb ask a pivot count (low + 1) else return low

/-- The last of `count` places from `low` on whose item is not above the pivot, or `low`. -/
def descend (ask : Ask m α) (a : Array α) (pivot : α) (low : Nat) : Nat → m Nat
  | 0 => pure low
  | count + 1 => do
    if count = 0 then return low
    if (← ask pivot (item a (low + count))) == .lt then descend ask a pivot low count
    else return low + count

/-- Divides the items from `low` up to `high` at the pivot: what is below it comes first.  The
result is the place where the others begin. -/
def divide (ask : Ask m α) (pivot : α) : Nat → Nat → Nat → Array α → m (Array α × Nat)
  | 0, low, _, a => pure (a, low)
  | fuel + 1, low, high, a => do
    let low ← climb ask a pivot (high - low) low
    if high ≤ low then return (a, low)
    let high ← descend ask a pivot low (high - low)
    if high ≤ low then return (a, low)
    divide ask pivot fuel (low + 1) high (a.swapIfInBounds low high)

/-- Sorts `count` items from `start` on; `depth` bounds the number of divisions, below which runs
are sorted by insertion. -/
def run (ask : Ask m α) : Nat → Nat → Nat → Array α → m (Array α)
  | 0, start, count, a => insertion ask start count a
  | depth + 1, start, count, a => do
    if count ≤ 6 then insertion ask start count a
    else
      let quarter := count / 4
      let middle ← median ask a (start + quarter) (start + 2 * quarter) (start + 3 * quarter)
      let a := a.swapIfInBounds start middle
      let (a, high) ← divide ask (item a start) count (start + 1) (start + count) a
      let a := a.swapIfInBounds start (high - 1)
      let below := high - 1 - start
      let above := start + count - high
      if above < below then
        run ask depth start below (← run ask depth high above a)
      else
        run ask depth high above (← run ask depth start below a)

/-- Sorts items. -/
def sort (ask : Ask m α) (items : List α) : m (List α) := do
  return (← run ask 50 0 items.length items.toArray).toList

end Sorting

end ScriptBridge.Script
