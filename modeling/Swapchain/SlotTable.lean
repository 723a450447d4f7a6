import Swapchain.Slot

/-!
# The slot table

A fixed number of slots. A buffer goes to the slot that remembers it, else to the first free
slot, else to the idle slot whose contents are worth least.

* `SlotTable.indexOf?`, `SlotTable.firstFree?`, `SlotTable.stalestIdle?`: the three
  searches, each giving the lowest index;
* `SlotTable.placeFor?`: where a buffer goes;
* `SlotTable.releaseIdle`: every idle slot forgets its buffer.
-/

namespace Swapchain

/-- The slots of one window. -/
structure SlotTable where
  slots : List Slot
  deriving DecidableEq, Inhabited, Repr

namespace SlotTable

/-- A table of slots that remember nothing. -/
def ofCapacity (n : Nat) : SlotTable := ⟨List.replicate n .empty⟩

/-- The number of slots. -/
def capacity (t : SlotTable) : Nat := t.slots.length

/-- The slot at an index, if there is one. -/
def get? (t : SlotTable) (i : Nat) : Option Slot := t.slots[i]?

/-- The table with the slot at an index changed. -/
def modify (t : SlotTable) (i : Nat) (f : Slot → Slot) : SlotTable := ⟨t.slots.modify i f⟩

/-! ## Searches -/

/-- The slot that remembers a buffer. -/
def indexOf? (t : SlotTable) (id : BufferId) : Option Nat :=
  t.slots.findIdx? fun s => s.bufferId == some id

/-- The first slot that holds no buffer. -/
def firstFree? (t : SlotTable) : Option Nat := t.slots.findIdx? fun s => !s.isActive

/-- The first of the stalest slots, with its index. -/
def stalest : List (Slot × Nat) → Option (Slot × Nat)
  | [] => none
  | x :: xs =>
    match stalest xs with
    | some y => if y.1.staler x.1 then some y else some x
    | none => some x

/-- The idle slot whose contents are worth least. -/
def stalestIdle? (t : SlotTable) : Option Nat :=
  (stalest (t.slots.zipIdx.filter fun x => !x.1.dequeued)).map Prod.snd

/-- Where a buffer goes: its own slot, a free one, or one whose contents are given up. -/
def placeFor? (t : SlotTable) (id : BufferId) : Option Nat :=
  t.indexOf? id <|> t.firstFree? <|> t.stalestIdle?

/-! ## Counts -/

/-- How many slots are dequeued. -/
def dequeuedCount (t : SlotTable) : Nat := t.slots.countP Slot.dequeued

/-- How many slots hold a fence. -/
def fenceCount (t : SlotTable) : Nat := t.slots.countP Slot.holdsFence

/-- How many slots hold a buffer. -/
def activeCount (t : SlotTable) : Nat := t.slots.countP Slot.isActive

/-! ## Releasing -/

/-- Every slot that is not dequeued forgets its buffer. -/
def releaseIdle (t : SlotTable) : SlotTable :=
  ⟨t.slots.map fun s => if s.dequeued then s else .empty⟩

/-- Every slot forgets its buffer. -/
def releaseAll (t : SlotTable) : SlotTable := ofCapacity t.capacity

@[simp] theorem capacity_ofCapacity (n : Nat) : (ofCapacity n).capacity = n := by
  simp [capacity, ofCapacity]

@[simp] theorem capacity_modify (t : SlotTable) (i : Nat) (f : Slot → Slot) :
    (t.modify i f).capacity = t.capacity := by
  simp [capacity, modify]

end SlotTable
end Swapchain
