import Swapchain.SlotTable

/-!
# Reading a slot table

A table is read slot by slot, with `SlotTable.get?`. What the rest of the theory needs of tables:

* `get?_modify`, `get?_releaseIdle`, `get?_ofCapacity`: each change, read at an index;
* `modify_modify`, `modify_congr`: one slot changed twice, or in two ways that are alike on it;
* `forall_modify`: what holds of every slot of a changed table;
* `get?_placeFor?`, `bufferId_placeFor?`: a place is a slot, and if any slot remembers the
  buffer, then the place does;
* `exists_placeFor?`: when there is a place;
* `Idle`, `Idle.releaseIdle_eq`: if nothing is dequeued, releasing the idle slots empties the table;
* `placeFor?_ofCapacity`: the place of a buffer in an emptied table;
* `flatMap_slots`: a list made slot by slot, to which one slot alone adds.
-/

namespace Swapchain.SlotTable

variable {t : SlotTable} {i j : Nat} {s : Slot} {id : BufferId}

@[ext] theorem ext_get? {t u : SlotTable} (h : ∀ i, t.get? i = u.get? i) : t = u :=
  congrArg mk (List.ext_getElem? h)

theorem lt_capacity (h : t.get? i = some s) : i < t.capacity :=
  (List.getElem?_eq_some_iff.mp h).1

theorem get?_of_lt (h : i < t.capacity) : ∃ s, t.get? i = some s :=
  ⟨_, List.getElem?_eq_getElem h⟩

theorem mem_slots_iff : s ∈ t.slots ↔ ∃ i, t.get? i = some s := List.mem_iff_getElem?

theorem get?_modify (t : SlotTable) (i j : Nat) (f : Slot → Slot) :
    (t.modify i f).get? j = (t.get? j).map fun s => if i = j then f s else s := by
  simp [get?, modify, List.getElem?_modify]

@[simp] theorem get?_modify_self (t : SlotTable) (i : Nat) (f : Slot → Slot) :
    (t.modify i f).get? i = (t.get? i).map f := by
  simp [get?_modify]

theorem get?_modify_ne (t : SlotTable) (f : Slot → Slot) (h : i ≠ j) :
    (t.modify i f).get? j = t.get? j := by
  simp [get?_modify, h]

/-- Two changes of one slot are one change. -/
theorem modify_modify (t : SlotTable) (i : Nat) (f g : Slot → Slot) :
    (t.modify i f).modify i g = t.modify i fun s => g (f s) :=
  congrArg mk (List.modify_modify_eq f g i t.slots)

/-- Changes that are alike on the slot that is there. -/
theorem modify_congr {f g : Slot → Slot} (h : ∀ s, t.get? i = some s → f s = g s) :
    t.modify i f = t.modify i g := by
  ext j : 1
  rw [get?_modify, get?_modify]
  refine Option.map_congr fun s hs => ?_
  split <;> rename_i hij
  · exact h s (hij ▸ hs)
  · rfl

/-- What holds of the slots of a changed table. -/
theorem forall_modify (P : Nat → Slot → Prop) {f : Slot → Slot}
    (hi : ∀ s, t.get? i = some s → P i (f s)) (hne : ∀ j s, j ≠ i → t.get? j = some s → P j s)
    (hs : (t.modify i f).get? j = some s) : P j s := by
  by_cases hij : i = j
  · subst hij
    rw [get?_modify_self] at hs
    obtain ⟨s₀, hs₀, rfl⟩ := Option.map_eq_some_iff.mp hs
    exact hi s₀ hs₀
  · rw [get?_modify_ne _ _ hij] at hs
    exact hne j s (Ne.symm hij) hs

@[simp] theorem get?_releaseIdle (t : SlotTable) (i : Nat) :
    t.releaseIdle.get? i = (t.get? i).map fun s => if s.dequeued then s else .empty := by
  simp [get?, releaseIdle]

@[simp] theorem get?_ofCapacity (n i : Nat) :
    (ofCapacity n).get? i = if i < n then some .empty else none := by
  simp [get?, ofCapacity, List.getElem?_replicate]

theorem eq_empty_of_get?_ofCapacity {n : Nat} (h : (ofCapacity n).get? i = some s) :
    s = .empty := by
  rw [get?_ofCapacity] at h
  split at h <;> cases h
  rfl

/-- Nothing is known of the pixels of an empty table. -/
theorem valid_ofCapacity {n : Nat} (h : (ofCapacity n).get? i = some s) : s.valid = false := by
  rw [eq_empty_of_get?_ofCapacity h]
  rfl

/-- No slot is dequeued. -/
def Idle (t : SlotTable) : Prop := ∀ ⦃i s⦄, t.get? i = some s → s.dequeued = false

/-- Nothing dequeued: every slot is released. -/
theorem Idle.releaseIdle_eq (h : t.Idle) : t.releaseIdle = .ofCapacity t.capacity := by
  ext1 i
  rw [get?_releaseIdle, get?_ofCapacity]
  split
  · rename_i hi
    obtain ⟨s, hs⟩ := get?_of_lt hi
    simp [hs, h hs]
  · rename_i hi
    cases hs : t.get? i with
    | none => rfl
    | some s => exact absurd (lt_capacity hs) hi

theorem idle_ofCapacity (n : Nat) : (ofCapacity n).Idle := fun _ _ hs => by
  rw [eq_empty_of_get?_ofCapacity hs]
  rfl

theorem Idle.releaseIdle (h : t.Idle) : t.releaseIdle.Idle := by
  rw [h.releaseIdle_eq]
  exact idle_ofCapacity _

/-! ## Searches -/

theorem get?_indexOf? (h : t.indexOf? id = some i) :
    ∃ s, t.get? i = some s ∧ s.bufferId = some id := by
  obtain ⟨hi, hp, -⟩ := List.findIdx?_eq_some_iff_getElem.mp h
  exact ⟨_, List.getElem?_eq_getElem hi, by simpa using hp⟩

theorem bufferId_of_indexOf?_eq_none (h : t.indexOf? id = none) (hs : t.get? i = some s) :
    s.bufferId ≠ some id := by
  have := List.findIdx?_eq_none_iff.mp h s (mem_slots_iff.mpr ⟨i, hs⟩)
  simpa using this

theorem get?_firstFree? (h : t.firstFree? = some i) :
    ∃ s, t.get? i = some s ∧ s.isActive = false := by
  obtain ⟨hi, hp, -⟩ := List.findIdx?_eq_some_iff_getElem.mp h
  exact ⟨_, List.getElem?_eq_getElem hi, by simpa using hp⟩

theorem stalest_mem {xs : List (Slot × Nat)} {y : Slot × Nat} (h : stalest xs = some y) :
    y ∈ xs := by
  induction xs generalizing y with
  | nil => cases h
  | cons x xs ih =>
    simp only [stalest] at h
    split at h
    · rename_i z hz
      split at h <;> cases h
      · exact List.mem_cons_of_mem _ (ih hz)
      · exact List.mem_cons_self
    · cases h
      exact List.mem_cons_self

theorem exists_stalest {xs : List (Slot × Nat)} {x : Slot × Nat} (h : x ∈ xs) :
    ∃ y, stalest xs = some y := by
  cases xs with
  | nil => cases h
  | cons x xs =>
    simp only [stalest]
    split
    · split <;> exact ⟨_, rfl⟩
    · exact ⟨x, rfl⟩

theorem get?_stalestIdle? (h : t.stalestIdle? = some i) :
    ∃ s, t.get? i = some s ∧ s.dequeued = false := by
  obtain ⟨⟨s, k⟩, hy, rfl⟩ := Option.map_eq_some_iff.mp h
  obtain ⟨hm, hd⟩ := List.mem_filter.mp (stalest_mem hy)
  exact ⟨s, List.mem_zipIdx_iff_getElem?.mp hm, by simpa using hd⟩

/-- The three searches, in their order. -/
theorem placeFor?_cases (h : t.placeFor? id = some i) :
    t.indexOf? id = some i ∨ t.indexOf? id = none ∧
      (t.firstFree? = some i ∨ t.firstFree? = none ∧ t.stalestIdle? = some i) := by
  simp only [placeFor?] at h
  cases hx : t.indexOf? id with
  | some k => rw [hx] at h; exact .inl h
  | none =>
    cases hf : t.firstFree? with
    | some k => rw [hx, hf] at h; exact .inr ⟨rfl, .inl h⟩
    | none => rw [hx, hf] at h; exact .inr ⟨rfl, .inr ⟨rfl, h⟩⟩

/-- A place is a slot of the table. -/
theorem get?_placeFor? (h : t.placeFor? id = some i) : ∃ s, t.get? i = some s := by
  rcases placeFor?_cases h with h | ⟨-, h | ⟨-, h⟩⟩
  · obtain ⟨s, hs, -⟩ := get?_indexOf? h; exact ⟨s, hs⟩
  · obtain ⟨s, hs, -⟩ := get?_firstFree? h; exact ⟨s, hs⟩
  · obtain ⟨s, hs, -⟩ := get?_stalestIdle? h; exact ⟨s, hs⟩

/-- A table that has slots, none of them dequeued, has a place for every buffer. -/
theorem exists_placeFor? (hpos : 0 < t.capacity) (hidle : t.Idle) (id : BufferId) :
    ∃ i, t.placeFor? id = some i := by
  obtain ⟨s, hs⟩ := get?_of_lt hpos
  have hmem : (s, 0) ∈ t.slots.zipIdx.filter fun x => !x.1.dequeued :=
    List.mem_filter.mpr ⟨List.mem_zipIdx_iff_getElem?.mpr hs, by simp [hidle hs]⟩
  obtain ⟨y, hy⟩ := exists_stalest hmem
  have hstalest : t.stalestIdle? = some y.2 := congrArg (Option.map Prod.snd) hy
  rw [placeFor?, hstalest]
  cases t.indexOf? id with
  | some i => exact ⟨i, rfl⟩
  | none =>
    cases t.firstFree? with
    | some i => exact ⟨i, rfl⟩
    | none => exact ⟨y.2, rfl⟩

/-- If a slot remembers the buffer, so does the place. -/
theorem bufferId_placeFor? (h : t.placeFor? id = some i) (hs : t.get? j = some s)
    (hid : s.bufferId = some id) : ∃ u, t.get? i = some u ∧ u.bufferId = some id := by
  rcases placeFor?_cases h with h | ⟨h, -⟩
  · exact get?_indexOf? h
  · exact absurd hid (bufferId_of_indexOf?_eq_none h hs)

/-- In an emptied table a buffer goes to the first slot. -/
theorem placeFor?_ofCapacity (n : Nat) (id : BufferId) :
    (ofCapacity n).placeFor? id = if 0 < n then some 0 else none := by
  cases n with
  | zero => rfl
  | succ n =>
    have hnone : (ofCapacity (n + 1)).indexOf? id = none := by
      refine List.findIdx?_eq_none_iff.mpr fun s hs => ?_
      rw [(List.mem_replicate.mp hs).2]
      rfl
    rw [placeFor?, hnone, if_pos n.succ_pos]
    rfl

/-! ## One slot among all -/

/-- A list made element by element, to which element `i` alone adds. -/
theorem flatMap_eq_of_only {α β : Type} {l : List α} {f : α → List β} {i : Nat}
    (h : ∀ j x, l[j]? = some x → j ≠ i → f x = []) : l.flatMap f = (l[i]?.map f).getD [] := by
  induction l generalizing i with
  | nil => rfl
  | cons x l ih =>
    cases i with
    | zero =>
      have hl : l.flatMap f = [] := List.flatMap_eq_nil_iff.mpr fun y hy => by
        obtain ⟨j, hj⟩ := List.mem_iff_getElem?.mp hy
        exact h (j + 1) y hj (Nat.succ_ne_zero j)
      simp [hl]
    | succ i =>
      have hx : f x = [] := h 0 x rfl (Nat.succ_ne_zero i).symm
      rw [List.flatMap_cons, hx, List.nil_append, List.getElem?_cons_succ]
      exact ih fun j y hy hj => h (j + 1) y hy fun e => hj (Nat.succ.inj e)

theorem countP_le_one {α : Type} {l : List α} {P : α → Bool}
    (h : ∀ (i j : Nat) (x y : α), l[i]? = some x → l[j]? = some y → P x = true → P y = true →
      i = j) : l.countP P ≤ 1 := by
  induction l with
  | nil => exact Nat.zero_le 1
  | cons x l ih =>
    rw [List.countP_cons]
    split
    · rename_i hx
      have hl : l.countP P = 0 := List.countP_eq_zero.mpr fun y hy hPy => by
        obtain ⟨j, hj⟩ := List.mem_iff_getElem?.mp hy
        cases h 0 (j + 1) x y rfl hj hx hPy
      omega
    · exact ih fun i j y z hy hz hPy hPz => Nat.succ.inj (h (i + 1) (j + 1) y z hy hz hPy hPz)

/-- A list made slot by slot, to which slot `i` alone adds. -/
theorem flatMap_slots {β : Type} {f : Slot → List β} (hi : t.get? i = some s)
    (h : ∀ j u, t.get? j = some u → j ≠ i → f u = []) : t.slots.flatMap f = f s := by
  have hi' : t.slots[i]? = some s := hi
  rw [flatMap_eq_of_only h, hi']
  rfl

/-- A list made slot by slot, to which no slot adds. -/
theorem flatMap_slots_nil {β : Type} {f : Slot → List β} (h : ∀ j u, t.get? j = some u → f u = []) :
    t.slots.flatMap f = [] :=
  List.flatMap_eq_nil_iff.mpr fun _ hs => by
    obtain ⟨j, hj⟩ := mem_slots_iff.mp hs
    exact h j _ hj

end Swapchain.SlotTable
