import Swapchain.Proofs.Numbering
import Swapchain.Proofs.Stages

/-!
# Where a buffer goes

A buffer of the present size goes to the slot that has it, else to the first free one, else to one
whose contents are given up: the first that has not been shown since it was wrapped, and if there
is none the oldest. `Takes` says so in terms of the history and of the ages. The program searches
for the least of the slots in an order on what is known of their pixels and on the numbers of their
presents. That comes to the same because a slot with a buffer has known pixels exactly if it has
been shown since, and because known pixels have different numbers.

* `SlotTable.stalestIdle?_spec`: what the search finds, the first of the least;
* `Pool.Life.valid_iff`: known pixels, read off the history;
* `Pool.Takes.unique`, `Pool.Life.takes`: the policy names one slot, and it is the place;
* `Pool.evicts_oldest`: what a dequeue without a change of geometry does to the table.
-/

namespace Swapchain

/-! ## The stalest slot -/

namespace Slot

variable {s t u : Slot}

theorem not_staler_of_staler (h : s.staler t = true) : t.staler s = false := by
  unfold staler at *
  grind

theorem not_staler_self (s : Slot) : s.staler s = false := by
  simp [staler]

/-- What is staler than one slot is staler than any other that is not. -/
theorem staler_of_not_staler (h : s.staler t = true) (h' : u.staler t = false) :
    s.staler u = true := by
  unfold staler at *
  grind

/-- What is not staler than a slot of known pixels has known pixels, and no smaller number. -/
theorem valid_of_not_staler (h : t.staler s = false) (hs : s.valid = true) :
    t.valid = true ∧ s.lastShown ≤ t.lastShown := by
  unfold staler at h
  grind

/-- What is less stale than some slot has known pixels, or a number. -/
theorem valid_of_staler (h : s.staler t = true) : t.valid = true ∨ 1 ≤ t.lastShown := by
  unfold staler at h
  grind

end Slot

namespace SlotTable

variable {t : SlotTable} {i j : Nat} {s u : Slot} {id : BufferId}

/-- The stalest slot is staler than those before it, and no slot is staler than it. -/
theorem stalest_split {xs : List (Slot × Nat)} {y : Slot × Nat} (h : stalest xs = some y) :
    ∃ pre post, xs = pre ++ y :: post ∧ (∀ x ∈ pre, y.1.staler x.1 = true) ∧
      ∀ x ∈ xs, x.1.staler y.1 = false := by
  induction xs generalizing y with
  | nil => cases h
  | cons x xs ih =>
    simp only [stalest] at h
    cases hz : stalest xs with
    | none =>
      -- Only an empty rest has no stalest slot.
      have hnil : xs = [] := List.eq_nil_iff_forall_not_mem.mpr fun z hmem => by
        obtain ⟨y, hy⟩ := exists_stalest hmem
        cases hz.symm.trans hy
      rw [hz] at h
      cases h
      exact ⟨[], xs, rfl, List.forall_mem_nil _, by simp [hnil, Slot.not_staler_self]⟩
    | some z =>
      obtain ⟨pre, post, hxs, hpre, hnone⟩ := ih hz
      rw [hz] at h
      cases hzx : z.1.staler x.1 with
      | true =>
        obtain rfl : z = y := by simpa [hzx] using h
        exact ⟨x :: pre, post, congrArg (x :: ·) hxs, List.forall_mem_cons.mpr ⟨hzx, hpre⟩,
          List.forall_mem_cons.mpr ⟨Slot.not_staler_of_staler hzx, hnone⟩⟩
      | false =>
        obtain rfl : x = y := by simpa [hzx] using h
        refine ⟨[], xs, rfl, List.forall_mem_nil _, List.forall_mem_cons.mpr
          ⟨Slot.not_staler_self _, fun w hw => eq_false_of_ne_true fun hwx => ?_⟩⟩
        cases (hnone w hw).symm.trans (Slot.staler_of_not_staler hwx hzx)

theorem getElem?_zipIdx_slots (t : SlotTable) (j : Nat) :
    t.slots.zipIdx[j]? = (t.get? j).map fun s => (s, j) := by
  simp [get?, List.getElem?_zipIdx]

/-- While nothing is dequeued the stalest slot is staler than those before it, and no slot is staler
than it. -/
theorem stalestIdle?_spec (hidle : t.Idle) (h : t.stalestIdle? = some i) :
    ∃ s, t.get? i = some s ∧ (∀ j u, j < i → t.get? j = some u → s.staler u = true) ∧
      ∀ j u, t.get? j = some u → u.staler s = false := by
  have hall : (t.slots.zipIdx.filter fun x => !x.1.dequeued) = t.slots.zipIdx :=
    List.filter_eq_self.mpr fun x hx => by
      simp [hidle (List.mem_zipIdx_iff_getElem?.mp hx)]
  obtain ⟨⟨s, k⟩, hy, rfl⟩ := Option.map_eq_some_iff.mp h
  rw [hall] at hy
  obtain ⟨pre, post, hsplit, hpre, hnone⟩ := stalest_split hy
  have hget : ∀ j, (pre ++ (s, k) :: post)[j]? = (t.get? j).map fun u => (u, j) := fun j => by
    rw [← hsplit, getElem?_zipIdx_slots]
  -- Each slot stands in the list at its own index, so the stalest one at the end of `pre`.
  have hself : (pre ++ (s, k) :: post)[pre.length]? = some (s, k) := by simp
  rw [hget, Option.map_eq_some_iff] at hself
  obtain ⟨u, hs, hu⟩ := hself
  cases hu
  refine ⟨s, hs, fun j v hj hv => ?_, fun j v hv => ?_⟩
  · have hmem := hget j
    rw [hv, List.getElem?_append_left hj] at hmem
    exact hpre (v, j) (List.mem_of_getElem? hmem)
  · exact hnone (v, j) (List.mem_zipIdx_iff_getElem?.mpr hv)

/-! ## The first free slot -/

theorem isActive_of_lt_firstFree? (h : t.firstFree? = some i) (hj : j < i)
    (hs : t.get? j = some s) : s.isActive = true := by
  obtain ⟨_, _, hbefore⟩ := List.findIdx?_eq_some_iff_getElem.mp h
  obtain ⟨hlt, rfl⟩ := List.getElem?_eq_some_iff.mp hs
  simpa using hbefore j hj

theorem isActive_of_firstFree?_eq_none (h : t.firstFree? = none) (hs : t.get? j = some s) :
    s.isActive = true := by
  simpa using List.findIdx?_eq_none_iff.mp h s (mem_slots_iff.mpr ⟨j, hs⟩)

end SlotTable

/-! ## Shown since it was wrapped -/

/-- Whether a buffer has been wrapped into slot `i`. -/
def Deed.wrapsInto (i : Nat) : Deed → Bool
  | obtained j _ (some _) => j == i
  | _ => false

namespace Pool

variable {p₀ p q : Pool} {a : Answers} {t : Trace} {h : List Deed} {d : Deed} {n : UInt32}
variable {i j k : Nat} {s u : Slot} {b : Buffer} {f : Option Fence} {id : BufferId}

/-- Slot `i` has been shown since a buffer was last wrapped into it. -/
def ShownSinceWrapped (h : List Deed) (i : Nat) : Prop :=
  ∃ pre id post, h = pre ++ .shown i id :: post ∧ ∀ e ∈ post, e.wrapsInto i = false

theorem shownSinceWrapped_concat : ShownSinceWrapped (h ++ [d]) i ↔
    (∃ id, d = .shown i id) ∨ d.wrapsInto i = false ∧ ShownSinceWrapped h i := by
  constructor
  · rintro ⟨pre, id, post, hs⟩
    rcases split_concat (Q := fun post => ∀ e ∈ post, e.wrapsInto i = false).mp
      ⟨pre, post, hs⟩ with ⟨hd, -⟩ | ⟨pre, post, hh, hpost⟩
    · exact .inl ⟨id, hd⟩
    · obtain ⟨hpost, hd⟩ := List.forall_mem_append.mp hpost
      exact .inr ⟨hd d List.mem_cons_self, pre, id, post, hh, hpost⟩
  · rintro (⟨id, rfl⟩ | ⟨hd, pre, id, post, rfl, hpost⟩)
    · exact ⟨h, id, [], rfl, List.forall_mem_nil _⟩
    · refine ⟨pre, id, post ++ [d], by simp, ?_⟩
      exact List.forall_mem_append.mpr ⟨hpost, by simpa using hd⟩

/-- A deed that is not about slot `i`. -/
theorem shownSinceWrapped_other (hd : d.index? ≠ some i) :
    ShownSinceWrapped (h ++ [d]) i ↔ ShownSinceWrapped h i := by
  have hw : d.wrapsInto i = false := by
    cases d with
    | obtained j b u => cases u <;> simp_all [Deed.index?, Deed.wrapsInto]
    | configured | adopted | shown | released => rfl
  rw [shownSinceWrapped_concat, hw]
  refine ⟨?_, fun hs => .inr ⟨rfl, hs⟩⟩
  rintro (⟨id, rfl⟩ | ⟨-, hs⟩)
  · exact absurd rfl hd
  · exact hs

/-- What is known of the pixels of a slot with a buffer says whether it has been shown. -/
theorem Life.valid_iff (hp : Life p₀ h p) (hs : p.slots.get? i = some s)
    (ha : s.isActive = true) : s.valid = true ↔ ShownSinceWrapped h i := by
  induction hp generalizing i s with
  | created hp =>
    obtain ⟨m, dataspace, requested, -, -, -, -, rfl, -⟩ := create_eq_ok hp
    rw [SlotTable.eq_empty_of_get?_ofCapacity hs] at ha
    cases ha
  | @moved h d p q hp hm _ ih =>
    rcases hm.becomes hs with rfl | ⟨-, hb⟩
    · cases ha
    · cases hb with
      | @alike _ s₀ _ hs₀ hal hne =>
        have hih := ih hs₀ (by rw [Slot.isActive, ← hal.buffer]; exact ha)
        rw [hal.valid, hih]
        cases d with
        | none => simp
        | some e => exact (shownSinceWrapped_other (hne e rfl)).symm
      | @renewed s₀ b f hs₀ hid =>
        rw [Option.toList_some, shownSinceWrapped_concat,
          ← ih hs₀ (Slot.isActive_of_bufferId hid)]
        simp [Deed.wrapsInto, Slot.renew, Slot.start]
      | wrapped s₀ f serial =>
        rw [Option.toList_some, shownSinceWrapped_concat]
        simp [Deed.wrapsInto, Slot.hold, Slot.start]
      | @shown s₀ b hs₀ hb =>
        rw [Option.toList_some, shownSinceWrapped_concat]
        simp [Slot.shown]

/-! ## The policy -/

/-- Slot `i` has a buffer. -/
def Has (p : Pool) (i : Nat) (id : BufferId) : Prop :=
  ∃ s, p.slots.get? i = some s ∧ s.bufferId = some id

/-- Slot `i` has no buffer. -/
def Free (p : Pool) (i : Nat) : Prop := ∃ s, p.slots.get? i = some s ∧ s.isActive = false

/-- The slot to which a buffer goes in an idle pool after the deeds of `h`. -/
inductive Takes (h : List Deed) (p : Pool) (id : BufferId) (i : Nat) : Prop where
  /-- The one slot that has the buffer. -/
  | own (hi : p.Has i id) (honly : ∀ j, p.Has j id → j = i)
  /-- The first free slot. -/
  | free (hnew : ∀ j, ¬ p.Has j id) (hi : p.Free i) (hfirst : ∀ j, j < i → ¬ p.Free j)
  /-- The first slot that has not been shown since it was wrapped. -/
  | unshown (hnew : ∀ j, ¬ p.Has j id) (hfull : ∀ j, ¬ p.Free j) (hi : i < p.slots.capacity)
      (hun : ¬ ShownSinceWrapped h i) (hfirst : ∀ j, j < i → ShownSinceWrapped h j)
  /-- The one slot of the largest age. -/
  | oldest (hnew : ∀ j, ¬ p.Has j id) (hfull : ∀ j, ¬ p.Free j) (hi : i < p.slots.capacity)
      (hall : ∀ j, j < p.slots.capacity → ShownSinceWrapped h j)
      (hage : ∃ k, p.slotAge i = some k ∧
        ∀ j, j < p.slots.capacity → j ≠ i → ∃ m, p.slotAge j = some m ∧ m < k)

/-- The policy names one slot. -/
theorem Takes.unique (hi : p.Takes h id i) (hj : p.Takes h id j) : i = j := by
  cases hi with
  | own hi honly =>
    cases hj with
    | own hj => exact (honly j hj).symm
    | free hnew | unshown hnew | oldest hnew => exact absurd hi (hnew i)
  | free hnew hi hfirst =>
    cases hj with
    | own hj => exact absurd hj (hnew j)
    | free _ hj hfirst' =>
      rcases Nat.lt_trichotomy i j with hij | hij | hij
      · exact absurd hi (hfirst' i hij)
      · exact hij
      · exact absurd hj (hfirst j hij)
    | unshown _ hfull | oldest _ hfull => exact absurd hi (hfull i)
  | unshown hnew hfull hi hun hfirst =>
    cases hj with
    | own hj => exact absurd hj (hnew j)
    | free _ hj => exact absurd hj (hfull j)
    | unshown _ _ _ hun' hfirst' =>
      rcases Nat.lt_trichotomy i j with hij | hij | hij
      · exact absurd (hfirst' i hij) hun
      · exact hij
      · exact absurd (hfirst j hij) hun'
    | oldest _ _ _ hall => exact absurd (hall i hi) hun
  | oldest hnew hfull hi hall hage =>
    cases hj with
    | own hj => exact absurd hj (hnew j)
    | free _ hj => exact absurd hj (hfull j)
    | unshown _ _ hj hun => exact absurd (hall j hj) hun
    | oldest _ _ hj _ hage' =>
      obtain ⟨k, hk, hle⟩ := hage
      obtain ⟨k', hk', hle'⟩ := hage'
      refine Classical.byContradiction fun hij => ?_
      obtain ⟨m, hm, hmk⟩ := hle j hj (Ne.symm hij)
      obtain ⟨m', hm', hmk'⟩ := hle' i hi hij
      cases hm.symm.trans hk'
      cases hm'.symm.trans hk
      omega

/-- In a full table without the buffer, the stalest slot is one that has not been shown, or the
oldest. -/
theorem Life.takes_stalest (hp : Life p₀ h p) (hc : p.current = none)
    (hnew : ∀ j, ¬ p.Has j id) (hfull : ∀ j, ¬ p.Free j) (hi : p.slots.stalestIdle? = some i) :
    p.Takes h id i := by
  obtain ⟨s, hs, hbefore, hnone⟩ :=
    SlotTable.stalestIdle?_spec (hp.consistent.idle hc) hi
  have hactive : ∀ j u, p.slots.get? j = some u → u.isActive = true := fun j u hu =>
    eq_true_of_ne_false fun ha => hfull j ⟨u, hu, ha⟩
  have hvalid : ∀ j u, p.slots.get? j = some u → (u.valid = true ↔ ShownSinceWrapped h j) :=
    fun j u hu => hp.valid_iff hu (hactive j u hu)
  have hlt : i < p.slots.capacity := SlotTable.lt_capacity hs
  cases hv : s.valid with
  | false =>
    refine .unshown hnew hfull hlt (fun hw => ?_) fun j hj => ?_
    · cases hv.symm.trans ((hvalid i s hs).mpr hw)
    · obtain ⟨u, hu⟩ := SlotTable.get?_of_lt (Nat.lt_trans hj hlt)
      refine (hvalid j u hu).mp ?_
      rcases Slot.valid_of_staler (hbefore j u hj hu) with huv | hnum
      · exact huv
      · exact (hp.numbered.valid_iff j u hu).mpr hnum
  | true =>
    have hle := hp.recalls.lastShown_le
    have hage : ∀ j u, p.slots.get? j = some u → u.valid = true →
        p.slotAge j = some (p.presents - u.lastShown) := fun j u hu huv =>
      (slotAge_eq_some_iff hp.consistent hu (hle j u hu)).mpr
        ⟨huv, Nat.add_sub_cancel' (hle j u hu)⟩
    have hother : ∀ j u, p.slots.get? j = some u → u.valid = true ∧ s.lastShown ≤ u.lastShown :=
      fun j u hu => Slot.valid_of_not_staler (hnone j u hu) hv
    refine .oldest hnew hfull hlt (fun j hj => ?_) ⟨_, hage i s hs hv, fun j hj hji => ?_⟩
    · obtain ⟨u, hu⟩ := SlotTable.get?_of_lt hj
      exact (hvalid j u hu).mp (hother j u hu).1
    · obtain ⟨u, hu⟩ := SlotTable.get?_of_lt hj
      obtain ⟨huv, hsu⟩ := hother j u hu
      have hne : s.lastShown ≠ u.lastShown := fun heq =>
        hji (hp.numbered.distinct i j s u hs hu hv huv heq).symm
      have hsle := hle j u hu
      exact ⟨_, hage j u hu huv, by omega⟩

/-- The place of a buffer in an idle pool is the slot that the policy names. -/
theorem Life.takes (hp : Life p₀ h p) (hc : p.current = none)
    (hi : p.slots.placeFor? id = some i) : p.Takes h id i := by
  rcases SlotTable.placeFor?_cases hi with hown | ⟨hnone, hplace⟩
  · obtain ⟨s, hs, hid⟩ := SlotTable.get?_indexOf? hown
    exact .own ⟨s, hs, hid⟩ fun j ⟨u, hu, huid⟩ =>
      hp.consistent.distinct j i u s id hu hs huid hid
  · have hnew : ∀ j, ¬ p.Has j id := fun j ⟨u, hu, hid⟩ =>
      SlotTable.bufferId_of_indexOf?_eq_none hnone hu hid
    rcases hplace with hfree | ⟨hfree, hstale⟩
    · refine .free hnew (SlotTable.get?_firstFree? hfree) fun j hj ⟨u, hu, ha⟩ => ?_
      cases ha.symm.trans (SlotTable.isActive_of_lt_firstFree? hfree hj hu)
    · refine hp.takes_stalest hc hnew (fun j ⟨u, hu, ha⟩ => ?_) hstale
      cases ha.symm.trans (SlotTable.isActive_of_firstFree?_eq_none hfree hu)

/-- Without a change of geometry a buffer comes into its place, and all else stays. -/
theorem Dequeues.in_place (hd : Dequeues a p (.ok i) q t) (ht : ¬ p.Turns a)
    (hb : a.dequeue = .given (b, f)) (hsize : b.size = p.layout.physicalSize) :
    p.currentId = none ∧ p.slots.placeFor? b.id = some i ∧
      ∃ change, (∀ s : Slot, (change s).buffer = some b) ∧ q = p.takeInto i change f := by
  cases hd with
  | acquires hc hf ha =>
    cases hf with
    | turned hh hne => exact absurd ⟨_, hh, hne⟩ ht
    | stays =>
      obtain ⟨b', f', m, cs, hb', hm, hi, -, ho⟩ := ha.obtains
      cases hb.symm.trans hb'
      rcases adopt_cases hm with ⟨-, rfl⟩ | ⟨hne, -⟩
      · refine ⟨hc, hi, ?_⟩
        cases ho with
        | cached => exact ⟨_, fun _ => rfl, rfl⟩
        | wrapped => exact ⟨_, fun _ => rfl, rfl⟩
      · exact absurd hsize hne

/-! ## Every run -/

/-- After every run let the window hand out a buffer of the present size under the present
transform, and let the dequeue succeed. Then the slot is the one that the policy names: the slot
that has the buffer, else the first free one, else the first that has not been shown since it was
wrapped, else the oldest. It becomes current with the buffer, and no other slot changes. So no
buffer is lost from the table but one of this slot, and that only if no slot was free. -/
theorem evicts_oldest {query : Answer WindowProfile} {gpu : GpuLimits}
    {configured : Answer Unit} {color : ColorSetup} {settings : Settings}
    (h : (create query gpu configured color settings).result = .ok p) (os : List Operation) :
    let q := (p.performAll os).1
    ∀ a i b f, ¬ q.Turns a → a.dequeue = .given (b, f) → b.size = q.layout.physicalSize →
      (q.dequeue a).result = .ok i →
        let r := (q.dequeue a).pool
        (∀ j, q.Takes (p.past os) b.id j ↔ j = i) ∧ r.current = some i ∧ r.Has i b.id ∧
          (∀ j, j ≠ i → r.slots.get? j = q.slots.get? j) ∧
          ∀ j id, q.Has j id → ¬ r.Has j id → j = i ∧ ∀ k, ¬ q.Free k := by
  intro q a i b f ht hb hsize hr r
  have hlife : Life p (p.past os) q := Life.of_create h os
  have hd := dequeue_cases a hlife.consistent.rests
  rw [hr] at hd
  obtain ⟨hc, hi, change, hbuffer, hq⟩ := hd.in_place ht hb hsize
  have hr : r = q.takeInto i change f := hq
  have htakes := hlife.takes (hlife.consistent.current_eq_none hc) hi
  have hother : ∀ j, j ≠ i → r.slots.get? j = q.slots.get? j := fun j hj => by
    rw [hr]
    exact SlotTable.get?_modify_ne _ _ hj.symm
  obtain ⟨s, hs⟩ := SlotTable.get?_placeFor? hi
  have hself : r.slots.get? i = some ((change s).start f) := by
    rw [hr, takeInto, SlotTable.get?_modify_self, hs]
    rfl
  have hid : ((change s).start f).bufferId = some b.id :=
    congrArg (Option.map Buffer.id) (hbuffer s)
  refine ⟨fun j => ⟨fun hj => hj.unique htakes, fun hj => hj ▸ htakes⟩, by rw [hr]; rfl,
    ⟨_, hself, hid⟩, hother, fun j id hj hlost => ?_⟩
  have hji : j = i := Classical.byContradiction fun hne => hlost <| by
    obtain ⟨u, hu, huid⟩ := hj
    exact ⟨u, (hother j hne).trans hu, huid⟩
  subst hji
  refine ⟨rfl, ?_⟩
  cases htakes with
  | own hown =>
    -- The slot would have kept its buffer.
    obtain ⟨u, hu, huid⟩ := hj
    obtain ⟨v, hv, hvid⟩ := hown
    cases hu.symm.trans hv
    cases huid.symm.trans hvid
    exact absurd ⟨_, hself, hid⟩ hlost
  | free _ hfree =>
    obtain ⟨u, hu, huid⟩ := hj
    obtain ⟨v, hv, hva⟩ := hfree
    cases hu.symm.trans hv
    cases hva.symm.trans (Slot.isActive_of_bufferId huid)
  | unshown _ hfull | oldest _ hfull => exact hfull

/-- Buffers 7, 8 and 9 have been shown, and buffer 7 once more. A fourth buffer takes the slot of
buffer 8, and the other two stay. -/
theorem evicts_oldest_of_three :
    let frame (b : Buffer) : List Operation :=
      [.dequeue (.giving b none), .present (.giving b none) none none]
    let frames := frame (.plain 7 1) ++ frame (.plain 8 2) ++ frame (.plain 9 3) ++
      frame (.plain 7 4)
    let q := (plain.performAll frames).1
    let r := (q.dequeue (.giving (.plain 10 5) none)).pool
    (q.slotAge 0 = some 0 ∧ q.slotAge 1 = some 2 ∧ q.slotAge 2 = some 1) ∧
      (q.dequeue (.giving (.plain 10 5) none)).result = .ok 1 ∧
      q.Takes (plain.past frames) ⟨10⟩ 1 ∧ r.Has 1 ⟨10⟩ ∧
      r.slots.get? 0 = q.slots.get? 0 ∧ r.slots.get? 2 = q.slots.get? 2 := by
  intro frame frames q r
  have hr : (q.dequeue (.giving (.plain 10 5) none)).result = .ok 1 := by
    simp only [q, frames, frame]
    rfl
  obtain ⟨htakes, -, hhas, hother, -⟩ := evicts_oldest create_plain frames
    (.giving (.plain 10 5) none) 1 (.plain 10 5) none (not_turns (by decide)) rfl (by decide) hr
  exact ⟨by decide, hr, (htakes 1).mpr rfl, hhas, hother 0 (by decide), hother 2 (by decide)⟩

end Pool
end Swapchain
