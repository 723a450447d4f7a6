import Mathlib.Data.List.Forall2
import Swapchain.Proofs.Operations

/-!
# Slots that differ in their numbers only

The presents and the epochs of a pool are numbered from its creation on. Those numbers are only
ever compared with each other, so it does not matter where the count starts. `Slot.Shifted k e`
relates slots that count the presents from `k` and the epochs from `e` later. A number that stands
for nothing stays out of it: that of a present while nothing is known of the pixels, that of an
epoch while there is no surface. So the zeros of an empty slot are related to themselves.

* `Slot.Shifted.staler`, `Slot.Shifted.age`, `Slot.Shifted.caches`: the three comparisons;
* `SlotTable.Shifted.placeFor?`: a buffer goes to the same place of either table.
-/

namespace Swapchain

/-! ## Lists and options element by element -/

section
variable {α β γ : Type} {R : α → β → Prop} {xs : List α} {ys : List β}
  (h : List.Forall₂ R xs ys)
include h

theorem forall₂_getElem? (i : Nat) : Option.Rel R xs[i]? ys[i]? := by
  induction h generalizing i with
  | nil => exact .none
  | cons hx _ ih =>
    cases i with
    | zero => exact .some hx
    | succ i => exact ih i

theorem forall₂_modify (i : Nat) {f : α → α} {g : β → β} (hf : ∀ x y, R x y → R (f x) (g y)) :
    List.Forall₂ R (xs.modify i f) (ys.modify i g) := by
  induction h generalizing i with
  | nil => simp
  | cons hx hxs ih =>
    cases i with
    | zero => exact .cons (hf _ _ hx) hxs
    | succ i => exact .cons hx (ih i)

theorem forall₂_zipIdx (n : Nat) :
    List.Forall₂ (fun x y => R x.1 y.1 ∧ y.2 = x.2) (xs.zipIdx n) (ys.zipIdx n) := by
  induction h generalizing n with
  | nil => exact .nil
  | cons hx _ ih => exact .cons ⟨hx, rfl⟩ (ih (n + 1))

theorem map_eq_of_forall₂ {f : α → γ} {g : β → γ} (hf : ∀ x y, R x y → g y = f x) :
    ys.map g = xs.map f := by
  induction h with
  | nil => rfl
  | cons hx _ ih => rw [List.map_cons, List.map_cons, hf _ _ hx, ih]

omit h in
theorem rel_cases {x : Option α} {y : Option β} (h : Option.Rel R x y) :
    x = none ∧ y = none ∨ ∃ a b, x = some a ∧ y = some b ∧ R a b := by
  cases h with
  | none => exact .inl ⟨rfl, rfl⟩
  | some hab => exact .inr ⟨_, _, rfl, rfl, hab⟩

end

variable {k e : Int}

/-! ## One slot -/

namespace Slot

/-- A slot without the numbers of its present and of its epoch. -/
def unnumbered (s : Slot) : Slot := { s with lastShown := 0, epoch := 0 }

/-- The slot with its present numbered `k` later and its epoch `e` later. Without known pixels
there is no present, and without a surface no epoch. -/
inductive Shifted (k e : Int) (s : Slot) : Slot → Prop where
  | renumbered {lastShown epoch : Nat}
      (hk : (lastShown : Int) = s.lastShown + if s.valid then k else 0)
      (he : s.surface.isSome = true → (epoch : Int) = s.epoch + e) :
    Shifted k e s { s with lastShown, epoch }

theorem shifted_empty : Shifted k e empty empty := .renumbered rfl nofun

namespace Shifted

variable {s s' u u' : Slot}

theorem unnumbered (h : s.Shifted k e s') : s'.unnumbered = s.unnumbered := by
  cases h
  rfl

theorem buffer (h : s.Shifted k e s') : s'.buffer = s.buffer := by
  cases h
  rfl

theorem fence (h : s.Shifted k e s') : s'.fence = s.fence := by
  cases h
  rfl

/-- A buffer wrapped in epochs that are `e` apart. -/
theorem hold (h : s.Shifted k e s') (b : Buffer) (v : Surface) {m n : Nat}
    (hn : (n : Int) = m + e) : (s.hold b v m).Shifted k e (s'.hold b v n) := by
  cases h
  exact .renumbered rfl fun _ => hn

theorem renew (h : s.Shifted k e s') (b : Buffer) : (s.renew b).Shifted k e (s'.renew b) := by
  cases h with
  | renumbered hk he => exact .renumbered hk he

theorem start (h : s.Shifted k e s') (f : Option Fence) :
    (s.start f).Shifted k e (s'.start f) := by
  cases h with
  | renumbered hk he => exact .renumbered hk he

theorem finish (h : s.Shifted k e s') : s.finish.Shifted k e s'.finish := by
  cases h with
  | renumbered hk he => exact .renumbered hk he

/-- Presents whose numbers are `k` apart. -/
theorem shown (h : s.Shifted k e s') {m n : Nat} (hn : (n : Int) = m + k) :
    (s.shown m).Shifted k e (s'.shown n) := by
  cases h with
  | renumbered _ he => exact .renumbered hn he

theorem takeFence (h : s.Shifted k e s') : s.takeFence.Shifted k e s'.takeFence := by
  cases h with
  | renumbered hk he => exact .renumbered hk he

theorem draw (h : s.Shifted k e s') : s.draw.Shifted k e s'.draw := by
  cases h with
  | renumbered hk he => exact .renumbered hk (by simpa [Slot.draw] using he)

/-- Which of two slots is the staler one does not depend on where the count starts: among known
pixels both numbers are shifted, among unknown ones neither is. -/
theorem staler (h : s.Shifted k e s') (h' : u.Shifted k e u') : s'.staler u' = s.staler u := by
  cases h with
  | @renumbered m _ hm =>
    cases h' with
    | @renumbered n _ hn =>
      show (if s.valid = u.valid then decide (m < n) else u.valid) = s.staler u
      unfold Slot.staler
      split
      · rename_i hv
        rw [hv] at hm
        exact decide_eq_decide.mpr (by omega)
      · rfl

/-- The age of the pixels does not depend on where the presents are counted from. -/
theorem age (h : s.Shifted k e s') {m n : Nat} (hn : (n : Int) = m + k) :
    (if s'.isActive && s'.valid then some (n - s'.lastShown) else none) =
      if s.isActive && s.valid then some (m - s.lastShown) else none := by
  cases h with
  | @renumbered l _ hl =>
    show (if s.isActive && s.valid then some (n - l) else none) = _
    split
    · rename_i hs
      rw [if_pos (Bool.and_eq_true _ _ ▸ hs).2] at hl
      congr 1
      omega
    · rfl

/-- A surface is of the current epoch or not, wherever the epochs are counted from. -/
theorem caches (h : s.Shifted k e s') (id : BufferId) {m n : Nat} (hn : (n : Int) = m + e) :
    (s'.bufferId == some id && s'.surface.isSome && s'.epoch == n) =
      (s.bufferId == some id && s.surface.isSome && s.epoch == m) := by
  cases h with
  | @renumbered _ l _ he =>
    show (s.bufferId == some id && s.surface.isSome && l == n) = _
    cases hs : s.surface.isSome with
    | false => rw [Bool.and_false, Bool.false_and, Bool.false_and]
    | true =>
      have := he hs
      congr 1
      rw [Bool.eq_iff_iff, beq_iff_eq, beq_iff_eq]
      omega

theorem disposal (h : s.Shifted k e s') (a : Answers) :
    Pool.disposal a s' = Pool.disposal a s := by
  cases h
  rfl

end Shifted
end Slot

/-! ## The table -/

namespace SlotTable

variable {t u : SlotTable}

/-- Slot by slot. -/
def Shifted (k e : Int) (t u : SlotTable) : Prop :=
  List.Forall₂ (Slot.Shifted k e) t.slots u.slots

theorem shifted_ofCapacity (n : Nat) : (ofCapacity n).Shifted k e (ofCapacity n) :=
  List.forall₂_same.mpr fun _ hs => (List.mem_replicate.mp hs).2 ▸ Slot.shifted_empty

/-- The slots of the search for the stalest one, with their indices. -/
theorem stalest_shifted {xs ys : List (Slot × Nat)}
    (h : List.Forall₂ (fun x y => x.1.Shifted k e y.1 ∧ y.2 = x.2) xs ys) :
    Option.Rel (fun x y => x.1.Shifted k e y.1 ∧ y.2 = x.2) (stalest xs) (stalest ys) := by
  induction h with
  | nil => exact .none
  | cons hxy _ ih =>
    unfold stalest
    rcases rel_cases ih with ⟨hz, hw⟩ | ⟨z, w, hz, hw, hzw⟩
    · rw [hz, hw]
      exact .some hxy
    · rw [hz, hw]
      dsimp only
      rw [hzw.1.staler hxy.1]
      split
      · exact .some hzw
      · exact .some hxy

namespace Shifted

variable (h : t.Shifted k e u)
include h

theorem capacity : u.capacity = t.capacity := (List.Forall₂.length_eq h).symm

theorem get? (i : Nat) : Option.Rel (Slot.Shifted k e) (t.get? i) (u.get? i) :=
  forall₂_getElem? h i

/-- Changes of a slot that respect the shift. -/
theorem modify (i : Nat) {f g : Slot → Slot}
    (hf : ∀ s s', s.Shifted k e s' → (f s).Shifted k e (g s')) :
    (t.modify i f).Shifted k e (u.modify i g) :=
  forall₂_modify h i hf

theorem releaseIdle : t.releaseIdle.Shifted k e u.releaseIdle := by
  refine List.rel_map (fun s s' hs => ?_) h
  cases hs with
  | renumbered hk he =>
    dsimp only
    split
    · exact .renumbered hk he
    · exact Slot.shifted_empty

theorem releaseAll : t.releaseAll.Shifted k e u.releaseAll := by
  unfold SlotTable.releaseAll
  rw [capacity h]
  exact shifted_ofCapacity _

/-- A view of slots that does not depend on their numbers. -/
theorem map_eq {β : Type} {f : Slot → β} (hf : ∀ s s', s.Shifted k e s' → f s' = f s) :
    u.slots.map f = t.slots.map f :=
  map_eq_of_forall₂ h hf

/-- A search that does not depend on the numbers. -/
theorem findIdx? {f : Slot → Bool} (hf : ∀ s s', s.Shifted k e s' → f s' = f s) :
    u.slots.findIdx? f = t.slots.findIdx? f := by
  have hmap : (u.slots.map f).findIdx? id = (t.slots.map f).findIdx? id := by rw [map_eq h hf]
  simpa [List.findIdx?_map] using hmap

theorem stalestIdle? : u.stalestIdle? = t.stalestIdle? := by
  have hidle := List.rel_filter (p := fun x : Slot × Nat => !x.1.dequeued)
    (q := fun x : Slot × Nat => !x.1.dequeued)
    (fun ⟨_, _⟩ ⟨_, _⟩ ⟨hs, _⟩ => by cases hs; rfl) (forall₂_zipIdx h 0)
  unfold SlotTable.stalestIdle?
  rcases rel_cases (stalest_shifted hidle) with ⟨hx, hy⟩ | ⟨x, y, hx, hy, hxy⟩
  · rw [hx, hy]
  · rw [hx, hy]
    exact congrArg some hxy.2

/-- A buffer goes to the same place. -/
theorem placeFor? (id : BufferId) : u.placeFor? id = t.placeFor? id := by
  have hindex : u.indexOf? id = t.indexOf? id := findIdx? h fun s s' hs => by
    cases hs
    rfl
  have hfree : u.firstFree? = t.firstFree? := findIdx? h fun s s' hs => by
    cases hs
    rfl
  rw [SlotTable.placeFor?, SlotTable.placeFor?, hindex, hfree, stalestIdle? h]

end Shifted
end SlotTable

end Swapchain
