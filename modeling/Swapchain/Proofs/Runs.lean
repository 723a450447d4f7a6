import Mathlib.Data.UInt
import Swapchain.Proofs.Operations

/-!
# Runs of a pool

A run of a pool is its creation and then any operations in any order, whatever the window, the
GPU and the system answer. `Reachable` is every pool that a run leaves. A statement about runs
with their traces is one about `Pool.performAll`, from a pool that was created.

* `create_eq_ok`: what a creation that succeeds was told, asked and made;
* `toNat_bufferCount`: how many buffers there are, as a number;
* `Reachable.performAll`: more operations reach nothing new;
* `Pool.currentId_eq_none_iff` and the like: what the views of a pool say.
-/

namespace Swapchain

theorem toNat_bufferCount (m : WindowProfile) (requested : UInt64) :
    (m.bufferCount requested).toNat = max (min requested.toNat m.maxCount.toNat) 1 := by
  unfold WindowProfile.bufferCount
  rw [UInt64.toNat_max, UInt64.toNat_min]
  rfl

namespace Pool

variable {p : Pool}

/-! ## Creation -/

/-- A creation that succeeds has asked the window and the GPU and pushed the first layout. -/
theorem create_eq_ok {query : Answer WindowProfile} {gpu : GpuLimits} {configured : Answer Unit}
    {color : ColorSetup} {settings : Settings}
    (h : (create query gpu configured color settings).result = .ok p) :
    ∃ m dataspace requested, query = .given m ∧ color.dataspace? = some dataspace ∧
      m.requestedCount settings = .ok requested ∧ configured = .given () ∧
      p = ofLayout m gpu.maxDimension color
        (firstLayout m color.type.pixelFormat dataspace (m.bufferCount requested)) ∧
      p.layout.physicalSize.isEmpty = false ∧
      (create query gpu configured color settings).trace.acts =
        [.call (.query (.given m)),
          .call (.supportedUsage color.type.pixelFormat
            (gpu.supportedUsage color.type.pixelFormat)),
          .call (.configure p.layout.bufferRequest (.given ()))] := by
  unfold create at h ⊢
  cases query with
  | refused e => cases h
  | given m =>
    cases hd : color.dataspace? with
    | none => simp [hd] at h
    | some dataspace =>
      simp only [hd] at h ⊢
      split at h
      · cases h
      rename_i hu
      cases hr : m.requestedCount settings with
      | error e => simp [hr] at h
      | ok requested =>
        simp only [hr, configure, pushLayout] at h
        split at h
        · cases h
        rename_i he
        cases configured with
        | refused e => simp at h
        | given u =>
          simp only [Except.ok.injEq] at h
          subst h
          refine ⟨m, dataspace, requested, rfl, rfl, hr, rfl, rfl, by simpa using he, ?_⟩
          simp [hu, configure, pushLayout, he]

/-! ## Reachable pools -/

/-- The pools that a run leaves. -/
inductive Reachable : Pool → Prop where
  | created {query : Answer WindowProfile} {gpu : GpuLimits} {configured : Answer Unit}
      {color : ColorSetup} {settings : Settings} {p : Pool} :
      (create query gpu configured color settings).result = .ok p → Reachable p
  | performed {p : Pool} (o : Operation) : Reachable p → Reachable (p.perform o).pool

@[simp] theorem performAll_nil (p : Pool) : p.performAll [] = (p, []) := rfl

@[simp] theorem performAll_cons (p : Pool) (o : Operation) (os : List Operation) :
    p.performAll (o :: os) = (((p.perform o).pool.performAll os).1,
      (p.perform o).trace ++ ((p.perform o).pool.performAll os).2) := rfl

theorem performAll_append (p : Pool) (os us : List Operation) :
    p.performAll (os ++ us) = (((p.performAll os).1.performAll us).1,
      (p.performAll os).2 ++ ((p.performAll os).1.performAll us).2) := by
  induction os generalizing p with
  | nil => rfl
  | cons o os ih => simp [ih]

theorem acts_performAll_cons (p : Pool) (o : Operation) (os : List Operation) :
    (p.performAll (o :: os)).2.acts =
      (p.perform o).acts ++ ((p.perform o).pool.performAll os).2.acts :=
  Trace.acts_append ..

theorem acts_performAll_singleton (p : Pool) (o : Operation) :
    (p.performAll [o]).2.acts = (p.perform o).acts :=
  (acts_performAll_cons p o []).trans (List.append_nil _)

theorem acts_performAll_append (p : Pool) (os us : List Operation) :
    (p.performAll (os ++ us)).2.acts =
      (p.performAll os).2.acts ++ ((p.performAll os).1.performAll us).2.acts := by
  rw [performAll_append, Trace.acts_append]

theorem Reachable.performAll (h : Reachable p) (os : List Operation) :
    Reachable (p.performAll os).1 := by
  induction os generalizing p with
  | nil => exact h
  | cons o os ih => exact ih (h.performed o)

/-! ## Views -/

theorem current?_eq_some_iff {c : Current} : p.current? = some c ↔
    p.current = some c.index ∧ p.slots.get? c.index = some c.slot ∧
      c.slot.buffer = some c.buffer := by
  obtain ⟨i, s, b⟩ := c
  simp only [current?, bind, Option.bind_eq_some_iff, pure, Option.some.injEq, Current.mk.injEq]
  constructor
  · rintro ⟨_, hi, _, hs, _, hb, rfl, rfl, rfl⟩
    exact ⟨hi, hs, hb⟩
  · rintro ⟨hi, hs, hb⟩
    exact ⟨_, hi, _, hs, _, hb, rfl, rfl, rfl⟩

theorem bufferId_of_current? {c : Current} (hc : p.current? = some c) :
    c.slot.bufferId = some c.buffer.id :=
  congrArg (Option.map Buffer.id) (current?_eq_some_iff.mp hc).2.2

theorem currentId_of_current? {c : Current} (hc : p.current? = some c) :
    p.currentId = some c.buffer.id := by
  rw [currentId, hc]
  rfl

/-- A buffer that has been put into its place is current. -/
theorem current?_takeInto {i : Nat} {s : Slot} {b : Buffer} {change : Slot → Slot}
    (f : Option Fence) (hs : p.slots.get? i = some s) (hb : (change s).buffer = some b) :
    (p.takeInto i change f).current? = some ⟨i, (change s).start f, b⟩ := by
  refine current?_eq_some_iff.mpr ⟨rfl, ?_, hb⟩
  have hget : (p.slots.get? i).map (fun s => (change s).start f) = some ((change s).start f) := by
    rw [hs]
    rfl
  simpa [takeInto, SlotTable.get?, SlotTable.modify] using hget

theorem currentId_eq_none_iff : p.currentId = none ↔ p.current? = none := by
  simp [currentId]

end Pool

/-! ## A plain run

A window that takes any size up to 4096 pixels both ways and keeps one of three buffers. -/

/-- The profile of a plain window. -/
def WindowProfile.plain : WindowProfile where
  defaultSize := ⟨640, 480⟩
  minSize := .square 1
  maxSize := .square 4096
  transformHint := ⟨0⟩
  minUndequeued := 1
  maxCount := 8

/-- The limits of a plain GPU. -/
def GpuLimits.plain : GpuLimits where
  maxDimension := 4096
  supportedUsage _ := .renderTarget

/-- A colour setup that any window has. -/
def ColorSetup.plain : ColorSetup := ⟨.standard, .rgba8888, .srgb⟩

/-- A buffer of a plain window, by its identity and its handle. -/
def Buffer.plain (id : UInt64) (handle : Nat) : Buffer := ⟨⟨id⟩, ⟨640, 480⟩, handle⟩

/-- A window with a buffer and a GPU that refuse nothing; the transform stays. -/
def Answers.giving (b : Buffer) (fence : Option Fence) : Answers where
  hint := .given ⟨0⟩
  configure := .given ()
  dequeue := .given (b, fence)
  queue := .given ()
  cancel := .given ()
  wrap := .given 1
  duplicate := .given ()

/-- The pool of a plain window. -/
def Pool.plain : Pool :=
  ofLayout .plain 4096 .plain (firstLayout .plain .rgba8888 .srgb 3)

theorem Pool.create_plain :
    (create (.given .plain) .plain (.given ()) .plain .builtin).result = .ok plain := rfl

theorem Pool.reachable_plain : Reachable plain := .created create_plain

end Swapchain
