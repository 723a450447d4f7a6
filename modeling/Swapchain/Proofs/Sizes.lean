import Swapchain.Proofs.Bounds
import Swapchain.Proofs.History

/-!
# Sizes

The geometry of a pool changes in three ways, with two ranges for the logical size. After every run
the physical size is nevertheless one that the GPU can draw to, and all that a slot holds is of
this size: a layout of another size comes into an empty table only.

* `Trace.sizes`: the sizes that are asked for in a trace;
* `Pool.Sized`: what holds of the sizes of a pool, `Life.sized` for every life;
* `Pool.sizes_agree`: the sizes of every run and of every call.
-/

namespace Swapchain

/-- A size that a GPU with this largest dimension can draw to. -/
def Extent.Drawable (n : UInt32) (s : Extent) : Prop := square 1 ≤ s ∧ s ≤ square n

/-- The size that is asked for in a call. -/
def Call.size? : Call → Option Extent
  | .configure request _ => some request.size
  | .wrap _ spec _ => some spec.size
  | _ => none

namespace Trace

/-- The sizes that are asked for in a trace. -/
def sizes (t : Trace) : List Extent := t.calls.filterMap Call.size?

@[simp] theorem sizes_append (t u : Trace) : sizes (t ++ u) = sizes t ++ sizes u := by
  simp [sizes]

theorem sizes_acts (t : Trace) : t.acts.sizes = t.sizes := by
  rw [sizes, calls_acts, sizes]

theorem sizes_ofRecords (rs : List Log.Record) : sizes (ofRecords rs) = [] := by
  rw [← sizes_acts, acts_ofRecords]
  rfl

end Trace

/-- What a slot holds is of a description. -/
structure Slot.Fits (spec : SurfaceSpec) (s : Slot) : Prop where
  size : ∀ b, s.buffer = some b → b.size = spec.size
  surface : ∀ u, s.surface = some u → u.spec = spec ∧ s.bufferId = some u.buffer.id

namespace Slot

variable {spec : SurfaceSpec} {s t : Slot}

theorem fits_empty (spec : SurfaceSpec) : empty.Fits spec := ⟨nofun, nofun⟩

theorem Alike.bufferId (ha : s.Alike t) : s.bufferId = t.bufferId :=
  congrArg (Option.map Buffer.id) ha.buffer

theorem Alike.fits (ha : s.Alike t) (ht : t.Fits spec) : s.Fits spec where
  size b hb := ht.size b (ha.buffer ▸ hb)
  surface u hu := by
    obtain ⟨v, hv, hvu⟩ := ha.made hu
    obtain ⟨hbuf, hspec, -⟩ := Surface.eq_of_made hvu
    rw [← hbuf, ← hspec, ha.bufferId]
    exact ht.surface v hv

end Slot

namespace Pool

variable {p₀ p q : Pool} {a : Answers} {t : Trace} {h : List Deed} {n : UInt32}

/-- The sizes of a pool on a GPU with largest dimension `n`. -/
structure Sized (n : UInt32) (p : Pool) : Prop where
  one_le_min : smallest ≤ p.minSize
  one_le_max : smallest ≤ p.maxSize
  max_le : p.maxSize ≤ .square n
  gpuMax : p.gpuMax = .square n
  resolved : p.layout.Resolved
  drawable : p.layout.physicalSize.Drawable n
  fits : ∀ i s, p.slots.get? i = some s → s.Fits p.spec

namespace Sized

variable (hp : p.Sized n)
include hp

/-- A layout within the bounds of the pool. -/
theorem resolve_drawable (l : Layout) :
    (l.resolve p.minSize p.maxSize).physicalSize.Drawable n :=
  ⟨Layout.le_resolve hp.one_le_min hp.one_le_max, Layout.resolve_le hp.max_le⟩

/-- A resize always leaves something to draw. -/
theorem isEmpty_resizedLayout (size : Extent) :
    (p.resizedLayout size).physicalSize.isEmpty = false :=
  Extent.isEmpty_eq_false_iff.mpr (hp.resolve_drawable { p.layout with logicalSize := size }).1

/-- A layout within the bounds of the GPU. -/
theorem resolve_gpuMax_drawable (l : Layout) :
    (l.resolve smallest p.gpuMax).physicalSize.Drawable n := by
  have hmax : smallest ≤ .square n := Extent.le_trans hp.one_le_max hp.max_le
  rw [hp.gpuMax]
  exact ⟨Layout.le_resolve ⟨UInt32.le_refl _, UInt32.le_refl _⟩ hmax,
    Layout.resolve_le ⟨UInt32.le_refl _, UInt32.le_refl _⟩⟩

theorem relays {d : Deed} {l : Layout} (hl : p.Relays d l) :
    l.Resolved ∧ l.physicalSize.Drawable n := by
  cases hl with
  | configured turn size hl =>
    subst hl
    exact ⟨Layout.resolved_resolve .., hp.resolve_drawable _⟩
  | adopted => exact ⟨Layout.resolved_resolve .., hp.resolve_gpuMax_drawable _⟩

theorem becomes {d : Option Deed} {i : Nat} {s : Slot} (hb : p.Becomes i d s) : s.Fits p.spec := by
  cases hb with
  | alike hs ha => exact ha.fits (hp.fits _ _ hs)
  | renewed f hs hid he hb =>
    refine ⟨fun c hc => ?_, fun u hu => ?_⟩
    · cases hc
      exact hb
    · obtain ⟨hspec, hu⟩ := (hp.fits _ _ hs).surface u hu
      exact ⟨hspec, hid.symm.trans hu⟩
  | wrapped s f serial hb =>
    refine ⟨fun c hc => ?_, fun u hu => ?_⟩
    · cases hc
      exact hb
    · cases hu
      exact ⟨rfl, rfl⟩
  | shown hs => exact ⟨(hp.fits _ _ hs).size, (hp.fits _ _ hs).surface⟩

end Sized

/-- A move changes no bound, and the layout only by going over to another. -/
theorem Move.layout {d : Option Deed} (hm : Move p d q) :
    (q.minSize = p.minSize ∧ q.maxSize = p.maxSize ∧ q.gpuMax = p.gpuMax ∧ q.color = p.color) ∧
      (q.layout = p.layout ∨ ∃ e, d = some e ∧ p.Relays e q.layout) := by
  cases hm with
  | relaid hc hl => exact ⟨⟨rfl, rfl, rfl, rfl⟩, .inr ⟨_, rfl, hl⟩⟩
  | renewed | wrapped | shown | touched | released =>
    exact ⟨⟨rfl, rfl, rfl, rfl⟩, .inl rfl⟩

theorem Move.sized {d : Option Deed} (hm : Move p d q) (hp : p.Sized n) : q.Sized n := by
  obtain ⟨⟨hmin, hmax, hgpu, -⟩, hlayout⟩ := hm.layout
  have hl : q.layout.Resolved ∧ q.layout.physicalSize.Drawable n := by
    rcases hlayout with hl | ⟨e, -, hl⟩
    · rw [hl]
      exact ⟨hp.resolved, hp.drawable⟩
    · exact hp.relays hl
  exact {
    one_le_min := hmin ▸ hp.one_le_min
    one_le_max := hmax ▸ hp.one_le_max
    max_le := hmax ▸ hp.max_le
    gpuMax := hgpu ▸ hp.gpuMax
    resolved := hl.1
    drawable := hl.2
    fits := fun i s hs => by
      rcases hm.becomes hs with rfl | ⟨hspec, hb⟩
      · exact Slot.fits_empty _
      · rw [hspec]
        exact hp.becomes hb }

theorem Life.sized (hp : Life p₀ h p) (h₀ : p₀.Sized n) : p.Sized n := by
  induction hp with
  | created => exact h₀
  | moved _ hm _ ih => exact hm.sized ih

/-- A first layout that leaves pixels to draw. -/
theorem sized_ofLayout {m : WindowProfile} {color : ColorSetup} {l : Layout}
    (he : (ofLayout m n color l).layout.physicalSize.isEmpty = false) :
    (ofLayout m n color l).Sized n := by
  have hone := Extent.isEmpty_eq_false_iff.mp he
  have hmax : m.maxSize.inf (.square n) ≤ .square n := Extent.inf_le_right ..
  exact {
    one_le_min := Extent.le_sup_right ..
    one_le_max := Layout.le_upper hone
    max_le := hmax
    gpuMax := rfl
    resolved := Layout.resolved_resolve ..
    drawable := ⟨hone, Layout.resolve_le hmax⟩
    fits := fun i s hs => by
      rw [SlotTable.eq_empty_of_get?_ofCapacity hs]
      exact Slot.fits_empty _ }

theorem sized_create {query : Answer WindowProfile} {gpu : GpuLimits} {configured : Answer Unit}
    {color : ColorSetup} {settings : Settings}
    (h : (create query gpu configured color settings).result = .ok p) :
    p.Sized gpu.maxDimension := by
  obtain ⟨m, dataspace, requested, -, -, -, -, rfl, he, -⟩ := create_eq_ok h
  exact sized_ofLayout he

/-! ## Calls -/

theorem Follows.sizes {r : Except PoolError Unit} (hf : Follows a p r q t) (hp : p.Sized n) :
    ∀ size ∈ t.sizes, size.Drawable n := by
  cases hf with
  | stays => nofun
  | rejected | turned =>
    intro size hs
    rw [List.mem_singleton.mp hs]
    exact hp.resolve_drawable _

theorem Acquires.sizes {r : Except PoolError Nat} (ha : Acquires a p r q t) (hp : Life p₀ h p)
    (h₀ : p₀.Sized n) (hc : p.current = none) : ∀ size ∈ t.sizes, size.Drawable n := by
  cases ha with
  | refused | unusable | homeless | cached => nofun
  | unwrapped hd ha | wrapped hd ha =>
    intro size hs
    rw [List.mem_singleton.mp hs]
    exact ((hp.adopt hc ha).1.sized h₀).drawable

theorem Dequeues.sizes {r : Except PoolError Nat} (hd : Dequeues a p r q t) (hp : Life p₀ h p)
    (h₀ : p₀.Sized n) : ∀ size ∈ t.sizes, size.Drawable n := by
  cases hd with
  | busy => nofun
  | rejected hc hf => exact hf.sizes (hp.sized h₀)
  | acquires hc hf ha =>
    obtain ⟨hm, hmc⟩ := hf.life hp (hp.consistent.current_eq_none hc)
    intro size hs
    rw [Trace.sizes_append, List.mem_append] at hs
    rcases hs with hs | hs
    · exact hf.sizes (hp.sized h₀) size hs
    · exact ha.sizes hm h₀ hmc size hs

theorem Resizes.sizes {size : Extent} {r : Except PoolError Unit} (hr : Resizes a size p r q t)
    (hp : p.Sized n) : ∀ size ∈ t.sizes, size.Drawable n := by
  cases hr with
  | busy | degenerate => nofun
  | rejected | resized =>
    intro size hs
    rw [List.mem_singleton.mp hs]
    exact hp.resolve_drawable _

theorem Resizes.ne_degenerate {size s : Extent} {r : Except PoolError Unit}
    (hr : Resizes a size p r q t) (hp : p.Sized n) : r ≠ .error (.degenerateSize s) := by
  rintro rfl
  cases hr with
  | degenerate _ he => cases (hp.isEmpty_resizedLayout size).symm.trans he

/-- A resize of an idle pool asks for the layout, and then the window decides. -/
theorem Resizes.idle {size : Extent} {r : Except PoolError Unit} (hr : Resizes a size p r q t)
    (hp : p.Sized n) (hc : p.current? = none) :
    t = [.call (.configure (p.resizedLayout size).bufferRequest a.configure)] ∧
      ((∃ text, a.configure = .refused text ∧ r = .error (.configurationRejected text) ∧ q = p) ∨
        a.configure = .given () ∧ r = .ok () ∧
          q = (p.beginEpoch (p.resizedLayout size)).releaseIdle) := by
  cases hr with
  | busy hbusy => cases (currentId_eq_none_iff.mpr hc).symm.trans hbusy
  | degenerate _ he => cases (hp.isEmpty_resizedLayout size).symm.trans he
  | rejected _ _ ha =>
    rw [ha]
    exact ⟨rfl, .inl ⟨_, rfl, rfl, rfl⟩⟩
  | resized _ _ ha =>
    rw [ha]
    exact ⟨rfl, .inr ⟨rfl, rfl, rfl⟩⟩

theorem Presents.sizes {dirty : Option Rect} {completion : Option Fence}
    {r : Except PoolError Unit} (hp : Presents a dirty completion p r q t) : t.sizes = [] := by
  cases hp with
  | nothing => simp [Trace.sizes]
  | unforwarded => rfl
  | refused hc hf | shown hc hf => simp [Trace.sizes, hf.calls_eq, Call.size?]

theorem Cancels.sizes {r : Except PoolError Unit} (hc : Cancels a p r q t) : t.sizes = [] := by
  cases hc with
  | nothing | returned | disowned => rfl

theorem Changes.sizes {f : Slot → Slot} {gives : Slot → Trace} (hg : Changes f gives p q t)
    (hs : ∀ s, (gives s).sizes = []) : t.sizes = [] := by
  cases hg with
  | nothing => rfl
  | changed => exact hs _

theorem sizes_takeFence (p : Pool) : p.takeFence.acts.sizes = [] :=
  (takeFence_cases p).sizes fun s => by cases s.fence <;> rfl

theorem sizes_draw (p : Pool) : p.draw.acts.sizes = [] := (draw_cases p).sizes fun _ => rfl

theorem sizes_release (a : Answers) (p : Pool) : (p.release a).acts.sizes = [] := by
  have hs : ∀ s, (disposal a s).acts.sizes = [] := fun s => by
    rw [acts_disposal]
    split
    · rfl
    · simp [Trace.sizes]
  rw [acts_release]
  induction p.slots.slots with
  | nil => rfl
  | cons s l ih => rw [List.flatMap_cons, Trace.sizes_append, hs, ih, List.append_nil]

/-- Only a dequeue and a resize ask for sizes. -/
theorem sizes_cases (p : Pool) (o : Operation) : (∃ a, o = .dequeue a) ∨
    (∃ a size, o = .resize a size) ∨ (p.perform o).trace.acts.sizes = [] := by
  cases o with
  | dequeue a => exact .inl ⟨a, rfl⟩
  | present a dirty completion => exact .inr (.inr (present_cases a dirty completion p).sizes)
  | cancel a => exact .inr (.inr (cancel_cases a p).sizes)
  | resize a size => exact .inr (.inl ⟨a, size, rfl⟩)
  | release a => exact .inr (.inr (sizes_release a p))
  | takeFence => exact .inr (.inr (sizes_takeFence p))
  | draw => exact .inr (.inr (sizes_draw p))

/-- Whatever size an operation asks for, the GPU can draw to it. -/
theorem sizes_perform (hp : Life p₀ h p) (h₀ : p₀.Sized n) (o : Operation) :
    ∀ size ∈ (p.perform o).trace.sizes, size.Drawable n := by
  rw [← Trace.sizes_acts]
  rcases sizes_cases p o with ⟨a, rfl⟩ | ⟨a, size, rfl⟩ | hs
  · exact (dequeue_cases a hp.consistent.rests).sizes hp h₀
  · exact (resize_cases a size p).sizes (hp.sized h₀)
  · rw [hs]
    exact List.forall_mem_nil _

theorem sizes_performAll (hp : Life p₀ h p) (h₀ : p₀.Sized n) (os : List Operation) :
    ∀ size ∈ (p.performAll os).2.sizes, size.Drawable n := by
  induction os generalizing p h with
  | nil => nofun
  | cons o os ih =>
    intro size hs
    rw [performAll_cons, Trace.sizes_append, List.mem_append] at hs
    rcases hs with hs | hs
    · exact sizes_perform hp h₀ o size hs
    · exact ih (hp.perform o) size hs

theorem sizes_configure (p : Pool) (answer : Answer Unit) :
    (p.configure answer).trace.sizes =
      if p.layout.physicalSize.isEmpty then [] else [p.layout.physicalSize] := by
  unfold configure
  split
  · rfl
  · cases answer <;> rfl

/-- A creation asks for a size only if that leaves pixels to draw. -/
theorem sizes_create (query : Answer WindowProfile) (gpu : GpuLimits) (configured : Answer Unit)
    (color : ColorSetup) (settings : Settings) :
    ∀ size ∈ (create query gpu configured color settings).trace.sizes,
      size.Drawable gpu.maxDimension := by
  unfold create
  cases query with
  | refused e => nofun
  | given m =>
    cases color.dataspace? with
    | none => nofun
    | some dataspace =>
      dsimp only
      split
      · nofun
      · cases m.requestedCount settings with
        | error e => nofun
        | ok requested =>
          intro size hs
          rw [Trace.sizes_append, Trace.sizes_append, Trace.sizes_ofRecords, List.append_nil,
            sizes_configure, List.mem_append] at hs
          rcases hs with hs | hs
          · cases hs
          · split at hs
            · cases hs
            · rename_i he
              rw [List.mem_singleton.mp hs]
              exact (sized_ofLayout (eq_false_of_ne_true he)).drawable

/-! ## Every run -/

/-- After every run the physical size is the logical one, exchanged if the transform turns by a
quarter, the pre-transform is that of both, the GPU can draw to buffers of this size, and every
buffer and every surface that a slot holds is of this size. The GPU can draw to every size that is
ever asked for, so a resize is never told that nothing is left to draw. -/
theorem sizes_agree (query : Answer WindowProfile) (gpu : GpuLimits) (configured : Answer Unit)
    (color : ColorSetup) (settings : Settings) :
    let made := create query gpu configured color settings
    (∀ size ∈ made.trace.sizes, size.Drawable gpu.maxDimension) ∧
      ∀ p, made.result = .ok p → ∀ os : List Operation,
        let q := (p.performAll os).1
        let t := (p.performAll os).2
        q.layout.physicalSize = (if q.layout.transform.contains .rot90 then
            q.layout.logicalSize.swapped else q.layout.logicalSize) ∧
          q.layout.preTransform = q.layout.transform.preTransform q.layout.logicalSize ∧
          q.layout.physicalSize.Drawable gpu.maxDimension ∧
          (∀ s ∈ q.slots.slots, ∀ b, s.buffer = some b → b.size = q.layout.physicalSize ∧
            ∃ u, s.surface = some u ∧ u.spec.size = q.layout.physicalSize ∧
              .wrap u.buffer u.spec (.given u.serial) ∈ t.calls) ∧
          (∀ size ∈ t.sizes, size.Drawable gpu.maxDimension) ∧
          ∀ a size s, (q.resize a size).result ≠ .error (.degenerateSize s) := by
  intro made
  refine ⟨sizes_create query gpu configured color settings, fun p hp os => ?_⟩
  intro q t
  have hlife := Life.of_create hp os
  have hq := hlife.sized (sized_create hp)
  refine ⟨hq.resolved.physicalSize, hq.resolved.preTransform, hq.drawable, fun s hs b hb => ?_,
    sizes_performAll (.created hp) (sized_create hp) os,
    fun a size _ => (resize_cases a size q).ne_degenerate hq⟩
  obtain ⟨i, hi⟩ := SlotTable.mem_slots_iff.mp hs
  have hid : s.bufferId = some b.id := congrArg (Option.map Buffer.id) hb
  obtain ⟨u, hu⟩ := (hlife.consistent.whole i s hi).exists_surface hid
  have hfits := hq.fits i s hi
  obtain ⟨j, hj⟩ := hlife.wrapped hi hu
  have hcall := wrap_mem_calls (consistent_create hp) hj
  exact ⟨hfits.size b hb, u, hu, congrArg SurfaceSpec.size (hfits.surface u hu).1, hcall⟩

/-- After a frame the window is turned by a quarter and hands out a buffer of a size of its own. -/
theorem sizes_agree_adopted :
    let a := Answers.giving (.plain 7 1) none
    let turned := { Answers.giving ⟨⟨8⟩, ⟨300, 200⟩, 2⟩ none with hint := .given .rot90 }
    let q := (plain.performAll [.dequeue a, .present a none none, .dequeue turned]).1
    q.layout.logicalSize = ⟨200, 300⟩ ∧ q.slots.activeCount = 1 ∧
      q.layout.physicalSize = ⟨300, 200⟩ ∧ q.layout.physicalSize.Drawable 4096 ∧
      ∀ s ∈ q.slots.slots, ∀ b, s.buffer = some b → b.size = q.layout.physicalSize := by
  intro a turned q
  obtain ⟨-, hruns⟩ := sizes_agree (.given .plain) .plain (.given ()) .plain .builtin
  obtain ⟨-, -, hsize, hslots, -⟩ :=
    hruns plain create_plain [.dequeue a, .present a none none, .dequeue turned]
  exact ⟨by decide, by decide, by decide, hsize, fun s hs b hb => (hslots s hs b hb).1⟩

end Pool
end Swapchain
