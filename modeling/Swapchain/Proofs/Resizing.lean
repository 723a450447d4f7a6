import Swapchain.Proofs.Sizes

/-!
# Resizing

A resize is refused while a buffer is dequeued, or the window refuses it, and then nothing has
changed; otherwise the pool has the new geometry and an empty table.

The new layout is made from the one before, which may have been turned by a hint and may have the
size of a buffer. But every layout that a pool goes over to differs from the first one in what
follows from the size and the transform alone. So the layout of a size under a transform is the same
at all times (`Life.laidOut`), and a resize does not show what has been before it.

* `Pool.laidOut`: the layout of a size under a transform;
* `resize_of_current?`, `Sized.resize_idle`: what a resize does;
* `Pool.resize_all_or_nothing`: one resize and one after others, in every run.
-/

namespace Swapchain.Pool

variable {p₀ p q : Pool} {a : Answers} {t : Trace} {h : List Deed} {n : UInt32}
variable {size : Extent}

/-! ## One layout for a size and a transform -/

/-- The layout of a size under a transform: all that does not follow from these is as it was. -/
def laidOut (turn : Transform) (size : Extent) (p : Pool) : Layout :=
  let logicalSize := size.clamp p.minSize p.maxSize
  { p.layout with
    logicalSize
    transform := turn
    physicalSize := Layout.physicalOf turn logicalSize
    preTransform := turn.preTransform logicalSize }

theorem resizedLayout_eq_laidOut (size : Extent) (p : Pool) :
    p.resizedLayout size = p.laidOut p.layout.transform size := rfl

/-- A layout that a pool goes over to says the same of any other size and transform. -/
theorem Move.laidOut {d : Option Deed} (hm : Move p d q) (turn : Transform) (size : Extent) :
    q.laidOut turn size = p.laidOut turn size := by
  obtain ⟨⟨hmin, hmax, -⟩, hlayout⟩ := hm.layout
  unfold Pool.laidOut
  rw [hmin, hmax]
  rcases hlayout with hl | ⟨e, -, hl⟩
  · rw [hl]
  · generalize q.layout = l at hl
    cases hl with
    | configured _ _ hl =>
      subst hl
      rfl
    | adopted => rfl

/-- The layout of a size under a transform is the same at all times. -/
theorem Life.laidOut (hp : Life p₀ h p) (turn : Transform) (size : Extent) :
    p.laidOut turn size = p₀.laidOut turn size := by
  induction hp with
  | created => rfl
  | moved _ hm _ ih => rw [hm.laidOut, ih]

/-! ## One resize -/

/-- While a buffer is dequeued nothing is asked. -/
theorem resize_of_current? {c : Current} (hc : p.current? = some c) (a : Answers) (size : Extent) :
    p.resize a size = .error p (.bufferDequeued c.buffer.id) [] := by
  simp only [resize, currentId_of_current? hc]

/-- The pool with another size, once the window has taken it. -/
def resized (size : Extent) (p : Pool) : Pool :=
  { p with
    layout := p.laidOut p.layout.transform size
    slots := .ofCapacity p.slots.capacity
    current := none
    epoch := p.epoch + 1 }

theorem Consistent.releaseIdle_beginEpoch (hp : p.Consistent) (hc : p.current = none)
    (size : Extent) : (p.beginEpoch (p.resizedLayout size)).releaseIdle = p.resized size := by
  have hb : (p.beginEpoch (p.resizedLayout size)).Consistent := hp.beginEpoch rfl
  rw [hb.releaseIdle_idle hc, resized, ← hc]
  rfl

/-- While nothing is dequeued the window decides. -/
theorem Sized.resize_idle (hp : p.Sized n) (hcons : p.Consistent) (hc : p.current = none)
    (a : Answers) (size : Extent) :
    (p.resize a size).acts =
        [.call (.configure (p.laidOut p.layout.transform size).bufferRequest a.configure)] ∧
      (∀ text, a.configure = .refused text →
        (p.resize a size).result = .error (.configurationRejected text) ∧
          (p.resize a size).pool = p) ∧
      (a.configure = .given () →
        (p.resize a size).result = .ok () ∧ (p.resize a size).pool = p.resized size) := by
  obtain ⟨hacts, hgoes⟩ :=
    (resize_cases a size p).idle hp (hcons.current?_eq_none_iff.mpr hc)
  rw [resizedLayout_eq_laidOut] at hacts
  refine ⟨hacts, ?_⟩
  rcases hgoes with ⟨text, ha, hr, hq⟩ | ⟨ha, hr, hq⟩
  · constructor
    · intro text' ha'
      cases ha.symm.trans ha'
      exact ⟨hr, hq⟩
    · intro ha'
      cases ha.symm.trans ha'
  · constructor
    · intro text ha'
      cases ha.symm.trans ha'
    · exact fun _ => ⟨hr, hq.trans (hcons.releaseIdle_beginEpoch hc size)⟩

/-! ## One resize after others -/

/-- A resize leaves what is current and the transform, whether it is done or not. -/
theorem Resizes.current_transform {r : Except PoolError Unit} (hr : Resizes a size p r q t) :
    q.current = p.current ∧ q.layout.transform = p.layout.transform := by
  cases hr with
  | busy | degenerate | rejected | resized => exact ⟨rfl, rfl⟩

theorem Resizes.of_ok (hr : Resizes a size p (.ok ()) q t) :
    p.currentId = none ∧ a.configure = .given () := by
  cases hr with
  | resized hc _ ha => exact ⟨hc, ha⟩

/-- Resizes to some sizes, each with what the window answers. -/
def resizes (rs : List (Answers × Extent)) : List Operation := rs.map fun r => .resize r.1 r.2

theorem performAll_resizes (p : Pool) (rs : List (Answers × Extent)) :
    (p.performAll (resizes rs)).1.current = p.current ∧
      (p.performAll (resizes rs)).1.layout.transform = p.layout.transform := by
  induction rs generalizing p with
  | nil => exact ⟨rfl, rfl⟩
  | cons r rs ih =>
    obtain ⟨hcur, htransform⟩ := (resize_cases r.1 r.2 p).current_transform
    obtain ⟨hcurs, htransforms⟩ := ih (p.perform (.resize r.1 r.2)).pool
    exact ⟨hcurs.trans hcur, htransforms.trans htransform⟩

/-- If the last of some resizes is done, then it leaves the layout that it would have made at
first. -/
theorem Life.last_resize (hp : Life p₀ h p) (h₀ : p₀.Sized n) (rs : List (Answers × Extent))
    (hr : ((p.performAll (resizes rs)).1.resize a size).result = .ok ()) :
    (p.resize a size).result = .ok () ∧
      ((p.performAll (resizes rs)).1.resize a size).pool.layout =
        (p.resize a size).pool.layout := by
  obtain ⟨hcur, htransform⟩ := performAll_resizes p rs
  have hlast := hp.performAll (resizes rs)
  have hcases := resize_cases a size (p.performAll (resizes rs)).1
  rw [hr] at hcases
  obtain ⟨hid, ha⟩ := hcases.of_ok
  have hc := hlast.consistent.current_eq_none hid
  obtain ⟨-, -, hafter⟩ := (hlast.sized h₀).resize_idle hlast.consistent hc a size
  obtain ⟨-, -, hfirst⟩ := (hp.sized h₀).resize_idle hp.consistent (hcur ▸ hc) a size
  refine ⟨(hfirst ha).1, ?_⟩
  calc ((p.performAll (resizes rs)).1.resize a size).pool.layout
    _ = (p.performAll (resizes rs)).1.laidOut
          (p.performAll (resizes rs)).1.layout.transform size :=
        congrArg Pool.layout (hafter ha).2
    _ = p.laidOut p.layout.transform size := by
        rw [hlast.laidOut, hp.laidOut, htransform]
    _ = (p.resize a size).pool.layout := (congrArg Pool.layout (hfirst ha).2).symm

/-! ## Every run -/

/-- After every run, while a buffer is dequeued a resize is told so, asks nothing and leaves the
pool. Otherwise the window is asked for the new layout; if it refuses, then the resize is told so
and leaves the pool, and if not, then the size is the one asked for within the bounds, the transform
and what buffers are made of are kept, every slot is empty, nothing is current, and the epoch alone
grows, by one. The layout of a size under a transform is the one of the pool when it was created, so
after other resizes a resize makes the layout that it would have made at once. -/
theorem resize_all_or_nothing {query : Answer WindowProfile} {gpu : GpuLimits}
    {configured : Answer Unit} {color : ColorSetup} {settings : Settings}
    (h : (create query gpu configured color settings).result = .ok p) (os : List Operation) :
    let q := (p.performAll os).1
    (∀ a size,
      let o := q.resize a size
      (∀ s ∈ q.slots.slots, s.dequeued = true → ∃ b, s.buffer = some b ∧
        o.result = .error (.bufferDequeued b.id) ∧ o.pool = q ∧ o.trace = []) ∧
      ((∀ s ∈ q.slots.slots, s.dequeued = false) →
        o.acts = [.call (.configure (q.laidOut q.layout.transform size).bufferRequest
          a.configure)] ∧
        (∀ text, a.configure = .refused text →
          o.result = .error (.configurationRejected text) ∧ o.pool = q) ∧
        (a.configure = .given () → o.result = .ok () ∧
          o.pool = { q with
            layout := q.laidOut q.layout.transform size
            slots := .ofCapacity q.slots.capacity
            current := none
            epoch := q.epoch + 1 }))) ∧
      (∀ turn size, q.laidOut turn size = p.laidOut turn size) ∧
      ∀ rs a size,
        let last := (q.performAll (resizes rs)).1.resize a size
        last.result = .ok () →
          (q.resize a size).result = .ok () ∧ last.pool.layout = (q.resize a size).pool.layout := by
  intro q
  have hlife : Life p (p.past os) q := Life.of_create h os
  have h₀ := sized_create h
  refine ⟨fun a size => ⟨fun s hs hd => ?_, fun hidle => ?_⟩, hlife.laidOut,
    fun rs a size => hlife.last_resize h₀ rs⟩
  · obtain ⟨c, hc, rfl⟩ := hlife.consistent.exists_current? hs hd
    rw [resize_of_current? hc]
    exact ⟨c.buffer, (current?_eq_some_iff.mp hc).2.2, rfl, rfl, rfl⟩
  · have hc : q.current = none := hlife.consistent.current?_eq_none_iff.mp
      (hlife.consistent.current?_eq_none_iff_idle.mpr hidle)
    exact (hlife.sized h₀).resize_idle hlife.consistent hc a size

/-- The pool has gone over to 300x200 pixels, the size of a buffer that has been cancelled since.
A resize is done, one is refused, and a third asks for more than the window allows: it leaves the
layout that it would have left at once. While buffer 7 has been dequeued no resize was possible. -/
theorem resize_all_or_nothing_adopted :
    let a := Answers.giving (.plain 7 1) none
    let other := { Answers.giving ⟨⟨8⟩, ⟨300, 200⟩, 2⟩ none with wrap := .given 2 }
    let busy := (plain.performAll [.dequeue a]).1
    let q := (plain.performAll [.dequeue a, .present a none none, .dequeue other, .cancel a]).1
    let refusing := { a with configure := .refused "busy" }
    let once := q.resize a ⟨5000, 40⟩
    let last :=
      (q.performAll (resizes [(a, ⟨100, 50⟩), (refusing, ⟨10, 10⟩)])).1.resize a ⟨5000, 40⟩
    (busy.resize a ⟨100, 50⟩).result = .error (.bufferDequeued ⟨7⟩) ∧
      q.layout.logicalSize = ⟨300, 200⟩ ∧ (q.resize refusing ⟨100, 50⟩).pool = q ∧
      last.result = .ok () ∧ last.pool.layout = once.pool.layout ∧
      once.pool.layout.logicalSize = ⟨4096, 40⟩ ∧ once.pool.slots = .ofCapacity 3 ∧
      once.pool.epoch = 2 := by
  intro a other busy q refusing once last
  have hlast : last.result = .ok () := by
    simp only [last, q, refusing, other, a]
    rfl
  obtain ⟨hbusy, -⟩ := resize_all_or_nothing create_plain [.dequeue a]
  obtain ⟨s, hs, hd, hsb⟩ : ∃ s ∈ busy.slots.slots, s.dequeued = true ∧
      s.buffer = some (.plain 7 1) :=
    ⟨_, List.mem_cons_self, rfl, rfl⟩
  obtain ⟨b, hb, hr, -⟩ := (hbusy a ⟨100, 50⟩).1 s hs hd
  obtain ⟨honce, -, hafter⟩ := resize_all_or_nothing create_plain
    [.dequeue a, .present a none none, .dequeue other, .cancel a]
  have hidle : ∀ s ∈ q.slots.slots, s.dequeued = false := by decide
  obtain ⟨-, hrefused, -⟩ := (honce refusing ⟨100, 50⟩).2 hidle
  obtain ⟨-, -, hgiven⟩ := (honce a ⟨5000, 40⟩).2 hidle
  obtain ⟨-, hsame⟩ := hafter [(a, ⟨100, 50⟩), (refusing, ⟨10, 10⟩)] a ⟨5000, 40⟩ hlast
  have hpool : once.pool = _ := (hgiven rfl).2
  cases hsb.symm.trans hb
  refine ⟨hr, by decide, (hrefused "busy" rfl).2, hlast, hsame, ?_, ?_, ?_⟩
  · rw [hpool]
    decide
  · rw [hpool]
    decide
  · rw [hpool]
    decide

end Swapchain.Pool
