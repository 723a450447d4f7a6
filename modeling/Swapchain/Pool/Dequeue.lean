import Swapchain.Pool.Basic

/-!
# Dequeuing a buffer

A dequeue first follows a changed transform hint, then asks the window for a buffer, then finds
the slot for it and makes it drawable unless the slot already has a surface of this epoch. A
buffer of another size than the current one brings its own size with it: the layout for it is
planned, the buffer is wrapped as this layout has it, and only then is the layout committed.

So a failure after the window has handed out a buffer, which gives the buffer back with its fence,
leaves the pool as it was.

* `Pool.followHint`: the layout after a changed transform hint, with the logical size kept;
* `Pool.planResize`: the layout for buffers of another size;
* `Pool.plannedSlot?`, `Pool.reuses`: where the buffer is going to be, and whether it is wrapped;
* `Pool.commit`: the pool in the planned layout;
* `Pool.place`: a buffer into its slot;
* `Pool.dequeue`: the whole operation, which answers the index of the slot.
-/

namespace Swapchain.Pool

/-! ## The transform hint -/

/-- The layout under another transform; the logical size is brought within the bounds again. -/
def hintedLayout (hint : Transform) (p : Pool) : Layout :=
  { p.layout with transform := hint }.resolve p.minSize p.maxSize

/-- The pool in a layout under another transform. Buffers of another size are forgotten. -/
def underHint (l : Layout) (p : Pool) : Pool :=
  let q := p.beginEpoch l
  if l.physicalSize = p.layout.physicalSize then q else q.releaseIdle

/-- The log line of a changed transform hint. -/
def hintText (before after : Layout) : String :=
  s!"Transform hint changed: {before.transform.text} (actual {before.physicalSize.text}) -> " ++
  s!"{after.transform.text} (actual {after.physicalSize.text})"

/-- A changed hint is followed if the window takes the new layout; without an answer the
transform stays. -/
def followHint (a : Answers) (p : Pool) : Outcome Unit :=
  let asked : Trace := [.call (.hint a.hint)]
  match a.hint with
  | .refused e =>
    .ok p () (asked ++ Trace.logged .warn
      s!"Failed to query transform hint, keeping {p.layout.transform.text}: {e}")
  | .given hint =>
    if hint = p.layout.transform then .ok p () asked
    else
      let l := p.hintedLayout hint
      let warnings := { p.layout with transform := hint }.clampWarning p.minSize p.maxSize
      let (pushed, t) := pushLayout l a.configure
      let asked := asked ++ .ofRecords warnings ++ t
      match pushed with
      | .error e => .error p e asked
      | .ok () =>
        .ok (p.underHint l) () (asked ++ Trace.logged .debug (hintText p.layout l))

/-! ## The size of the buffers -/

/-- The layout whose logical size is that of a buffer under the current transform. -/
def layoutOf (b : Buffer) (p : Pool) : Layout :=
  { p.layout with logicalSize := Layout.physicalOf p.layout.transform b.size }

/-- The layout for buffers of the size of `b`, or nothing if they have this size already. A size
that the GPU cannot draw to is refused. -/
def planResize (b : Buffer) (p : Pool) : Except AcquisitionFault (Option Layout) :=
  if b.size = p.layout.physicalSize then .ok none
  else
    let l := (p.layoutOf b).resolve smallest p.gpuMax
    if l.physicalSize = b.size then .ok (some l) else .error (.unusableSize b.id b.size)

/-- The warning that comes with looking at a buffer of another size. -/
def planWarning (b : Buffer) (p : Pool) : List Log.Record :=
  if b.size = p.layout.physicalSize then [] else (p.layoutOf b).clampWarning smallest p.gpuMax

/-! ## Before the commit

A buffer that needs another layout is placed and wrapped in view of it, while the pool is still in
the old one. -/

/-- The epoch that the buffer is going to be drawn in. -/
def plannedEpoch (resized : Option Layout) (p : Pool) : Nat :=
  if resized.isSome then p.epoch + 1 else p.epoch

/-- The size that the buffer is wrapped at. -/
def plannedSize (resized : Option Layout) (p : Pool) : Extent :=
  (resized.map Layout.physicalSize).getD p.layout.physicalSize

/-- The slot for a buffer. In another layout it is the first one, since every slot belongs to the
old layout and is free once the new one is committed. -/
def plannedSlot? (resized : Option Layout) (id : BufferId) (p : Pool) : Option Nat :=
  let index := if resized.isSome then some 0 else p.slots.placeFor? id
  index.filter (· < p.slots.capacity)

/-- Whether slot `i` has a surface for a buffer that can be drawn on again. In another layout none
can. -/
def reuses (resized : Option Layout) (i : Nat) (id : BufferId) (p : Pool) : Bool :=
  resized.isNone && (p.slots.get? i).any fun s =>
    s.bufferId == some id && s.surface.isSome && s.epoch == p.plannedEpoch resized

/-! ## The commit -/

/-- The pool in another layout, in which the idle slots are free. -/
def commit (resized : Option Layout) (p : Pool) : Pool :=
  match resized with
  | none => p
  | some l => { p with layout := l, epoch := p.plannedEpoch resized }.releaseIdle

/-- The log line of another layout. -/
def commitTrace (resized : Option Layout) (p : Pool) : Trace :=
  match resized with
  | none => []
  | some l => Trace.logged .debug <|
    s!"Window buffers resized: {p.layout.sizesText} -> {l.sizesText}"

/-- The pool whose slot `i` is changed, becomes dequeued with a fence and is current. -/
def takeInto (i : Nat) (change : Slot → Slot) (fence : Option Fence) (p : Pool) : Pool :=
  { p with slots := p.slots.modify i fun s => (change s).start fence, current := some i }

/-- The surface that the GPU makes of a buffer. -/
def surfaceOf (b : Buffer) (spec : SurfaceSpec) (serial : Nat) : Surface where
  serial
  buffer := b
  spec
  draws := 0

/-- A buffer given back to the window with its fence; the pool is as it was. -/
def giveBack (a : Answers) (b : Buffer) (fence : Option Fence) (p : Pool) (e : PoolError) :
    Outcome Nat :=
  let asked : Trace := [.call (.cancel b fence a.cancel)]
  match a.cancel with
  | .given () => .error p e asked
  | .refused text =>
    .error p e (asked ++ Trace.logged .warn s!"cancelBuffer failed for {b.id.text}: {text}")

/-- A buffer into slot `i`. It is wrapped unless the slot has a surface for it; the planned layout
is committed last. -/
def fill (a : Answers) (b : Buffer) (fence : Option Fence) (resized : Option Layout) (i : Nat)
    (p : Pool) : Outcome Nat :=
  if p.reuses resized i b.id then
    .ok ((p.commit resized).takeInto i (·.renew b) fence) i (p.commitTrace resized)
  else
    let spec := p.specOf (p.plannedSize resized)
    let asked : Trace := [.call (.wrap b spec a.wrap)]
    match a.wrap with
    | .refused e =>
      (p.giveBack a b fence (.wrapFailed b.id spec.size e)).after
        (asked ++ Trace.logged .error s!"Failed to wrap buffer {b.id.text}: {e}")
    | .given serial =>
      let q := p.commit resized
      .ok (q.takeInto i (·.hold b (surfaceOf b spec serial) (p.plannedEpoch resized)) fence) i
        (asked ++ p.commitTrace resized ++ Trace.logged .debug
          s!"Wrapped buffer {b.id.text} into slot {i} at {q.layout.physicalSize.text}")

/-- A buffer that the window has handed out into its slot, or back to the window. -/
def place (a : Answers) (b : Buffer) (fence : Option Fence) (p : Pool) : Outcome Nat :=
  let placed :=
    match p.planResize b with
    | .error fault => p.giveBack a b fence (.acquisitionFailed fault)
    | .ok resized =>
      match p.plannedSlot? resized b.id with
      | none => p.giveBack a b fence (.acquisitionFailed (.noSlot b.id))
      | some i => p.fill a b fence resized i
  placed.after (.ofRecords (p.planWarning b))

/-! ## The operation -/

/-- The text of a fence in the log, where descriptors are not told apart. -/
def fenceText : Option Fence → String
  | some _ => "Some(Fence(#))"
  | none => "None"

/-- A buffer from the window into its slot. -/
def acquire (a : Answers) (p : Pool) : Outcome Nat :=
  let asked : Trace := [.call (.dequeue a.dequeue)]
  match a.dequeue with
  | .refused e =>
    .error p (.acquisitionFailed (.window e))
      (asked ++ Trace.logged .error s!"dequeueBuffer failed: {e}")
  | .given (b, fence) =>
    (p.place a b fence).after (asked ++ Trace.logged .trace
      s!"dequeued buffer {b.id.text} ({b.size.text}) fence {fenceText fence}")

/-- The next buffer of the window becomes current; its slot's index is the answer. While a
buffer is dequeued nothing is asked of the window. -/
def dequeue (a : Answers) (p : Pool) : Outcome Nat :=
  match p.currentId with
  | some id =>
    .error p (.bufferDequeued id)
      (Trace.logged .error s!"dequeue requested while buffer {id.text} is still dequeued")
  | none => (p.followHint a).andThen fun () q => q.acquire a

end Swapchain.Pool
