import Swapchain.Number.Binary64
import Swapchain.Pool.Operation

/-!
# Scripted lives

A scenario plays a pool against a window and a GPU that answer from a script: each step says
which buffer the window has next, which transform it hints at and which calls it refuses. The
fences received and made are numbered from 1, so are buffer handles and surfaces, and every
descriptor that is open anywhere is on a list; the window closes a fence as soon as it has it.

* `Scenario.start`: the creation of the pool;
* `Scenario.play`: one step, with its answer and what happened;
* `Scenario.finish`: the end of the pool, which releases its buffers;
* `Event.descriptors`: the open descriptors after an event.
-/

namespace Swapchain

/-- The calls that are refused, each with the text of the refusal. -/
structure Failures where
  query : Option String := none
  hint : Option String := none
  configure : Option String := none
  dequeue : Option String := none
  queue : Option String := none
  cancel : Option String := none
  wrap : Option String := none
  deriving Inhabited

/-- The fence that comes with a present. -/
inductive Completion where
  | absent
  /-- One made for this present. -/
  | fresh
  /-- The one the caller holds. -/
  | held
  deriving DecidableEq, Inhabited, Repr

/-- A step of a script. -/
inductive Step where
  /-- The window has a buffer, with or without a fence, and perhaps a new hint. -/
  | dequeue (buffer : Option (BufferId × Extent)) (fence : Bool) (hint : Option Transform)
  | present (dirty : Option Rect) (completion : Completion) (noDescriptors : Bool)
  | cancel
  | resize (size : Extent)
  | release
  /-- The caller takes the fence of the current slot and holds it. -/
  | takeFence
  /-- The caller closes the fence it holds. -/
  | dropFence
  | draw
  | mapRect (rect : Rect)
  | lookup (id : BufferId)
  | age (index : Nat)

/-- What the searches of a slot table find for a buffer. -/
structure Lookup where
  found : Option Nat
  free : Option Nat
  stalest : Option Nat
  place : Option Nat
  deriving DecidableEq, Inhabited, Repr

/-- All searches of a slot table at once. -/
def SlotTable.lookup (t : SlotTable) (id : BufferId) : Lookup where
  found := t.indexOf? id
  free := t.firstFree?
  stalest := t.stalestIdle?
  place := t.placeFor? id

/-- What a step answers. -/
inductive StepAnswer where
  | done
  | slot (s : Slot)
  | fence (f : Option Fence)
  /-- Whether the caller held a fence. -/
  | dropped (held : Bool)
  | draws (n : Option Nat)
  | rect (r : Rect)
  | lookup (l : Lookup)
  /-- The age of a slot and whether there is such a slot. -/
  | age (age : Option Nat) (present : Bool)

/-- A pool in the middle of a script. -/
structure Scenario where
  pool : Pool
  /-- The transform the window hints at. -/
  hint : Transform
  /-- How many fences have been made. -/
  fences : Nat
  /-- How many buffers the window has handed out. -/
  handles : Nat
  /-- How many surfaces the GPU has made. -/
  surfaces : Nat
  /-- The fence the caller holds. -/
  held : Option Fence
  /-- The descriptors that are open. -/
  descriptors : List Fence

/-- What a step or the end of a scenario gives. -/
structure Played (α : Type) where
  answer : α
  trace : Trace
  scenario : Scenario

/-! ## What traces change -/

/-- The open descriptors after an event. -/
def Event.descriptors (e : Event) (opened : List Fence) : List Fence :=
  match e with
  | .call (.dequeue (.given (_, some f))) => opened ++ [f]
  | .duplicated f => opened ++ [f.duplicate]
  | .call (.queue _ (some f) _ _) | .call (.cancel _ (some f) _) | .closed f => opened.erase f
  | _ => opened

/-- Whether the window handed out a buffer. -/
def Event.isHandle : Event → Bool
  | .call (.dequeue (.given _)) => true
  | _ => false

/-- Whether a fence came with a buffer. -/
def Event.isFence : Event → Bool
  | .call (.dequeue (.given (_, some _))) => true
  | _ => false

/-- Whether the GPU made a surface. -/
def Event.isSurface : Event → Bool
  | .call (.wrap _ _ (.given _)) => true
  | _ => false

namespace Scenario

/-- The scenario after an operation on its pool. -/
def absorb (s : Scenario) (p : Pool) (t : Trace) : Scenario :=
  { s with
    pool := p
    fences := s.fences + t.countP Event.isFence
    handles := s.handles + t.countP Event.isHandle
    surfaces := s.surfaces + t.countP Event.isSurface
    descriptors := t.foldl (fun opened e => e.descriptors opened) s.descriptors }

/-- How many descriptors of each fence are open, for those that have any, in order. -/
def openCounts (s : Scenario) : List (Nat × Nat) :=
  (List.range s.fences).filterMap fun n =>
    let count := s.descriptors.countP fun f => f.number == n + 1
    if count = 0 then none else some (n + 1, count)

/-! ## Answers from the script -/

/-- A refusal if there is one, else the answer. -/
def answer {α : Type} (refusal : Option String) (a : α) : Answer α :=
  match refusal with
  | some text => .refused text
  | none => .given a

/-- What the window hands out next. -/
def handOut (s : Scenario) (buffer : Option (BufferId × Extent)) (fence : Bool) :
    Answer (Buffer × Option Fence) :=
  match buffer with
  | some (id, size) =>
    .given (⟨id, size, s.handles + 1⟩, if fence then some ⟨s.fences + 1, false⟩ else none)
  | none => .refused "no buffer"

/-- The refusal when no descriptor is left. -/
def descriptorLimit : String := "Too many open files (os error 24)"

/-- The answers of a step. -/
def answers (s : Scenario) (f : Failures) (buffer : Option (BufferId × Extent)) (fence : Bool)
    (noDescriptors : Bool) : Answers where
  hint := answer f.hint s.hint
  configure := answer f.configure ()
  dequeue :=
    match f.dequeue with
    | some text => .refused text
    | none => s.handOut buffer fence
  queue := answer f.queue ()
  cancel := answer f.cancel ()
  wrap := answer f.wrap (s.surfaces + 1)
  duplicate := if noDescriptors then .refused descriptorLimit else .given ()

/-- The answers of a step in which the window has no new buffer. -/
def plainAnswers (s : Scenario) (f : Failures) : Answers := s.answers f none false false

/-! ## Playing -/

/-- A pool made against the script, or the reason why there is none. -/
def start (window : WindowProfile) (gpu : GpuLimits) (color : ColorSetup) (settings : Settings)
    (f : Failures) : Except PoolError Scenario × Trace :=
  let made := Pool.create (answer f.query window) gpu (answer f.configure ()) color settings
  let scenario := made.result.map fun p =>
    { pool := p, hint := window.transformHint, fences := 0, handles := 0, surfaces := 0,
      held := none, descriptors := [] }
  (scenario, made.trace)

/-- An operation on the pool, whose answer is read off the pool it leaves. -/
def operate {α : Type} (s : Scenario) (o : Outcome α) (view : α → Pool → StepAnswer) :
    Played (Except PoolError StepAnswer) where
  answer := o.result.map (view · o.pool)
  trace := o.trace
  scenario := s.absorb o.pool o.trace

/-- A step that only looks. -/
def look (s : Scenario) (a : StepAnswer) : Played (Except PoolError StepAnswer) :=
  ⟨.ok a, [], s⟩

/-- The fence that goes with a present, and the scenario after it has been given up. -/
def completion (s : Scenario) : Completion → Option Fence × Scenario
  | .absent => (none, s)
  | .fresh =>
    let f : Fence := ⟨s.fences + 1, false⟩
    (some f, { s with fences := s.fences + 1, descriptors := s.descriptors ++ [f] })
  | .held => (s.held, { s with held := none })

/-- The caller holds a fence it has taken and closes the one it held before. -/
def hold (s : Scenario) : Option Fence → Scenario
  | none => s
  | some f =>
    { s with
      held := some f
      descriptors := s.held.toList.foldl List.erase s.descriptors }

/-- One step. -/
def play (s : Scenario) (f : Failures) : Step → Played (Except PoolError StepAnswer)
  | .dequeue buffer fence hint =>
    let s := { s with hint := hint.getD s.hint }
    s.operate (s.pool.dequeue (s.answers f buffer fence false)) fun i p =>
      .slot ((p.slots.get? i).getD .empty)
  | .present dirty completion noDescriptors =>
    let (fence, s) := s.completion completion
    s.operate (s.pool.present (s.answers f none false noDescriptors) dirty fence) fun _ _ => .done
  | .cancel => s.operate (s.pool.cancel (s.plainAnswers f)) fun _ _ => .done
  | .resize size => s.operate (s.pool.resize (s.plainAnswers f) size) fun _ _ => .done
  | .release => s.operate (s.pool.release (s.plainAnswers f)) fun _ _ => .done
  | .takeFence =>
    let o := s.pool.takeFence
    let played := s.operate o fun f _ => .fence f
    match o.result with
    | .ok f => { played with scenario := played.scenario.hold f }
    | .error _ => played
  | .dropFence =>
    { answer := .ok (.dropped s.held.isSome)
      trace := []
      scenario :=
        { s with
          held := none
          descriptors := s.held.toList.foldl List.erase s.descriptors } }
  | .draw => s.operate s.pool.draw fun n _ => .draws n
  | .mapRect rect => s.look (.rect (s.pool.layout.mapRect Binary64.round rect))
  | .lookup id => s.look (.lookup (s.pool.slots.lookup id))
  | .age index => s.look (.age (s.pool.slotAge index) (s.pool.slots.get? index).isSome)

/-- The end of the pool, which releases its buffers. -/
def finish (s : Scenario) (f : Failures) : Played Unit :=
  let o := s.pool.release (s.plainAnswers f)
  ⟨(), o.trace, s.absorb o.pool o.trace⟩

end Scenario
end Swapchain
