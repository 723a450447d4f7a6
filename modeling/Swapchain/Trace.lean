import Swapchain.Pool.Error

/-!
# Conversations with the window and the GPU

An operation on a pool asks the window, the GPU and the system for a few things. `Answers`
holds what each of them would say during one operation; a `Trace` is what then happened: the
calls with their answers, what became of fences, and the log.

Each operation makes a kind of call at most once, except that releasing a pool cancels every
dequeued buffer. So one answer of each kind is enough.

* `Answer`: what a call gives, or the text of its refusal;
* `Trace.calls`, `Trace.records`: the calls of a trace and its log records;
* `pushLayout`: the settings of a layout pushed to the window.
-/

namespace Swapchain

/-- What a call gives, or the text of its refusal. -/
inductive Answer (α : Type) where
  | given (a : α)
  | refused (text : String)
  deriving DecidableEq, Inhabited, Repr

/-- What the window, the GPU and the system say during one operation. -/
structure Answers where
  /-- The transform the compositor would apply now. -/
  hint : Answer Transform
  configure : Answer Unit
  /-- A buffer and the fence that signals when it may be drawn to. -/
  dequeue : Answer (Buffer × Option Fence)
  queue : Answer Unit
  cancel : Answer Unit
  /-- The serial number of the wrapped surface. -/
  wrap : Answer Nat
  /-- Whether the system has a descriptor left for a second one of a fence. -/
  duplicate : Answer Unit
  deriving DecidableEq, Repr

/-- A call to the window or the GPU, with its answer. The window takes a fence that it is
given, whatever it answers. -/
inductive Call where
  | query (answer : Answer WindowProfile)
  | hint (answer : Answer Transform)
  | supportedUsage (format : PixelFormat) (answer : Usage)
  | configure (request : BufferRequest) (answer : Answer Unit)
  | dequeue (answer : Answer (Buffer × Option Fence))
  | queue (buffer : Buffer) (fence : Option Fence) (damage : Option Region) (answer : Answer Unit)
  | cancel (buffer : Buffer) (fence : Option Fence) (answer : Answer Unit)
  | wrap (buffer : Buffer) (spec : SurfaceSpec) (answer : Answer Nat)
  deriving DecidableEq, Repr

/-- Something that happened during an operation. -/
inductive Event where
  | call (c : Call)
  /-- The pool made a second descriptor of this one. -/
  | duplicated (f : Fence)
  /-- The pool closed a descriptor. -/
  | closed (f : Fence)
  /-- The caller took a descriptor from the pool. -/
  | taken (f : Fence)
  | log (r : Log.Record)
  deriving DecidableEq, Repr

/-- What happened, oldest first. -/
abbrev Trace := List Event

namespace Trace

/-- The calls of a trace. -/
def calls (t : Trace) : List Call :=
  t.filterMap fun
    | .call c => some c
    | _ => none

/-- The log of a trace. -/
def records (t : Trace) : List Log.Record :=
  t.filterMap fun
    | .log r => some r
    | _ => none

/-- A trace of one log record. -/
def logged (level : Log.Level) (text : String) : Trace := [.log ⟨level, text⟩]

/-- A trace of log records only. -/
def ofRecords (rs : List Log.Record) : Trace := rs.map .log

/-- The trace of closing a descriptor, if there is one. -/
def closing (f : Option Fence) : Trace := f.toList.map .closed

end Trace

/-- The settings of a layout pushed to the window, whose refusal is an error. -/
def pushLayout (l : Layout) (answer : Answer Unit) : Except PoolError Unit × Trace :=
  let asked : Trace := [.call (.configure l.bufferRequest answer)]
  match answer with
  | .given () => (.ok (), asked)
  | .refused e =>
    (.error (.configurationRejected e),
      asked ++ Trace.logged .error s!"Window rejected {l.bufferRequest.text}: {e}")

end Swapchain
