import Swapchain.Proofs.Custody

/-!
# How buffers are handed off

What the window sees of a pool is its calls. From the creation of a pool to its last release the
calls are talk and *episodes*, one after another: a buffer is handed out, wrapped or queued in
vain any number of times, and then queued or cancelled, by the handle it was handed out with.

* `Episodes`: calls of this shape;
* `Call.Timely`: a call that comes when it may, given what the window has handed out;
* `Pool.hands_back`: every life of a pool consists of episodes, with every call at its time.
-/

namespace Swapchain

/-! ## The shape of the calls -/

/-- A call on buffer `b` that leaves it in hand: it is wrapped, or queued in vain. -/
def Call.Uses (b : Buffer) : Call → Prop
  | .wrap c _ _ | .queue c _ _ (.refused _) => c = b
  | _ => False

/-- A call that ends the dequeue of buffer `b`: it is queued, or cancelled with any answer. -/
def Call.Ends (b : Buffer) : Call → Prop
  | .queue c _ _ (.given ()) | .cancel c _ _ => c = b
  | _ => False

/-- Calls in which each buffer that is handed out is given back, once and before the next. -/
inductive Episodes : List Call → Prop where
  | nil : Episodes []
  | talk {c : Call} {cs : List Call} (hc : c.isTalk = true) (h : Episodes cs) : Episodes (c :: cs)
  | buffer {b : Buffer} {f : Option Fence} {w cs : List Call} {e : Call}
      (hw : ∀ c ∈ w, c.Uses b) (he : e.Ends b) (h : Episodes cs) :
    Episodes (.dequeue (.given (b, f)) :: (w ++ e :: cs))

namespace Episodes

theorem append {cs ds : List Call} (h : Episodes cs) (hd : Episodes ds) : Episodes (cs ++ ds) := by
  induction h with
  | nil => exact hd
  | talk hc _ ih => exact .talk hc ih
  | buffer hw he _ ih =>
    rw [List.cons_append, List.append_assoc, List.cons_append]
    exact .buffer hw he ih

theorem of_talk {cs : List Call} (hcs : ∀ c ∈ cs, c.isTalk = true) : Episodes cs := by
  induction cs with
  | nil => exact .nil
  | cons c cs ih =>
    exact .talk (hcs c List.mem_cons_self) (ih fun d hd => hcs d (List.mem_cons_of_mem _ hd))

end Episodes

/-- Calls that consist of episodes, the last of which is still open if something is in hand. -/
def Partway (cs : List Call) : Option Held → Prop
  | none => Episodes cs
  | some h => ∃ done f w, cs = done ++ .dequeue (.given (h.buffer, f)) :: w ∧ Episodes done ∧
      ∀ c ∈ w, c.Uses h.buffer

namespace Partway

variable {cs ds : List Call} {b : Buffer} {f g : Option Fence}

/-- The fence plays no part. -/
theorem fence (h : Partway cs (some ⟨b, f⟩)) (g : Option Fence) : Partway cs (some ⟨b, g⟩) := h

theorem uses (h : Partway cs (some ⟨b, f⟩)) (hd : ∀ c ∈ ds, c.Uses b) :
    Partway (cs ++ ds) (some ⟨b, f⟩) := by
  obtain ⟨done, g, w, rfl, hdone, hw⟩ := h
  refine ⟨done, g, w ++ ds, by simp, hdone, fun c hc => ?_⟩
  rcases List.mem_append.mp hc with hc | hc
  · exact hw c hc
  · exact hd c hc

theorem ends (h : Partway cs (some ⟨b, f⟩)) {e : Call} (he : e.Ends b) :
    Partway (cs ++ [e]) none := by
  obtain ⟨done, g, w, rfl, hdone, hw⟩ := h
  rw [List.append_assoc]
  exact hdone.append (.buffer hw he .nil)

theorem talk (h : Partway cs none) (hd : ∀ c ∈ ds, c.isTalk = true) : Partway (cs ++ ds) none :=
  h.append (.of_talk hd)

theorem dequeue (h : Partway cs none) (hw : ∀ c ∈ ds, c.Uses b) :
    Partway (cs ++ .dequeue (.given (b, f)) :: ds) (some ⟨b, f⟩) :=
  ⟨cs, f, ds, rfl, h, hw⟩

end Partway

/-! ## The time of the calls -/

/-- A call that comes when it may: a buffer is asked for and a layout pushed while the window has
handed out nothing, and what goes back is what the window has handed out. -/
def Call.Timely (h : Option Held) : Call → Prop
  | .dequeue _ | .configure _ _ => h = none
  | .queue b _ _ _ | .cancel b _ _ => h.map Held.buffer = some b
  | .query _ | .hint _ | .supportedUsage _ _ | .wrap _ _ _ => True

/-- An event that is no call may come at any time. -/
def Event.Timely (h : Option Held) : Event → Prop
  | .call c => c.Timely h
  | _ => True

namespace Trace

variable {h : Option Held} {t u : Trace}

/-- Every call comes when it may, from when the window has handed out `h`. -/
def Timely (h : Option Held) : Trace → Prop
  | [] => True
  | e :: t => e.Timely h ∧ Timely (e.lend h) t

theorem timely_append :
    Timely h (t ++ u) ↔ Timely h t ∧ Timely (t.foldl Event.lend h) u := by
  induction t generalizing h with
  | nil => simp [Timely]
  | cons e t ih => simp [Timely, ih, and_assoc]

/-- The log plays no part. -/
theorem timely_acts : Timely h t.acts ↔ Timely h t := by
  induction t generalizing h with
  | nil => rfl
  | cons e t ih =>
    cases e with
    | log r => exact ih.trans (iff_and_self.mpr fun _ => trivial)
    | call | duplicated | closed | taken => exact and_congr_right fun _ => ih

theorem timely_of_forall (ht : ∀ e ∈ t, e.Timely h ∧ e.lend h = h) : Timely h t := by
  induction t with
  | nil => trivial
  | cons e t ih =>
    obtain ⟨he, hl⟩ := ht e List.mem_cons_self
    refine ⟨he, ?_⟩
    rw [hl]
    exact ih fun e he => ht e (List.mem_cons_of_mem _ he)

theorem timely_talk {cs : List Call} (hcs : ∀ c ∈ cs, c.isTalk = true) :
    Timely none (cs.map Event.call) :=
  timely_of_forall fun e he => by
    obtain ⟨c, hc, rfl⟩ := List.mem_map.mp he
    refine ⟨?_, Call.lend_of_isTalk (hcs c hc) none⟩
    cases c with
    | dequeue | configure => rfl
    | query | hint | supportedUsage | wrap => trivial
    | queue | cancel => cases hcs _ hc

theorem timely_wraps {cs : List Call} {b : Buffer} (hcs : ∀ c ∈ cs, c.Wraps b) :
    Timely h (cs.map Event.call) :=
  timely_of_forall fun e he => by
    obtain ⟨c, hc, rfl⟩ := List.mem_map.mp he
    obtain ⟨spec, x, rfl⟩ := Call.wraps_iff.mp (hcs c hc)
    exact ⟨trivial, rfl⟩

/-- What a trace says of one of its calls. -/
theorem Timely.call {pre post : Trace} {c : Call} (ht : Timely h (pre ++ .call c :: post)) :
    c.Timely (pre.foldl Event.lend h) :=
  (timely_append.mp ht).2.1

end Trace

theorem Call.Wraps.uses {b : Buffer} {c : Call} (h : c.Wraps b) : c.Uses b := by
  obtain ⟨spec, x, rfl⟩ := Call.wraps_iff.mp h
  rfl

namespace Pool

variable {p : Pool} {t : Trace}

namespace Forwards

variable {held completion fence : Option Fence} (hf : Forwards held completion fence t)
include hf

theorem lend (h : Option Held) : t.foldl Event.lend h = h := by
  cases hf <;> rfl

theorem timely (h : Option Held) : t.Timely h := by
  cases hf with
  | completion | bare => trivial
  | duplicate => exact ⟨trivial, trivial⟩

end Forwards

/-! ## One operation -/

theorem Passage.timely {h k : Option Held} {c : Option Fence} {s : Bool} (hp : Passage h c s t k) :
    t.Timely h := by
  cases hp with
  | still => trivial
  | unused =>
    cases c with
    | none => trivial
    | some f => exact ⟨trivial, trivial⟩
  | talk hcs => exact Trace.timely_talk hcs
  | @bounced cs w b f x hcs hw =>
    simp only [List.map_append, List.map_cons, Trace.timely_append, foldl_lend_talk hcs]
    refine ⟨Trace.timely_talk hcs, rfl, Trace.timely_append.mpr ⟨Trace.timely_wraps hw, ?_⟩⟩
    rw [foldl_lend_wraps hw]
    exact ⟨rfl, trivial⟩
  | @acquired cs w b f hcs hw =>
    simp only [List.map_append, List.map_cons, Trace.timely_append, foldl_lend_talk hcs]
    exact ⟨Trace.timely_talk hcs, rfl, Trace.timely_wraps hw⟩
  | taken => exact ⟨trivial, trivial⟩
  | refused d text hf =>
    rw [Trace.timely_append, hf.lend]
    exact ⟨hf.timely _, rfl, trivial⟩
  | @shown b h c g t d hf =>
    rw [Trace.timely_append, hf.lend]
    refine ⟨hf.timely _, rfl, ?_⟩
    cases h with
    | none => trivial
    | some f => exact ⟨trivial, trivial⟩
  | cancelled => exact ⟨rfl, trivial⟩

/-- The calls of an operation continue the episodes. -/
theorem Passage.partway {h k : Option Held} {c : Option Fence} {s : Bool}
    (hp : Passage h c s t k) {cs : List Call} (hcs : Partway cs h) : Partway (cs ++ t.calls) k := by
  cases hp with
  | still => simpa using hcs
  | unused => simpa using hcs
  | talk htalk => simpa using hcs.talk htalk
  | @bounced ds w b f x htalk hw =>
    have hb := (hcs.talk htalk).dequeue (f := f) fun c hc => (hw c hc).uses
    have he : (Call.cancel b f x).Ends b := rfl
    simpa using hb.ends he
  | acquired w htalk hw => simpa using (hcs.talk htalk).dequeue fun c hc => (hw c hc).uses
  | taken b f => simpa using hcs.fence none
  | @refused b h c g t d text hf =>
    have hq : ∀ c ∈ [Call.queue b g d (.refused text)], c.Uses b := by simp [Call.Uses]
    simpa [hf.calls_eq] using hcs.uses hq
  | @shown b h c g t d hf =>
    have he : (Call.queue b g d (.given ())).Ends b := rfl
    simpa [hf.calls_eq] using hcs.ends he
  | @cancelled b h x =>
    have he : (Call.cancel b h x).Ends b := rfl
    exact hcs.ends he

/-! ## A whole life -/

theorem timely_performAll (h : p.Consistent) (os : List Operation) :
    (p.performAll os).2.Timely p.held := by
  induction os generalizing p with
  | nil => trivial
  | cons o os ih =>
    have ho := passage_perform h o
    have hl := ho.lend
    have ht := ho.timely
    rw [Outcome.acts, foldl_lend_acts] at hl
    rw [Outcome.acts, Trace.timely_acts] at ht
    rw [performAll_cons, Trace.timely_append, hl]
    exact ⟨ht, ih (consistent_perform h o)⟩

theorem partway_performAll (h : p.Consistent) (os : List Operation) {cs : List Call}
    (hcs : Partway cs p.held) :
    Partway (cs ++ (p.performAll os).2.calls) (p.performAll os).1.held := by
  induction os generalizing p cs with
  | nil => simpa [Trace.calls] using hcs
  | cons o os ih =>
    have ho := (passage_perform h o).partway hcs
    rw [Outcome.acts, Trace.calls_acts] at ho
    simpa using ih (consistent_perform h o) ho

/-- Creating a pool is talk. -/
theorem create_talk {query : Answer WindowProfile} {gpu : GpuLimits} {configured : Answer Unit}
    {color : ColorSetup} {settings : Settings} {t : Trace}
    (h : (create query gpu configured color settings).result = .ok p)
    (ht : (create query gpu configured color settings).trace = t) :
    Episodes t.calls ∧ t.Timely none ∧ t.foldl Event.lend none = none := by
  obtain ⟨m, dataspace, requested, -, -, -, -, -, -, hacts⟩ := create_eq_ok h
  obtain ⟨cs, hcs, htalk⟩ : ∃ cs : List Call, t.acts = cs.map .call ∧
      ∀ c ∈ cs, c.isTalk = true := ⟨[_, _, _], ht ▸ hacts, by simp [Call.isTalk]⟩
  rw [← Trace.calls_acts, ← Trace.timely_acts, ← foldl_lend_acts, hcs, Trace.calls_map]
  exact ⟨.of_talk htalk, Trace.timely_talk htalk, foldl_lend_talk htalk none⟩

/-- From the creation of a pool to its last release, whatever the caller does in between and
whatever is answered: each buffer that is handed out is given back once, by its handle and before
the next is asked for, and each call comes when it may. -/
theorem hands_back {query : Answer WindowProfile} {gpu : GpuLimits} {configured : Answer Unit}
    {color : ColorSetup} {settings : Settings}
    (h : (create query gpu configured color settings).result = .ok p) (os : List Operation)
    (last : Answers) :
    let t := (create query gpu configured color settings).trace ++
      (p.performAll (os ++ [.release last])).2
    Episodes t.calls ∧ ∀ pre c post, t = pre ++ .call c :: post → c.Timely (Trace.lent pre) := by
  intro t
  obtain ⟨hcalls, htimely, hlent⟩ := create_talk h rfl
  have hp := consistent_create h
  constructor
  · have hopen : Partway (create query gpu configured color settings).trace.calls p.held := by
      rw [held_create h]
      exact hcalls
    have hall := partway_performAll hp (os ++ [.release last]) hopen
    rw [held_released, ← Trace.calls_append] at hall
    exact hall
  · have hall := timely_performAll hp (os ++ [.release last])
    rw [held_create h, ← hlent] at hall
    have ht : t.Timely none := Trace.timely_append.mpr ⟨htimely, hall⟩
    intro pre c post he
    rw [he] at ht
    exact ht.call

/-- A buffer is queued in vain and then cancelled in vain, another cannot be wrapped, and a third
is still in hand when the pool is released. -/
theorem hands_back_refusals :
    let a := Answers.giving (.plain 7 1) none
    let u := { Answers.giving (.plain 8 2) none with wrap := .refused "no memory" }
    let t := (create (.given .plain) .plain (.given ()) .plain .builtin).trace ++
      (plain.performAll ([.dequeue a, .present { a with queue := .refused "busy" } none none,
        .cancel { a with cancel := .refused "gone" }, .dequeue u, .dequeue a] ++ [.release a])).2
    t.calls.length = 15 ∧ Episodes t.calls := by
  intro a u t
  exact ⟨by decide, (hands_back create_plain _ a).1⟩

end Pool
end Swapchain
