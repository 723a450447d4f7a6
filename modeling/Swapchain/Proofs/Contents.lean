import Swapchain.Proofs.Age

/-!
# Whether known pixels are intact

The pixels of a slot are known from a present on. The pool does not look at draws, so what they are
worth depends on how the next frames in the buffer end: a present shows them, and then they are the
pixels of this present; a cancel leaves them known, drawn on or not.

What is done to a buffer is recorded buffer by buffer, from the operations and their answers. In
every slot that is not current, every draw since the last present is one that was cancelled
(`Traced`). So known pixels are intact unless a frame in the buffer has been cancelled.

* `Pool.touch?`, `Pool.record`: what an operation and a run do to a buffer;
* `Pool.Inherits`: operations that make no pixels known;
* `Pool.Traced`: what is on record of known pixels, `Traced.perform` for one operation and
  `Traced.performAll` for a run;
* `Pool.known_pixels_intact_unless_cancelled`: what a renderer can rely on.
-/

namespace Swapchain

/-- What can be done to a buffer while it is current. -/
inductive Touch where
  | drawn
  | shown
  /-- The buffer was given back unused. -/
  | cancelled
  deriving DecidableEq, Repr

namespace Touch

variable {h post : List Touch} {e : Touch}

/-- What has been done to a buffer since it was last shown. -/
def Since (h post : List Touch) : Prop := ∃ pre, h = pre ++ .shown :: post ∧ .shown ∉ post

/-- Every draw was of a frame that has been cancelled. -/
def Abandoned (post : List Touch) : Prop := ∀ l r, post = l ++ .drawn :: r → .cancelled ∈ r

theorem Since.mem (hs : Since h post) (he : e ∈ post) : e ∈ h := by
  obtain ⟨pre, rfl, -⟩ := hs
  exact List.mem_append_right _ (List.mem_cons_of_mem _ he)

theorem since_shown (h : List Touch) : Since (h ++ [.shown]) [] := ⟨h, rfl, List.not_mem_nil⟩

theorem Since.concat (hs : Since h post) (he : e ≠ .shown) : Since (h ++ [e]) (post ++ [e]) := by
  obtain ⟨pre, rfl, hpost⟩ := hs
  refine ⟨pre, by simp, ?_⟩
  simpa [hpost] using he.symm

theorem abandoned_nil : Abandoned [] := fun l r hr => by
  simp at hr

/-- A cancel abandons all that was drawn before. -/
theorem abandoned_concat (post : List Touch) : Abandoned (post ++ [.cancelled]) := fun l r hr => by
  rcases (split_concat (Q := (· = r))).mp ⟨l, r, hr, rfl⟩ with ⟨⟨⟩, -⟩ | ⟨pre, mid, -, rfl⟩
  exact List.mem_append_right _ (List.mem_singleton_self _)

theorem Abandoned.not_drawn (ha : Abandoned post) (hc : .cancelled ∉ post) : .drawn ∉ post :=
  fun hd => by
    obtain ⟨l, r, rfl⟩ := List.append_of_mem hd
    exact hc (List.mem_append_right _ (List.mem_cons_of_mem _ (ha l r rfl)))

end Touch

namespace Pool

variable {p q : Pool} {a : Answers} {t : Trace} {n : Nat}
variable {H : BufferId → List Touch}

/-! ## The record of a buffer -/

/-- What an operation does to the buffer that is current. -/
def touch? (p : Pool) : Operation → Option Touch
  | .draw => some .drawn
  | .present a dirty completion =>
    (p.present a dirty completion).result.toOption.map fun () => .shown
  | .cancel _ => some .cancelled
  | .dequeue _ | .resize _ _ | .release _ | .takeFence => none

/-- What an operation does to a buffer. -/
def touches (id : BufferId) (p : Pool) (o : Operation) : List Touch :=
  if p.currentId = some id then (p.touch? o).toList else []

/-- What a run does to a buffer, oldest first. -/
def record (id : BufferId) (p : Pool) : List Operation → List Touch
  | [] => []
  | o :: os => p.touches id o ++ (p.perform o).pool.record id os

/-! ## Known pixels -/

/-- Known pixels have been shown, and every draw since was of a frame that has been cancelled or is
still current. -/
def Traced (H : BufferId → List Touch) (p : Pool) : Prop :=
  ∀ i s id, p.slots.get? i = some s → s.valid = true → s.bufferId = some id →
    ∃ post, Touch.Since (H id) post ∧ (p.current = some i ∨ Touch.Abandoned post)

theorem traced_ofCapacity (hs : p.slots = .ofCapacity n) : p.Traced H := fun i s id hi hv => by
  rw [hs] at hi
  cases (SlotTable.valid_ofCapacity hi).symm.trans hv

/-- Pixels that are known in `q` have been known in `p`, of the same buffer, and no such buffer has
stopped being current. -/
def Inherits (p q : Pool) : Prop :=
  ∀ i s id, q.slots.get? i = some s → s.valid = true → s.bufferId = some id →
    (p.current = some i → q.current = some i) ∧
      ∃ s₀, p.slots.get? i = some s₀ ∧ s₀.valid = true ∧ s₀.bufferId = some id

theorem Traced.inherits (ht : p.Traced H) (hi : p.Inherits q) : q.Traced H := by
  intro i s id hs hv hid
  obtain ⟨hcur, s₀, hs₀, hv₀, hid₀⟩ := hi i s id hs hv hid
  obtain ⟨post, hsince, hpost⟩ := ht i s₀ id hs₀ hv₀ hid₀
  exact ⟨post, hsince, hpost.imp_left hcur⟩

namespace Inherits

theorem refl (p : Pool) : p.Inherits p := fun _ s _ hs hv hid => ⟨id, s, hs, hv, hid⟩

theorem trans {m : Pool} (hp : p.Inherits m) (hm : m.Inherits q) : p.Inherits q := by
  intro i s id hs hv hid
  obtain ⟨hmq, s₁, hs₁, hv₁, hid₁⟩ := hm i s id hs hv hid
  obtain ⟨hpm, hs₀⟩ := hp i s₁ id hs₁ hv₁ hid₁
  exact ⟨hmq ∘ hpm, hs₀⟩

theorem ofCapacity (hs : q.slots = .ofCapacity n) : p.Inherits q := fun i s id hi hv => by
  rw [hs] at hi
  cases (SlotTable.valid_ofCapacity hi).symm.trans hv

theorem beginEpoch (l : Layout) (p : Pool) : p.Inherits (p.beginEpoch l) :=
  fun _ s _ hs hv hid => ⟨id, s, hs, hv, hid⟩

/-- A slot of which anything is known has not been released. -/
theorem releaseIdle (p : Pool) : p.Inherits p.releaseIdle := by
  intro i s id hs hv hid
  obtain ⟨s₀, hs₀, rfl⟩ := Option.map_eq_some_iff.mp
    ((SlotTable.get?_releaseIdle p.slots i).symm.trans hs)
  cases hd : s₀.dequeued with
  | true =>
    rw [hd, if_pos rfl] at hv hid
    exact ⟨fun hi => hi, s₀, hs₀, hv, hid⟩
  | false =>
    rw [hd] at hv
    cases hv

/-- A change of geometry makes no pixels known. -/
theorem relaid (l : Layout) (p : Pool) : p.Inherits (p.beginEpoch l).releaseIdle :=
  (beginEpoch l p).trans (releaseIdle _)

/-- A change of one slot that leaves its pixels known only if they are those of the same buffer. -/
theorem modify {i : Nat} {f : Slot → Slot} {c : Option Nat}
    (hf : ∀ s, p.slots.get? i = some s → (f s).valid = true →
      s.valid = true ∧ (f s).bufferId = s.bufferId)
    (hc : p.current = none ∨ c = p.current) :
    p.Inherits { p with slots := p.slots.modify i f, current := c } := by
  intro j s id hs hv hid
  refine ⟨fun hj => ?_, ?_⟩
  · rcases hc with hc | rfl
    · cases hc.symm.trans hj
    · exact hj
  · refine SlotTable.forall_modify
      (fun j s => s.valid = true → s.bufferId = some id →
        ∃ s₀, p.slots.get? j = some s₀ ∧ s₀.valid = true ∧ s₀.bufferId = some id)
      (fun s hs hv hid => ?_) (fun j s _ hs hv hid => ⟨s, hs, hv, hid⟩) hs hv hid
    obtain ⟨hv₀, hid₀⟩ := hf s hs hv
    exact ⟨s, hs, hv₀, hid₀.symm.trans hid⟩

end Inherits

/-! ## Operations that make no pixels known -/

theorem Follows.inherits {r : Except PoolError Unit} (hf : Follows a p r q t) : p.Inherits q := by
  cases hf with
  | stays | rejected => exact .refl p
  | turned =>
    unfold underHint
    dsimp only
    split
    · exact .beginEpoch _ p
    · exact .relaid _ p

theorem inherits_adopt {b : Buffer} (ha : p.adopt b = .ok q) : p.Inherits q := by
  rcases adopt_cases ha with ⟨-, rfl⟩ | ⟨-, -, rfl⟩
  · exact .refl q
  · exact .relaid _ p

theorem Obtains.inherits {b : Buffer} {f : Option Fence} {i : Nat} {cs : List Call}
    (ho : Obtains b f i p cs q) (hc : p.current = none) : p.Inherits q := by
  cases ho with
  | cached hcache =>
    obtain ⟨s, hs, hid, -⟩ := caches_iff.mp hcache
    refine .modify (fun u hu hv => ?_) (.inl hc)
    rw [hs] at hu
    cases hu
    exact ⟨hv, hid.symm⟩
  | wrapped => exact .modify (fun u _ hv => nomatch hv) (.inl hc)

theorem Acquires.inherits {r : Except PoolError Nat} (ha : Acquires a p r q t) (hp : p.Consistent)
    (hc : p.current = none) : p.Inherits q := by
  cases r with
  | error e =>
    obtain ⟨rfl, -⟩ := ha.failed
    exact .refl q
  | ok i =>
    obtain ⟨b, f, m, cs, -, hm, -, -, ho⟩ := ha.obtains
    exact (inherits_adopt hm).trans (ho.inherits (hp.adopt hc hm).2)

theorem Dequeues.inherits {r : Except PoolError Nat} (hd : Dequeues a p r q t)
    (hp : p.Consistent) : p.Inherits q := by
  cases hd with
  | busy => exact .refl p
  | rejected hc hf => exact hf.inherits
  | acquires hc hf ha =>
    obtain ⟨hm, hmc⟩ := hf.consistent hp (hp.current_eq_none hc)
    exact hf.inherits.trans (ha.inherits hm hmc)

theorem Dequeues.currentId {i : Nat} (hd : Dequeues a p (.ok i) q t) : p.currentId = none := by
  cases hd with
  | acquires hc => exact hc

theorem Resizes.inherits {size : Extent} {r : Except PoolError Unit}
    (hr : Resizes a size p r q t) : p.Inherits q := by
  cases hr with
  | busy | degenerate | rejected => exact .refl p
  | resized => exact .relaid _ p

theorem Changes.inherits {f : Slot → Slot} {gives : Slot → Trace} (hg : Changes f gives p q t)
    (hf : ∀ s, (f s).valid = s.valid ∧ (f s).bufferId = s.bufferId) : p.Inherits q := by
  cases hg with
  | nothing => exact .refl p
  | changed => exact .modify (fun s _ hv => ⟨(hf s).1 ▸ hv, (hf s).2⟩) (.inr rfl)

/-! ## Operations on the current buffer -/

/-- Nothing is recorded while nothing is current. -/
theorem Traced.idle (ht : p.Traced H) (hc : p.current? = none) {l : List Touch} :
    p.Traced fun id => H id ++ if p.currentId = some id then l else [] := by
  simpa [currentId, hc] using ht

/-- What is done to the current buffer is recorded for no other. -/
theorem Traced.touched (ht : p.Traced H) (hp : p.Consistent) {c : Current}
    (hc : p.current? = some c) {f : Slot → Slot} {cur : Option Nat} {e : Touch}
    (hf : ∀ s, (f s).bufferId = s.bufferId)
    (hnew : (f c.slot).valid = true → ∃ post, Touch.Since (H c.buffer.id ++ [e]) post ∧
      (cur = some c.index ∨ Touch.Abandoned post)) :
    ({ p with slots := p.slots.modify c.index f, current := cur, presents := n } : Pool).Traced
      fun id => H id ++ if p.currentId = some id then [e] else [] := by
  obtain ⟨hi, hcs, -⟩ := current?_eq_some_iff.mp hc
  have hcid := bufferId_of_current? hc
  have hcur := currentId_of_current? hc
  intro i s id hs hv hid
  dsimp only at hs ⊢
  by_cases hij : c.index = i
  · subst hij
    rw [SlotTable.get?_modify_self, hcs] at hs
    cases hs
    cases hcid.symm.trans ((hf _).symm.trans hid)
    rw [if_pos hcur]
    exact hnew hv
  · rw [SlotTable.get?_modify_ne _ _ hij] at hs
    have hne : p.currentId ≠ some id := fun h =>
      hij (hp.distinct _ _ _ _ id hcs hs (hcid.trans (hcur.symm.trans h)) hid)
    obtain ⟨post, hsince, hpost⟩ := ht i s id hs hv hid
    rw [if_neg hne, List.append_nil]
    exact ⟨post, hsince, .inr (hpost.resolve_left fun h => hij (Option.some.inj (hi.symm.trans h)))⟩

/-- What has been done to the current buffer since it was shown, with one thing more. -/
theorem Traced.since (ht : p.Traced H) {c : Current} (hc : p.current? = some c)
    (hv : c.slot.valid = true) {e : Touch} (he : e ≠ .shown) :
    ∃ post, Touch.Since (H c.buffer.id ++ [e]) (post ++ [e]) := by
  obtain ⟨-, hcs, -⟩ := current?_eq_some_iff.mp hc
  obtain ⟨post, hsince, -⟩ := ht _ _ _ hcs hv (bufferId_of_current? hc)
  exact ⟨post, hsince.concat he⟩

theorem Presents.traced {dirty : Option Rect} {completion : Option Fence}
    {r : Except PoolError Unit} (hpr : Presents a dirty completion p r q t) (ht : p.Traced H)
    (hp : p.Consistent) :
    q.Traced fun id => H id ++
      if p.currentId = some id then (r.toOption.map fun () => Touch.shown).toList else [] := by
  cases hpr with
  | nothing hc => exact ht.idle hc
  | unforwarded | refused => simpa [Except.toOption] using ht
  | shown hc =>
    exact ht.touched hp hc (fun _ => rfl) fun _ => ⟨[], Touch.since_shown _, .inr Touch.abandoned_nil⟩

theorem Cancels.traced {r : Except PoolError Unit} (hca : Cancels a p r q t) (ht : p.Traced H)
    (hp : p.Consistent) :
    q.Traced fun id => H id ++ if p.currentId = some id then [.cancelled] else [] := by
  cases hca with
  | nothing hc => exact ht.idle hc
  | returned hc | disowned hc =>
    refine ht.touched hp hc (fun _ => rfl) fun hv => ?_
    obtain ⟨post, hsince⟩ := ht.since hc hv (e := .cancelled) nofun
    exact ⟨_, hsince, .inr (Touch.abandoned_concat post)⟩

/-- A frame that has been drawn on is current. -/
theorem traced_draw (ht : p.Traced H) (hp : p.Consistent) :
    p.draw.pool.Traced fun id => H id ++ if p.currentId = some id then [.drawn] else [] := by
  unfold draw
  cases hc : p.current? with
  | none => exact ht.idle hc
  | some c =>
    refine ht.touched hp hc (fun _ => rfl) fun hv => ?_
    obtain ⟨post, hsince⟩ := ht.since hc hv (e := .drawn) nofun
    exact ⟨_, hsince, .inl (current?_eq_some_iff.mp hc).1⟩

/-! ## Every operation and every run -/

theorem Traced.perform (ht : p.Traced H) (hp : p.Consistent) (o : Operation) :
    (p.perform o).pool.Traced fun id => H id ++ p.touches id o := by
  -- An operation that touches nothing is not on record.
  have quiet : p.touch? o = none → p.Inherits (p.perform o).pool →
      (p.perform o).pool.Traced fun id => H id ++ p.touches id o := fun ho hi => by
    simpa [touches, ho] using ht.inherits hi
  cases o with
  | dequeue a => exact quiet rfl ((dequeue_cases a hp.rests).inherits hp)
  | present a dirty completion => exact (present_cases a dirty completion p).traced ht hp
  | cancel a => exact (cancel_cases a p).traced ht hp
  | resize a size => exact quiet rfl (resize_cases a size p).inherits
  | release a => exact quiet rfl (.ofCapacity rfl)
  | takeFence => exact quiet rfl ((takeFence_cases p).inherits fun _ => ⟨rfl, rfl⟩)
  | draw => exact traced_draw ht hp

theorem Traced.performAll (ht : p.Traced H) (hp : p.Consistent) (os : List Operation) :
    (p.performAll os).1.Traced fun id => H id ++ p.record id os := by
  induction os generalizing p H with
  | nil => simpa [record] using ht
  | cons o os ih =>
    simpa [record, List.append_assoc] using ih (ht.perform hp o) (consistent_perform hp o)

theorem traced_create {query : Answer WindowProfile} {gpu : GpuLimits} {configured : Answer Unit}
    {color : ColorSetup} {settings : Settings}
    (h : (create query gpu configured color settings).result = .ok p) (os : List Operation) :
    (p.performAll os).1.Traced fun id => p.record id os := by
  obtain ⟨m, dataspace, requested, -, -, -, -, rfl, -⟩ := create_eq_ok h
  have ht := (traced_ofCapacity (H := fun _ => []) rfl).performAll (consistent_create h) os
  simpa using ht

/-- After every run and a dequeue that succeeds, a current buffer that has an age has been shown,
and every draw on it since was of a frame that has been cancelled. So if no frame in the buffer has
been cancelled since, then nothing has been drawn on it, and its pixels are those that were shown. -/
theorem known_pixels_intact_unless_cancelled {query : Answer WindowProfile} {gpu : GpuLimits}
    {configured : Answer Unit} {color : ColorSetup} {settings : Settings}
    (h : (create query gpu configured color settings).result = .ok p) (os : List Operation)
    (a : Answers) {i k : Nat} (hr : ((p.performAll os).1.dequeue a).result = .ok i)
    (hage : ((p.performAll os).1.dequeue a).pool.currentAge = some k) :
    ∃ id post, ((p.performAll os).1.dequeue a).pool.currentId = some id ∧
      Touch.Since (p.record id os) post ∧ Touch.Abandoned post ∧
      (.cancelled ∉ post → .drawn ∉ post) := by
  have hp : (p.performAll os).1.Consistent := ((Reachable.created h).performAll os).consistent
  have hd := dequeue_cases a hp.rests
  rw [hr] at hd
  obtain ⟨b, f, c, -, hc, -, -⟩ := hd.current?
  obtain ⟨-, hs, -⟩ := current?_eq_some_iff.mp hc
  have hv : c.slot.valid = true := ((currentAge_eq_some_iff hc).mp hage).1
  obtain ⟨-, s, hs₀, hv₀, hid₀⟩ := hd.inherits hp _ _ _ hs hv (bufferId_of_current? hc)
  obtain ⟨post, hsince, hpost⟩ := traced_create h os _ _ _ hs₀ hv₀ hid₀
  have habandoned : Touch.Abandoned post := hpost.resolve_left fun hcur => by
    cases (hp.current_eq_none hd.currentId).symm.trans hcur
  exact ⟨c.buffer.id, post, currentId_of_current? hc, hsince, habandoned, habandoned.not_drawn⟩

/-- Buffers 7 and 8 have each been drawn on and shown. Buffer 7 comes again with the age 1, and has
not been drawn on since it was shown. -/
theorem known_pixels_intact_unless_cancelled_behind :
    let a := Answers.giving (.plain 7 1) none
    let b := Answers.giving (.plain 8 2) none
    let frames : List Operation := [.dequeue a, .draw, .present a none none, .dequeue b, .draw,
      .present b none none]
    ∃ post, Touch.Since (plain.record ⟨7⟩ frames) post ∧ .drawn ∉ post := by
  intro a b frames
  have hr : ((plain.performAll frames).1.dequeue a).result = .ok 0 := by
    simp only [frames, a, b]
    rfl
  have hcur : ((plain.performAll frames).1.dequeue a).pool.currentId = some ⟨7⟩ := by decide
  have hnone : .cancelled ∉ plain.record ⟨7⟩ frames := by decide
  obtain ⟨id, post, hid, hsince, -, hintact⟩ :=
    known_pixels_intact_unless_cancelled create_plain frames a hr (k := 1) (by decide)
  cases hcur.symm.trans hid
  exact ⟨post, hsince, hintact fun hc => hnone (hsince.mem hc)⟩

/-- Buffer 7 has been shown, and a frame drawn in it since has been cancelled. It comes again with
the age 0, as if it still had the pixels that were shown. -/
theorem known_pixels_drawn_over :
    let a := Answers.giving (.plain 7 1) none
    let frames : List Operation := [.dequeue a, .present a none none, .dequeue a, .draw, .cancel a]
    let q := ((plain.performAll frames).1.dequeue a).pool
    ((plain.performAll frames).1.dequeue a).result = .ok 0 ∧ q.currentId = some ⟨7⟩ ∧
      q.currentAge = some 0 ∧
      Touch.Since (plain.record ⟨7⟩ frames) [.drawn, .cancelled] := by
  intro a frames q
  have hr : ((plain.performAll frames).1.dequeue a).result = .ok 0 := by
    simp only [frames, a]
    rfl
  exact ⟨hr, by decide, by decide, [], by decide, by decide⟩

end Pool
end Swapchain
