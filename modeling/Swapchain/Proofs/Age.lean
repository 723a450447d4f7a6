import Swapchain.Proofs.Freshness

/-!
# How old the pixels of a buffer are

A caller who draws only what has changed must know which frame a buffer last showed. The pool
keeps a counter of its presents, and with each slot the number of its last present, a flag and an
epoch. `Recalls` says that these are what the history says: a slot remembers exactly the last
present of its buffer that nothing has spoiled since, and the counter how many came after it.

* `Deed.sparesPixels`: what does not spoil the pixels of a buffer;
* `Pool.ShownAgo`: the last present of a buffer, and how many came after it, by the history;
* `Pool.Remembers`: the same, by a slot;
* `Pool.age_counts_presents`: the age of every dequeued buffer.
-/

namespace Swapchain

/-- Whether slot `i` still has the pixels of the last present of a buffer. They are lost with the
geometry, when everything is released, and to another buffer; a later present replaces them. -/
def Deed.sparesPixels (i : Nat) (id : BufferId) : Deed → Bool
  | configured _ | adopted _ | released => false
  | obtained j b _ => j != i || b.id == id
  | shown _ id' => id' != id

namespace Pool

variable {h : List Deed} {d : Deed} {i j n : Nat} {id : BufferId}

/-! ## By the history -/

/-- The buffer's last present was from slot `i`, which has kept its pixels, and `n` presents have
come after it. -/
def ShownAgo (h : List Deed) (i : Nat) (id : BufferId) (n : Nat) : Prop :=
  ∃ pre post, h = pre ++ .shown i id :: post ∧
    (∀ e ∈ post, e.sparesPixels i id = true) ∧ post.countP Deed.isShown = n

theorem shownAgo_concat : ShownAgo (h ++ [d]) i id n ↔
    (d = .shown i id ∧ n = 0) ∨
      d.sparesPixels i id = true ∧ ∃ m, ShownAgo h i id m ∧ n = m + if d.isShown then 1 else 0 := by
  unfold ShownAgo
  rw [split_concat]
  refine or_congr ?_ ⟨?_, ?_⟩
  · exact and_congr_right fun _ =>
      ⟨fun hq => hq.2.symm, fun hn => ⟨List.forall_mem_nil _, hn.symm⟩⟩
  · rintro ⟨pre, post, hh, hkeeps, hn⟩
    obtain ⟨hpost, hd⟩ := List.forall_mem_append.mp hkeeps
    refine ⟨hd d List.mem_cons_self, _, ⟨pre, post, hh, hpost, rfl⟩, ?_⟩
    rw [← hn, List.countP_append, List.countP_singleton]
  · rintro ⟨hd, m, ⟨pre, post, hh, hpost, hm⟩, hn⟩
    refine ⟨pre, post, hh, List.forall_mem_append.mpr ⟨hpost, by simpa using hd⟩, ?_⟩
    rw [hn, ← hm, List.countP_append, List.countP_singleton]

/-- A deed that spoils all pixels. -/
theorem not_shownAgo_of_spoils (hd : ∀ i id, d ≠ .shown i id) (hk : d.sparesPixels i id = false) :
    ¬ ShownAgo (h ++ [d]) i id n := by
  rw [shownAgo_concat, hk]
  rintro (⟨hs, -⟩ | ⟨⟨⟩, -⟩)
  exact hd _ _ hs

/-- A buffer that comes into a slot costs any other buffer its pixels there. -/
theorem shownAgo_obtained {b : Buffer} {u : Option Surface} :
    ShownAgo (h ++ [.obtained j b u]) i id n ↔ (j = i → b.id = id) ∧ ShownAgo h i id n := by
  rw [shownAgo_concat]
  simp [Deed.sparesPixels, Deed.isShown, Decidable.imp_iff_not_or]

theorem shownAgo_shown {id' : BufferId} : ShownAgo (h ++ [.shown j id']) i id n ↔
    (j = i ∧ id' = id ∧ n = 0) ∨ id' ≠ id ∧ ∃ m, ShownAgo h i id m ∧ n = m + 1 := by
  rw [shownAgo_concat]
  simp [Deed.sparesPixels, Deed.isShown, and_assoc]

end Pool

/-! ## By a slot -/

/-- The slot knows that its buffer was shown in an epoch, and that `n` of so many presents have come
after it. -/
structure Slot.Knows (epoch presents : Nat) (id : BufferId) (n : Nat) (s : Slot) : Prop where
  bufferId : s.bufferId = some id
  valid : s.valid = true
  epoch_eq : s.epoch = epoch
  after : s.lastShown + n = presents

namespace Slot

variable {s u : Slot} {epoch presents n : Nat} {id : BufferId}

theorem Alike.knows (ha : s.Alike u) (hu : u.Knows epoch presents id n) :
    s.Knows epoch presents id n where
  bufferId := ha.bufferId.trans hu.bufferId
  valid := ha.valid.trans hu.valid
  epoch_eq := ha.epoch.trans hu.epoch_eq
  after := ha.lastShown ▸ hu.after

/-- A slot that has just been shown. -/
theorem knows_shown (he : s.epoch = epoch) :
    (s.shown presents).Knows epoch presents id n ↔ s.bufferId = some id ∧ n = 0 := by
  constructor
  · rintro ⟨hid, -, -, hn⟩
    exact ⟨hid, by simpa [Slot.shown] using hn⟩
  · rintro ⟨hid, rfl⟩
    exact ⟨hid, rfl, he, rfl⟩

/-- One more present. -/
theorem knows_succ (hs : s.lastShown ≤ presents) :
    s.Knows epoch (presents + 1) id n ↔ ∃ m, s.Knows epoch presents id m ∧ n = m + 1 := by
  constructor
  · rintro ⟨hid, hv, he, hn⟩
    exact ⟨presents - s.lastShown, ⟨hid, hv, he, by omega⟩, by omega⟩
  · rintro ⟨m, ⟨hid, hv, he, hm⟩, rfl⟩
    exact ⟨hid, hv, he, by omega⟩

end Slot

namespace Pool

variable {p₀ p q : Pool} {a : Answers} {t : Trace} {h : List Deed}
variable {i j n : Nat} {id : BufferId}

/-- Slot `i` knows that its buffer was shown, and that `n` presents have come after it. -/
def Remembers (p : Pool) (i : Nat) (id : BufferId) (n : Nat) : Prop :=
  ∃ s, p.slots.get? i = some s ∧ s.Knows p.epoch p.presents id n

theorem not_remembers_ofCapacity {m : Nat} (hs : p.slots = .ofCapacity m) :
    ¬ p.Remembers i id n := by
  rintro ⟨s, hi, hknows⟩
  rw [hs] at hi
  rw [SlotTable.eq_empty_of_get?_ofCapacity hi] at hknows
  cases hknows.bufferId

/-- No slot knows of an epoch to come. -/
theorem not_remembers_of_epoch_lt (hp : ∀ i s, q.slots.get? i = some s → s.epoch < q.epoch) :
    ¬ q.Remembers i id n := by
  rintro ⟨s, hs, hknows⟩
  have hlt := hp i s hs
  have he := hknows.epoch_eq
  omega

/-- What the changed slot of a table knows. -/
theorem remembers_modify_self {f : Slot → Slot} {s : Slot} (hq : q.slots = p.slots.modify j f)
    (hs : p.slots.get? j = some s) :
    q.Remembers j id n ↔ (f s).Knows q.epoch q.presents id n := by
  unfold Remembers
  rw [hq, SlotTable.get?_modify_self, hs]
  simp

/-- What the other slots know. -/
theorem remembers_modify_ne {f : Slot → Slot} (hq : q.slots = p.slots.modify j f) (hij : j ≠ i) :
    q.Remembers i id n ↔ ∃ s, p.slots.get? i = some s ∧ s.Knows q.epoch q.presents id n := by
  unfold Remembers
  rw [hq, SlotTable.get?_modify_ne _ _ hij]

/-- A buffer that comes into slot `j`, in which only this buffer's pixels can be known. -/
theorem remembers_takeInto {b : Buffer} {change : Slot → Slot} (f : Option Fence) {s : Slot}
    (hs : p.slots.get? j = some s)
    (hknows : ∀ id n, ((change s).start f).Knows p.epoch p.presents id n ↔
      b.id = id ∧ s.Knows p.epoch p.presents id n) :
    (p.takeInto j change f).Remembers i id n ↔ (j = i → b.id = id) ∧ p.Remembers i id n := by
  have hq : (p.takeInto j change f).slots = p.slots.modify j fun s => (change s).start f := rfl
  by_cases hij : j = i
  · subst hij
    rw [remembers_modify_self hq hs]
    refine (hknows id n).trans (and_congr (by simp) ?_)
    simp [Remembers, hs]
  · rw [remembers_modify_ne hq hij]
    exact (and_iff_right (absurd · hij)).symm

theorem remembers_renewed {b : Buffer} {f : Option Fence} (hcache : p.caches j b.id = true) :
    (p.takeInto j (·.renew b) f).Remembers i id n ↔ (j = i → b.id = id) ∧ p.Remembers i id n := by
  obtain ⟨s, hs, hid, -, -⟩ := caches_iff.mp hcache
  refine remembers_takeInto f hs fun id n => ⟨fun hk => ?_, fun ⟨hb, hk⟩ => ?_⟩
  · have hb : b.id = id := Option.some.inj hk.bufferId
    exact ⟨hb, hid.trans (congrArg some hb), hk.valid, hk.epoch_eq, hk.after⟩
  · exact ⟨congrArg some hb, hk.valid, hk.epoch_eq, hk.after⟩

theorem remembers_wrapped (hp : p.Consistent) {b : Buffer} {u : Surface} {f : Option Fence}
    (hj : p.slots.placeFor? b.id = some j) (hcache : p.caches j b.id = false) :
    (p.takeInto j (·.hold b u p.epoch) f).Remembers i id n ↔
      (j = i → b.id = id) ∧ p.Remembers i id n := by
  obtain ⟨s, hs⟩ := SlotTable.get?_placeFor? hj
  refine remembers_takeInto f hs fun id n => ⟨fun hk => ?_, fun ⟨hb, hk⟩ => ?_⟩
  · cases hk.valid
  · -- A slot that knew the pixels would have had a surface.
    obtain ⟨v, hv⟩ := (hp.whole j s hs).exists_surface hk.bufferId
    have hcaches : p.caches j b.id = true :=
      caches_iff.mpr ⟨s, hs, hb ▸ hk.bufferId, Option.isSome_iff_exists.mpr ⟨v, hv⟩, hk.epoch_eq⟩
    rw [hcache] at hcaches
    cases hcaches

theorem remembers_presented (hp : p.Consistent)
    (hle : ∀ i s, p.slots.get? i = some s → s.lastShown ≤ p.presents) {c : Current}
    (hc : p.current? = some c) (he : c.slot.epoch = p.epoch) :
    (p.presented c.index).Remembers i id n ↔ (c.index = i ∧ c.buffer.id = id ∧ n = 0) ∨
      c.buffer.id ≠ id ∧ ∃ m, p.Remembers i id m ∧ n = m + 1 := by
  obtain ⟨-, hs, -⟩ := current?_eq_some_iff.mp hc
  have hq : (p.presented c.index).slots =
      p.slots.modify c.index (Slot.shown (p.presents + 1)) := rfl
  have hid := bufferId_of_current? hc
  by_cases hij : c.index = i
  · subst hij
    rw [remembers_modify_self hq hs]
    refine (Slot.knows_shown he).trans ?_
    rw [hid, Option.some_inj]
    refine ⟨fun hk => .inl ⟨rfl, hk⟩, ?_⟩
    rintro (⟨-, hk⟩ | ⟨hne, m, ⟨s, hs', hk⟩, -⟩)
    · exact hk
    · rw [hs] at hs'
      cases hs'
      exact absurd (Option.some.inj (hid.symm.trans hk.bufferId)) hne
  · rw [remembers_modify_ne hq hij]
    constructor
    · rintro ⟨s, hs', hk⟩
      refine .inr ⟨fun heq => hij ?_, ?_⟩
      · exact hp.distinct _ _ _ _ _ hs hs' (hid.trans (congrArg some heq)) hk.bufferId
      · obtain ⟨m, hm, hn⟩ := (Slot.knows_succ (hle i s hs')).mp hk
        exact ⟨m, ⟨s, hs', hm⟩, hn⟩
    · rintro (⟨heq, -⟩ | ⟨-, m, ⟨s, hs', hm⟩, hn⟩)
      · exact absurd heq hij
      · exact ⟨s, hs', (Slot.knows_succ (hle i s hs')).mpr ⟨m, hm, hn⟩⟩

theorem remembers_touched {f : Slot → Slot} (hf : ∀ s, (f s).Alike s) {c : Option Nat} :
    ({ p with slots := p.slots.modify j f, current := c } : Pool).Remembers i id n ↔
      p.Remembers i id n := by
  by_cases hij : j = i
  · subst hij
    cases hs : p.slots.get? j with
    | none => simp [Remembers, hs]
    | some s =>
      rw [remembers_modify_self rfl hs]
      simp only [Remembers, hs, Option.some.injEq, exists_eq_left']
      exact ⟨(hf s).symm.knows, (hf s).knows⟩
  · exact remembers_modify_ne rfl hij

/-! ## Both agree -/

/-- What the slots know is what the history says. -/
structure Recalls (h : List Deed) (p : Pool) : Prop where
  lastShown_le : ∀ i s, p.slots.get? i = some s → s.lastShown ≤ p.presents
  shownAgo_iff : ∀ i id n, ShownAgo h i id n ↔ p.Remembers i id n

/-- The counter grows as a buffer is shown. -/
theorem Move.presents {d : Option Deed} (hm : Move p d q) :
    q.presents = if d.any Deed.isShown then p.presents + 1 else p.presents := by
  cases hm with
  | relaid hc hl => cases hl <;> rfl
  | renewed | wrapped | shown | touched | released => rfl

theorem Relays.ne_shown {d : Deed} {l : Layout} (hl : p.Relays d l) : d ≠ .shown i id := by
  cases hl <;> nofun

theorem Relays.sparesPixels_eq {d : Deed} {l : Layout} (hl : p.Relays d l) :
    d.sparesPixels i id = false := by
  cases hl <;> rfl

theorem Recalls.move {d : Option Deed} (hr : p.Recalls h) (hdated : p.Dated h) (hp : p.Consistent)
    (hm : Move p d q) : q.Recalls (h ++ d.toList) where
  lastShown_le i s hs := by
    rw [hm.presents]
    rcases hm.becomes hs with rfl | ⟨-, hb⟩
    · exact Nat.zero_le _
    · cases hb with
      | alike hs₀ ha =>
        have hle := hr.lastShown_le _ _ hs₀
        rw [ha.lastShown]
        split <;> omega
      | renewed f hs₀ => exact (hr.lastShown_le _ _ hs₀ :)
      | wrapped => exact Nat.zero_le _
      | shown => exact Nat.le_refl _
  shownAgo_iff i id n := by
    cases hm with
    | relaid hc hl hu =>
      -- Slots that are kept are of an older epoch now.
      refine iff_of_false (not_shownAgo_of_spoils (fun _ _ => hl.ne_shown) hl.sparesPixels_eq) ?_
      rcases hu with ⟨rfl, -⟩ | rfl
      · exact not_remembers_of_epoch_lt fun i s hs => Nat.lt_succ_of_le (hdated.epoch_le i s hs)
      · exact not_remembers_ofCapacity rfl
    | renewed hc hb hi hcache =>
      rw [remembers_renewed hcache, ← hr.shownAgo_iff]
      exact shownAgo_obtained
    | wrapped serial hc hb hi hcache =>
      rw [remembers_wrapped hp hi hcache, ← hr.shownAgo_iff]
      exact shownAgo_obtained
    | shown hc =>
      rw [remembers_presented hp hr.lastShown_le hc (hdated.current _ hc)]
      simp only [← hr.shownAgo_iff]
      exact shownAgo_shown
    | touched hf =>
      rw [remembers_touched hf, ← hr.shownAgo_iff]
      simp
    | released =>
      exact iff_of_false (not_shownAgo_of_spoils nofun rfl) (not_remembers_ofCapacity rfl)

theorem Life.recalls (hp : Life p₀ h p) : p.Recalls h := by
  induction hp with
  | created hp =>
    obtain ⟨m, dataspace, requested, -, -, -, -, rfl, -⟩ := create_eq_ok hp
    refine ⟨fun i s hs => ?_, fun i id n => iff_of_false ?_ (not_remembers_ofCapacity rfl)⟩
    · rw [SlotTable.eq_empty_of_get?_ofCapacity hs]
      exact Nat.zero_le _
    · exact not_shownAgo_of_spoils (h := []) nofun rfl
  | moved hp hm _ ih => exact ih.move hp.dated hp.consistent hm

/-! ## The current buffer -/

theorem currentAge_eq_some_iff {c : Current} (hc : p.current? = some c) {k : Nat} :
    p.currentAge = some k ↔ c.slot.valid = true ∧ p.presents - c.slot.lastShown = k := by
  obtain ⟨hi, hs, hb⟩ := current?_eq_some_iff.mp hc
  simp [currentAge, slotAge, hi, hs, Slot.isActive, hb]

/-- The age of the current buffer is what the history says. -/
theorem Life.currentAge_iff (hp : Life p₀ h p) {c : Current} (hc : p.current? = some c) {k : Nat} :
    p.currentAge = some k ↔ ∃ i, ShownAgo h i c.buffer.id k := by
  have hr := hp.recalls
  obtain ⟨-, hs, -⟩ := current?_eq_some_iff.mp hc
  have hid := bufferId_of_current? hc
  have hle := hr.lastShown_le _ _ hs
  simp only [currentAge_eq_some_iff hc, hr.shownAgo_iff]
  constructor
  · rintro ⟨hv, hk⟩
    exact ⟨c.index, c.slot, hs, hid, hv, hp.dated.current c hc, by omega⟩
  · rintro ⟨i, s, hi, hk⟩
    obtain rfl := hp.consistent.distinct _ _ _ _ _ hs hi hid hk.bufferId
    rw [hs] at hi
    cases hi
    have hn := hk.after
    exact ⟨hk.valid, by omega⟩

/-- A dequeue that succeeds makes its buffer current. -/
theorem Dequeues.current? (hd : Dequeues a p (.ok i) q t) :
    ∃ b f c, a.dequeue = .given (b, f) ∧ q.current? = some c ∧ c.index = i ∧ c.buffer = b := by
  cases hd with
  | acquires _ _ ha =>
    obtain ⟨b, f, m, cs, hb, -, hi, -, ho⟩ := ha.obtains
    obtain ⟨s, hs⟩ := SlotTable.get?_placeFor? hi
    cases ho with
    | cached | wrapped => exact ⟨b, f, _, hb, current?_takeInto f hs rfl, rfl, rfl⟩

/-- After every run and a dequeue that succeeds the buffer that the window handed out is current.
It has an age exactly if it has been shown and its slot has kept its pixels since: no layout was
taken and no size adopted, also in this dequeue, nothing was released, and the slot was not given
to another buffer. The age is the number of presents that have come after its last one. -/
theorem age_counts_presents {query : Answer WindowProfile} {gpu : GpuLimits}
    {configured : Answer Unit} {color : ColorSetup} {settings : Settings}
    (h : (create query gpu configured color settings).result = .ok p) (os : List Operation)
    (a : Answers) (hr : ((p.performAll os).1.dequeue a).result = .ok i) :
    let q := ((p.performAll os).1.dequeue a).pool
    ∃ b f, a.dequeue = .given (b, f) ∧ q.currentId = some b.id ∧
      ∀ k, q.currentAge = some k ↔ ∃ j, ShownAgo (p.past (os ++ [.dequeue a])) j b.id k := by
  intro q
  have hlife := Life.of_create h (os ++ [.dequeue a])
  rw [performAll_append] at hlife
  have hrests := (Life.of_create h os).consistent.rests
  obtain ⟨b, f, c, hb, hc, -, rfl⟩ := (hr ▸ dequeue_cases a hrests).current?
  exact ⟨c.buffer, f, hb, currentId_of_current? hc, fun k => hlife.currentAge_iff hc⟩

/-- Two frames of another buffer have been shown since buffer 7 was. If it comes again it has the
age 2; if the window is turned upside down at once, nothing is left of its pixels. -/
theorem age_counts_presents_behind :
    let a := Answers.giving (.plain 7 1) none
    let b := Answers.giving (.plain 8 2) none
    let flipped := { a with hint := .given .rot180, wrap := .given 2 }
    let frames : List Operation := [.dequeue a, .present a none none, .dequeue b,
      .present b none none, .dequeue b, .present b none none]
    (∃ j, ShownAgo (plain.past (frames ++ [.dequeue a])) j ⟨7⟩ 2) ∧
      ∀ j k, ¬ ShownAgo (plain.past (frames ++ [.dequeue flipped])) j ⟨7⟩ k := by
  intro a b flipped frames
  have hkept : ((plain.performAll frames).1.dequeue a).result = .ok 0 := by
    simp only [frames, a, b]
    rfl
  have hflipped : ((plain.performAll frames).1.dequeue flipped).result = .ok 0 := by
    simp only [frames, flipped, a, b]
    rfl
  obtain ⟨_, _, ha, -, hage⟩ := age_counts_presents create_plain frames a hkept
  obtain ⟨_, _, hb, -, hlost⟩ := age_counts_presents create_plain frames flipped hflipped
  cases ha
  cases hb
  have hnone : ((plain.performAll frames).1.dequeue flipped).pool.currentAge = none := by decide
  refine ⟨(hage 2).mp (by decide), fun j k hs => ?_⟩
  have hk := (hlost k).mpr ⟨j, hs⟩
  rw [hnone] at hk
  cases hk

end Pool
end Swapchain
