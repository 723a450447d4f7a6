import Swapchain.Proofs.Numbering
import Swapchain.Proofs.Stages

/-!
# Ages of idle slots

The age of an idle slot says what the next frame could keep if it got the slot's buffer. The pool
reads it off the slot's number alone, while a dequeue also looks at the epoch. After a layout of the
same physical size the slots stay, of an older epoch: they still have an age, but a dequeue wraps
their buffers again and then nothing is known of the pixels.

* `Dequeues.age`: the age that a slot's buffer has once it is current;
* `Pool.KeepsSurface.dequeue`: a dequeue that keeps the surface does not fail;
* `Pool.idle_age_lasts_while_fresh`: the two ages in every run.
-/

namespace Swapchain.Pool

variable {p₀ p q : Pool} {a : Answers} {t : Trace} {h : List Deed} {n : UInt32}
variable {i j k : Nat} {s : Slot} {b : Buffer} {f : Option Fence}

/-- Nothing is known of the pixels of a buffer that has just been wrapped. -/
theorem currentAge_wrapped {u : Surface} (hi : p.slots.placeFor? b.id = some i) :
    (p.takeInto i (·.hold b u p.epoch) f).currentAge = none := by
  obtain ⟨s, hs⟩ := SlotTable.get?_placeFor? hi
  simp [currentAge, takeInto, slotAge, hs, Slot.hold, Slot.start]

/-- The buffer of slot `i` becomes current with the age that the slot has had, if its surface is
kept, and with none if it is wrapped again. -/
theorem Dequeues.age (hd : Dequeues a p (.ok j) q t) (hp : Life p₀ h p) (h₀ : p₀.Sized n)
    (hb : a.dequeue = .given (b, f)) (hs : p.slots.get? i = some s)
    (hid : s.bufferId = some b.id) :
    (p.KeepsSurface h a b → j = i ∧ q.currentAge = p.slotAge i) ∧
      (¬ p.KeepsSurface h a b → q.currentAge = none) := by
  cases hd with
  | acquires hc hf ha =>
    obtain ⟨b', f', m, cs, hb', hm, hi, -, ho⟩ := ha.obtains
    cases hb.symm.trans hb'
    have hcaches : m.caches j b.id = true ↔ p.KeepsSurface h a b :=
      hf.caches_iff hp h₀ (hp.consistent.current_eq_none hc) hm hi
    cases ho with
    | cached hcache =>
      have hk : p.KeepsSurface h a b := hcaches.mp hcache
      obtain rfl : m = p := hf.eq_self hm (hf.dequeueChanges_eq_nil_iff.mpr ⟨hk.1, hk.2.1⟩)
      obtain rfl : i = j := hp.consistent.distinct.only_place hi hs hid
      exact ⟨fun _ => ⟨rfl, sameAges_takeInto hcache i⟩, fun hnk => absurd hk hnk⟩
    | wrapped serial hcache =>
      have hnk : ¬ p.KeepsSurface h a b := fun hk => by
        rw [hcaches.mpr hk] at hcache
        cases hcache
      exact ⟨fun hk => absurd hk hnk, fun _ => currentAge_wrapped hi⟩

/-- A dequeue that keeps the surface asks for the hint and the buffer and wraps nothing. -/
theorem KeepsSurface.dequeue (hk : p.KeepsSurface h a b) (hp : Life p₀ h p) (h₀ : p₀.Sized n)
    (hc : p.current = none) (hb : a.dequeue = .given (b, f)) (hs : p.slots.get? i = some s)
    (hid : s.bufferId = some b.id) :
    (p.dequeue a).result = .ok i ∧ (p.dequeue a).pool = p.takeInto i (·.renew b) f ∧
      (p.dequeue a).acts = [.call (.hint a.hint), .call (.dequeue (.given (b, f)))] := by
  obtain ⟨t, ht, hdeq⟩ := dequeue_of_not_turns (hp.consistent.current?_eq_none_iff.mpr hc) hk.1
  have hidle := hp.consistent.idle hc
  have hplan : p.planResize b = .ok none := if_pos hk.2.1
  obtain ⟨j, hj⟩ := hp.consistent.exists_placeFor? hc b.id
  obtain rfl : i = j := hp.consistent.distinct.only_place hj hs hid
  have hcaches : p.caches i b.id = true := (hp.caches_iff_holds h₀ hj).mpr hk.2.2
  have hslot : p.plannedSlot? none b.id = some i := (plannedSlot?_eq hidle none b.id).trans hj
  have hreuses : p.reuses none i b.id = true := (reuses_eq hidle none i b.id).trans hcaches
  rw [hdeq]
  simp [acquire, hb, place, hplan, hslot, fill, hreuses, commit, ht]

/-- The surface that a slot holds for its buffer is the one that is kept, if it is fresh. -/
theorem Life.exists_holds_iff (hp : Life p₀ h p) (h₀ : p₀.Sized n) (hs : p.slots.get? i = some s)
    (hid : s.bufferId = some b.id) :
    (∃ u, p.Holds h p.spec b.id u) ↔ ∃ u, s.surface = some u ∧ u.Fresh h := by
  constructor
  · rintro ⟨u, s', hs', hid', hu, -, -, hfresh⟩
    obtain ⟨j, hj⟩ := SlotTable.mem_slots_iff.mp hs'
    obtain rfl := hp.consistent.distinct i j s s' b.id hs hj hid hid'
    rw [hs] at hj
    cases hj
    exact ⟨u, hu, hfresh⟩
  · rintro ⟨u, hu, hfresh⟩
    obtain ⟨hspec, hub⟩ := ((hp.sized h₀).fits i s hs).surface u hu
    exact ⟨u, s, SlotTable.mem_slots_iff.mpr ⟨i, hs⟩, hid, hu,
      Option.some.inj (hub.symm.trans hid), hspec, hfresh⟩

/-- After every run that leaves the pool idle, let the window hand out the buffer of a slot that has
an age. If the transform and the size stay and the geometry has not changed since the surface of the
slot was wrapped, then the dequeue succeeds and the buffer is current with this age. Otherwise a
dequeue that succeeds leaves it without an age, although the slot has had one. -/
theorem idle_age_lasts_while_fresh {query : Answer WindowProfile} {gpu : GpuLimits}
    {configured : Answer Unit} {color : ColorSetup} {settings : Settings}
    (h : (create query gpu configured color settings).result = .ok p) (os : List Operation) :
    let q := (p.performAll os).1
    ∀ i s k a b f, q.current = none → q.slots.get? i = some s → q.slotAge i = some k →
      a.dequeue = .given (b, f) → s.bufferId = some b.id →
        let lasts := ¬ q.Turns a ∧ b.size = q.layout.physicalSize ∧
          ∃ u, s.surface = some u ∧ u.Fresh (p.past os)
        (lasts → (q.dequeue a).result = .ok i ∧ (q.dequeue a).pool.currentAge = some k) ∧
          (¬ lasts → ∀ j, (q.dequeue a).result = .ok j →
            (q.dequeue a).pool.currentAge = none) := by
  intro q i s k a b f hc hs hage hb hid lasts
  have hlife : Life p (p.past os) q := Life.of_create h os
  have h₀ := sized_create h
  have hkeeps : q.KeepsSurface (p.past os) a b ↔ lasts :=
    and_congr_right fun _ => and_congr_right fun _ => hlife.exists_holds_iff h₀ hs hid
  have hdequeued : ∀ {j}, (q.dequeue a).result = .ok j →
      (q.KeepsSurface (p.past os) a b → j = i ∧ (q.dequeue a).pool.currentAge = q.slotAge i) ∧
        (¬ q.KeepsSurface (p.past os) a b → (q.dequeue a).pool.currentAge = none) := fun hr => by
    have hd := dequeue_cases a hlife.consistent.rests
    rw [hr] at hd
    exact hd.age hlife h₀ hb hs hid
  refine ⟨fun hl => ?_, fun hl j hr => (hdequeued hr).2 (hl ∘ hkeeps.mp)⟩
  have hk : q.KeepsSurface (p.past os) a b := hkeeps.mpr hl
  obtain ⟨hr, -⟩ := hk.dequeue hlife h₀ hc hb hs hid
  obtain ⟨-, hcur⟩ := (hdequeued hr).1 hk
  exact ⟨hr, hcur.trans hage⟩

/-- Buffers 7 and 8 have been shown. If buffer 7 comes next it has the age of its slot; if the window
is turned upside down before it comes, it has none. -/
theorem idle_age_lasts_while_fresh_behind :
    let a := Answers.giving (.plain 7 1) none
    let b := Answers.giving (.plain 8 2) none
    let flipped := { a with hint := .given .rot180, wrap := .given 3 }
    let q := (plain.performAll [.dequeue a, .present a none none, .dequeue b,
      .present b none none]).1
    q.slotAge 0 = some 1 ∧ (q.dequeue a).result = .ok 0 ∧ (q.dequeue a).pool.currentAge = some 1 ∧
      (q.dequeue flipped).pool.currentAge = none := by
  intro a b flipped q
  have hage : q.slotAge 0 = some 1 := by decide
  let past := plain.past [.dequeue a, .present a none none, .dequeue b, .present b none none]
  obtain ⟨s, hs, hid, hu⟩ : ∃ s, q.slots.get? 0 = some s ∧ s.bufferId = some ⟨7⟩ ∧
      ∃ u, s.surface = some u ∧ u.Fresh past :=
    ⟨_, rfl, rfl, _, rfl, 0, past.take 1, past.drop 2, by decide, by decide⟩
  have hruns := idle_age_lasts_while_fresh create_plain
    [.dequeue a, .present a none none, .dequeue b, .present b none none] 0 s 1
  obtain ⟨hkept, -⟩ := hruns a (.plain 7 1) none (by decide) hs hage rfl hid
  obtain ⟨-, hlost⟩ := hruns flipped (.plain 7 1) none (by decide) hs hage rfl hid
  have hturned : (q.dequeue flipped).result = .ok 0 := by
    simp only [q, flipped, a, b]
    rfl
  obtain ⟨hr, hcur⟩ := hkept ⟨not_turns (by decide), by decide, hu⟩
  exact ⟨hage, hr, hcur, hlost (fun hl => hl.1 ⟨_, rfl, by decide⟩) 0 hturned⟩

/-- Buffer 7 has been shown, and then the window has been flipped but has had no buffer. The slot of
buffer 7 has the age 0, and the hint stays; still buffer 7 comes without an age. -/
theorem idle_age_lost_to_flip :
    let a := Answers.giving (.plain 7 1) none
    let flipped := { a with hint := .given .flipH, wrap := .given 2 }
    let q := (plain.performAll [.dequeue a, .present a none none,
      .dequeue { flipped with dequeue := .refused "no buffer" }]).1
    q.current = none ∧ q.slotAge 0 = some 0 ∧ ¬ q.Turns flipped ∧
      (Buffer.plain 7 1).size = q.layout.physicalSize ∧
      (q.dequeue flipped).result = .ok 0 ∧
      (q.dequeue flipped).pool.currentId = some ⟨7⟩ ∧
      (q.dequeue flipped).pool.currentAge = none := by
  intro a flipped q
  have hr : (q.dequeue flipped).result = .ok 0 := by
    simp only [q, flipped, a]
    rfl
  exact ⟨by decide, by decide, not_turns (by decide), by decide, hr, by decide, by decide⟩

end Swapchain.Pool
