import Swapchain.Proofs.Age

/-!
# Numbers of presents

Presents are numbered from 1 on. A slot keeps the number of the last present of its buffer, or 0 if
its pixels are unknown, so its age is the counter less its number. No number is given twice: among
the slots with known pixels each has its own, and so its own age.

* `Becomes.number`: where the number of a slot comes from;
* `Pool.Numbered`: numbers tell the slots with known pixels apart, `Life.numbered` for every life;
* `Pool.SameAges`: what leaves all ages as they are;
* `Pool.slot_ages_follow_presents`: numbers and ages in every run.
-/

namespace Swapchain

theorem Slot.Whole.active_of_valid {s : Slot} (h : s.Whole) (hv : s.valid = true) :
    s.isActive = true := by
  rcases h.filled_or_empty with ⟨ha, -⟩ | rfl
  · exact ha
  · cases hv

namespace Pool

variable {p₀ p q : Pool} {a : Answers} {t : Trace} {h : List Deed} {d : Option Deed}
variable {i j k : Nat} {s : Slot}

/-! ## Numbers -/

/-- A slot with known pixels has just been shown, or has kept its number. -/
theorem Becomes.number (hb : p.Becomes i d s) (hv : s.valid = true) :
    (∃ id, d = some (.shown i id)) ∧ s.lastShown = p.presents + 1 ∨
      ∃ s₀, p.slots.get? i = some s₀ ∧ s₀.valid = true ∧ s₀.lastShown = s.lastShown := by
  cases hb with
  | alike hs ha => exact .inr ⟨_, hs, ha.valid ▸ hv, ha.lastShown.symm⟩
  | renewed f hs => exact .inr ⟨_, hs, hv, rfl⟩
  | wrapped => cases hv
  | shown => exact .inl ⟨⟨_, rfl⟩, rfl⟩

/-- Slots with known pixels have a number, and each its own. -/
structure Numbered (p : Pool) : Prop where
  valid_iff : ∀ i s, p.slots.get? i = some s → (s.valid = true ↔ 1 ≤ s.lastShown)
  distinct : ∀ i j s u, p.slots.get? i = some s → p.slots.get? j = some u → s.valid = true →
    u.valid = true → s.lastShown = u.lastShown → i = j

namespace Numbered

theorem ofCapacity {n : Nat} (hs : p.slots = .ofCapacity n) : p.Numbered where
  valid_iff i s hi := by
    rw [hs] at hi
    rw [SlotTable.eq_empty_of_get?_ofCapacity hi]
    decide
  distinct i j s u hi hj hv := by
    rw [hs] at hi
    cases (SlotTable.valid_ofCapacity hi).symm.trans hv

theorem move (hn : p.Numbered) (hle : ∀ i s, p.slots.get? i = some s → s.lastShown ≤ p.presents)
    (hm : Move p d q) : q.Numbered where
  valid_iff i s hs := by
    rcases hm.becomes hs with rfl | ⟨-, hb⟩
    · decide
    · cases hb with
      | alike hs₀ ha =>
        rw [ha.valid, ha.lastShown]
        exact hn.valid_iff _ _ hs₀
      | renewed f hs₀ => exact (hn.valid_iff _ _ hs₀ :)
      | wrapped => exact iff_of_false Bool.false_ne_true (Nat.not_succ_le_zero 0)
      | shown => exact iff_of_true rfl (Nat.succ_pos _)
  distinct i j s u hs hu hsv huv heq := by
    have hsb : p.Becomes i d s := by
      rcases hm.becomes hs with rfl | ⟨-, hb⟩
      · cases hsv
      · exact hb
    have hub : p.Becomes j d u := by
      rcases hm.becomes hu with rfl | ⟨-, hb⟩
      · cases huv
      · exact hb
    -- The number of a slot that has just been shown is above all others.
    rcases hsb.number hsv with ⟨⟨id, hd⟩, hsn⟩ | ⟨s₀, hs₀, hs₀v, hsn⟩ <;>
      rcases hub.number huv with ⟨⟨id', hd'⟩, hun⟩ | ⟨u₀, hu₀, hu₀v, hun⟩
    · cases hd.symm.trans hd'
      rfl
    · have hle' := hle j u₀ hu₀
      omega
    · have hle' := hle i s₀ hs₀
      omega
    · exact hn.distinct i j s₀ u₀ hs₀ hu₀ hs₀v hu₀v (by omega)

end Numbered

theorem Life.numbered (hp : Life p₀ h p) : p.Numbered := by
  induction hp with
  | created hp =>
    obtain ⟨m, dataspace, requested, -, -, -, -, rfl, -⟩ := create_eq_ok hp
    exact .ofCapacity rfl
  | moved hp hm _ ih => exact ih.move hp.recalls.lastShown_le hm

/-! ## Ages -/

theorem slotAge_eq_some_iff (hp : p.Consistent) (hs : p.slots.get? i = some s)
    (hle : s.lastShown ≤ p.presents) :
    p.slotAge i = some k ↔ s.valid = true ∧ s.lastShown + k = p.presents := by
  have hage : p.slotAge i =
      if s.isActive && s.valid then some (p.presents - s.lastShown) else none := by
    simp [slotAge, hs]
  cases hv : s.valid with
  | false => simp [hage, hv]
  | true =>
    rw [hage, (hp.whole i s hs).active_of_valid hv, hv, Bool.and_self, if_pos rfl,
      Option.some_inj]
    exact ⟨fun hk => ⟨rfl, by omega⟩, fun hk => by omega⟩

/-- Every slot has the age that it had. -/
def SameAges (p q : Pool) : Prop := ∀ i, q.slotAge i = p.slotAge i

/-- A slot that keeps its pixels and their number. -/
theorem sameAges_modify {f : Slot → Slot} {c : Option Nat}
    (hf : ∀ s, p.slots.get? i = some s →
      (f s).isActive = s.isActive ∧ (f s).valid = s.valid ∧ (f s).lastShown = s.lastShown) :
    p.SameAges { p with slots := p.slots.modify i f, current := c } := by
  intro j
  unfold slotAge
  dsimp only
  by_cases hij : i = j
  · subst hij
    rw [SlotTable.get?_modify_self]
    cases hs : p.slots.get? i with
    | none => rfl
    | some s =>
      obtain ⟨hact, hv, hn⟩ := hf s hs
      simp [hact, hv, hn]
  · rw [SlotTable.get?_modify_ne _ _ hij]

theorem slotAge_presented_self {c : Current} (hc : p.current? = some c) :
    (p.presented c.index).slotAge c.index = some 0 := by
  obtain ⟨-, hs, hb⟩ := current?_eq_some_iff.mp hc
  simp [slotAge, presented, hs, Slot.shown, Slot.finish, Slot.isActive, hb]

/-- A present of another slot is one more present that has come after. -/
theorem slotAge_presented_ne (hle : ∀ i s, p.slots.get? i = some s → s.lastShown ≤ p.presents)
    (hij : i ≠ j) : (p.presented i).slotAge j = (p.slotAge j).map (· + 1) := by
  have hget : (p.presented i).slots.get? j = p.slots.get? j := SlotTable.get?_modify_ne _ _ hij
  unfold slotAge
  rw [hget]
  cases hs : p.slots.get? j with
  | none => rfl
  | some s =>
    have hn : p.presents + 1 - s.lastShown = p.presents - s.lastShown + 1 :=
      Nat.succ_sub (hle j s hs)
    cases s.isActive && s.valid <;> simp [presented, hn]

/-! ## Operations -/

theorem Presents.ages {dirty : Option Rect} {completion : Option Fence}
    (hpr : Presents a dirty completion p (.ok ()) q t)
    (hle : ∀ i s, p.slots.get? i = some s → s.lastShown ≤ p.presents) :
    ∃ i, p.current = some i ∧ q.slotAge i = some 0 ∧
      ∀ j, j ≠ i → q.slotAge j = (p.slotAge j).map (· + 1) := by
  cases hpr with
  | shown hc =>
    exact ⟨_, (current?_eq_some_iff.mp hc).1, slotAge_presented_self hc,
      fun j hj => slotAge_presented_ne hle hj.symm⟩

/-- A present that fails leaves the pool as it was. -/
theorem Presents.failed {dirty : Option Rect} {completion : Option Fence} {e : PoolError}
    (hpr : Presents a dirty completion p (.error e) q t) : q = p := by
  cases hpr with
  | nothing | unforwarded | refused => rfl

theorem Cancels.sameAges {r : Except PoolError Unit} (hc : Cancels a p r q t) : p.SameAges q := by
  cases hc with
  | nothing => exact fun _ => rfl
  | returned | disowned => exact sameAges_modify fun _ _ => ⟨rfl, rfl, rfl⟩

/-- A dequeue that succeeds without wrapping takes a buffer for which its slot has a surface of the
epoch, and changes nothing else. -/
theorem Dequeues.reused (hd : Dequeues a p (.ok i) q t) (hp : Life p₀ h p)
    (hw : ∀ b spec x, .wrap b spec x ∉ t.calls) :
    ∃ b f, a.dequeue = .given (b, f) ∧ p.caches i b.id = true ∧
      q = p.takeInto i (·.renew b) f := by
  obtain ⟨b, f, hb⟩ := hd.given
  obtain ⟨m, cs, hm, hi, ho, hstill, hcalls⟩ := hd.obtains hp hb rfl
  cases ho with
  | wrapped serial hs =>
    exact absurd ((hcalls _ _ _).mpr (List.mem_singleton_self _)) (hw _ _ _)
  | cached hs =>
    rcases hstill with rfl | hnone
    · exact ⟨b, f, hb, hs, rfl⟩
    · -- After a change of geometry no slot would have had a surface of the epoch.
      obtain ⟨s, hget, -, hsome, he⟩ := caches_iff.mp hs
      obtain ⟨u, hu⟩ := Option.isSome_iff_exists.mp hsome
      exact absurd (hm.dated.fresh i s u hget hu he) (hnone u)

theorem sameAges_takeInto {b : Buffer} {f : Option Fence} (hs : p.caches i b.id = true) :
    p.SameAges (p.takeInto i (·.renew b) f) := by
  obtain ⟨u, hu, hid, -⟩ := caches_iff.mp hs
  refine sameAges_modify fun s hs => ⟨?_, rfl, rfl⟩
  rw [hu] at hs
  cases hs
  exact (Slot.isActive_of_bufferId hid).symm

/-- A dequeue that fails before or without a layout that the window took. -/
theorem HintLeft.eq_self {cs : List Call} (hl : HintLeft a p q cs)
    (hcs : ∀ request, .configure request (.given ()) ∉ cs) : q = p := by
  rcases hl with ⟨hq, -⟩ | ⟨hint, -, -, hmem, -⟩
  · exact hq
  · exact absurd hmem (hcs _)

/-! ## Every run -/

/-- After every run a slot has known pixels exactly if it has a number, no number is above the
counter, and an age is what is missing to the counter. Slots with known pixels have different
numbers and so different ages. A present that succeeds makes its slot's age 0 and every other age
larger by one, and gives no other slot an age. No slot's age changes in a present that fails, a
cancel, a dequeue that fails without the window taking a layout, and a dequeue that wraps nothing. -/
theorem slot_ages_follow_presents {query : Answer WindowProfile} {gpu : GpuLimits}
    {configured : Answer Unit} {color : ColorSetup} {settings : Settings}
    (h : (create query gpu configured color settings).result = .ok p) (os : List Operation) :
    let q := (p.performAll os).1
    (∀ i s, q.slots.get? i = some s →
        (s.valid = true ↔ 1 ≤ s.lastShown) ∧ s.lastShown ≤ q.presents ∧
          ∀ k, q.slotAge i = some k ↔ s.valid = true ∧ s.lastShown + k = q.presents) ∧
      (∀ i j s u, i ≠ j → q.slots.get? i = some s → q.slots.get? j = some u → s.valid = true →
        u.valid = true → s.lastShown ≠ u.lastShown ∧ q.slotAge i ≠ q.slotAge j) ∧
      (∀ a dirty completion, (q.present a dirty completion).result = .ok () →
        ∃ i, q.current = some i ∧ (q.present a dirty completion).pool.slotAge i = some 0 ∧
          ∀ j, j ≠ i →
            (q.present a dirty completion).pool.slotAge j = (q.slotAge j).map (· + 1)) ∧
      (∀ a dirty completion e, (q.present a dirty completion).result = .error e →
        q.SameAges (q.present a dirty completion).pool) ∧
      (∀ a, q.SameAges (q.cancel a).pool) ∧
      (∀ a e, (q.dequeue a).result = .error e →
        (∀ request, .configure request (.given ()) ∉ (q.dequeue a).trace.calls) →
        q.SameAges (q.dequeue a).pool) ∧
      ∀ a i, (q.dequeue a).result = .ok i →
        (∀ b spec x, .wrap b spec x ∉ (q.dequeue a).trace.calls) →
        q.SameAges (q.dequeue a).pool := by
  intro q
  have hlife : Life p (p.past os) q := Life.of_create h os
  have hle := hlife.recalls.lastShown_le
  have hage : ∀ {i s k}, q.slots.get? i = some s →
      (q.slotAge i = some k ↔ s.valid = true ∧ s.lastShown + k = q.presents) :=
    fun hs => slotAge_eq_some_iff hlife.consistent hs (hle _ _ hs)
  refine ⟨fun i s hs => ⟨hlife.numbered.valid_iff i s hs, hle i s hs, fun k => hage hs⟩,
    fun i j s u hij hs hu hsv huv => ?_, fun a dirty completion hr => ?_,
    fun a dirty completion e hr => ?_, fun a => (cancel_cases a q).sameAges,
    fun a e hr hcs => ?_, fun a i hr hw => ?_⟩
  · have hne : s.lastShown ≠ u.lastShown := fun heq =>
      hij (hlife.numbered.distinct i j s u hs hu hsv huv heq)
    refine ⟨hne, fun heq => ?_⟩
    have hsk := (hage (k := q.presents - s.lastShown) hs).mpr
      ⟨hsv, Nat.add_sub_cancel' (hle i s hs)⟩
    obtain ⟨-, huk⟩ := (hage hu).mp (heq.symm.trans hsk)
    have hsle := hle i s hs
    omega
  · exact (hr ▸ present_cases a dirty completion q).ages hle
  · have hpr := present_cases a dirty completion q
    rw [hr] at hpr
    rw [hpr.failed]
    exact fun _ => rfl
  · have hd := dequeue_cases a hlife.consistent.rests
    rw [hr] at hd
    rw [← Trace.calls_acts] at hcs
    rw [(hd.failed hlife.consistent).1.eq_self hcs]
    exact fun _ => rfl
  · have hd := dequeue_cases a hlife.consistent.rests
    rw [hr] at hd
    rw [← Trace.calls_acts] at hw
    obtain ⟨b, f, -, hs, hq⟩ := hd.reused hlife hw
    rw [hq]
    exact sameAges_takeInto hs

/-- Buffers 7 and 8 have been shown, and buffer 7 has come again. Its next present exchanges the
ages of the two slots; a cancel would leave them. -/
theorem slot_ages_follow_presents_exchanged :
    let a := Answers.giving (.plain 7 1) none
    let b := Answers.giving (.plain 8 2) none
    let q := (plain.performAll [.dequeue a, .present a none none, .dequeue b,
      .present b none none, .dequeue a]).1
    let r := (q.present a none none).pool
    (q.slotAge 0 = some 1 ∧ q.slotAge 1 = some 0) ∧
      (r.slotAge 0 = some 0 ∧ r.slotAge 1 = some 1 ∧ r.slotAge 2 = none) ∧
      q.SameAges (q.cancel a).pool := by
  intro a b q r
  obtain ⟨-, -, hshown, -, hcancel, -⟩ := slot_ages_follow_presents create_plain
    [.dequeue a, .present a none none, .dequeue b, .present b none none, .dequeue a]
  have hr : (q.present a none none).result = .ok () := by
    simp only [q, a, b]
    rfl
  obtain ⟨i, hi, hself, hother⟩ := hshown a none none hr
  obtain rfl : 0 = i := Option.some.inj ((by decide : q.current = some 0).symm.trans hi)
  exact ⟨by decide, ⟨hself, (hother 1 (by decide)).trans (by decide),
    (hother 2 (by decide)).trans (by decide)⟩, hcancel a⟩

end Pool
end Swapchain
