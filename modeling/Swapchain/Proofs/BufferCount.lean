import Swapchain.Proofs.Creation

/-!
# How many buffers a window is asked for

A pool keeps as many buffers as were asked for, as far as the window supports them, and at least
one. Three numbers from outside are added up for it, in a word and before the sum is cut. So the sum
has to fit into a word, though the number of buffers that is left of it always would.

* `WindowProfile.shortage`: the warning that the window supports fewer buffers;
* `Creates.shortage`: when the log has it;
* `Pool.count_capped`: the number of buffers and the warning, for every creation.
-/

namespace Swapchain

namespace WindowProfile

variable {m : WindowProfile} {n : UInt64}

/-- The warning that the window supports fewer buffers than the `n` that were asked for. -/
def shortage (m : WindowProfile) (n : UInt64) : Log.Record :=
  ⟨.warn, s!"Window supports at most {m.maxCount} buffers, {n} requested"⟩

/-- The warning is given exactly if the count falls short of the sum. -/
theorem mem_countWarning_iff {r : Log.Record} : r ∈ m.countWarning n ↔
    max 1 (min n.toNat m.maxCount.toNat) < n.toNat ∧ r = m.shortage n := by
  have hlt : m.bufferCount n < n ↔ max 1 (min n.toNat m.maxCount.toNat) < n.toNat := by
    rw [UInt64.lt_iff_toNat_lt, toNat_bufferCount, Nat.max_comm]
  unfold countWarning
  split <;> rename_i h <;> rw [hlt] at h
  · simp [h, shortage]
  · simp [h]

end WindowProfile

/-- The warning about a size is no warning about the number of buffers: the two texts part after
the first word. -/
theorem Layout.shortage_not_mem_clampWarning (l : Layout) (lower upper : Extent)
    (m : WindowProfile) (n : UInt64) : m.shortage n ∉ l.clampWarning lower upper := by
  unfold clampWarning
  dsimp only
  split
  · exact List.not_mem_nil
  · intro hm
    have htext := congrArg Log.Record.text (List.mem_singleton.mp hm)
    have hletter := congrArg (fun t => t.toList[8]?) htext
    simp [WindowProfile.shortage, toString] at hletter

namespace Pool

variable {query : Answer WindowProfile} {gpu : GpuLimits} {configured : Answer Unit}
  {color : ColorSetup} {settings : Settings} {m : WindowProfile} {d : Dataspace} {n : UInt64}
  {r : Except PoolError Pool} {cs : List Call} {rs : List Log.Record}

/-- Of the records only the warning about the window's count speaks of the number of buffers. -/
theorem exists_shortage_iff {tail : List Log.Record} (hn : m.requestedCount settings = .ok n)
    (htail : ∀ k, m.shortage k ∉ tail) :
    (∃ k, m.shortage k ∈ firstWarnings m gpu color d n ++ tail) ↔
      max 1 (min (m.wanted settings) m.maxCount.toNat) < m.wanted settings := by
  have hfirst : ∀ k, m.shortage k ∈ firstWarnings m gpu color d n ↔
      max 1 (min n.toNat m.maxCount.toNat) < n.toNat ∧ m.shortage k = m.shortage n := by
    intro k
    rw [firstWarnings, List.mem_append, WindowProfile.mem_countWarning_iff]
    exact or_iff_left (Layout.shortage_not_mem_clampWarning _ _ _ m k)
  simp only [List.mem_append, htail, or_false, hfirst,
    (WindowProfile.toNat_of_requestedCount hn).2]
  exact ⟨fun ⟨_, hlt, _⟩ => hlt, fun hlt => ⟨n, hlt, rfl⟩⟩

/-- Once the buffers can be counted, no word holds their number, or the log tells whether the window
supports them. -/
theorem Creates.shortage (hc : Creates query gpu configured color settings r cs rs)
    (hw : Countable query gpu color m d) :
    UInt64.size ≤ m.wanted settings ∧ r = .error .countOverflow ∧ rs = [] ∨
      m.wanted settings < UInt64.size ∧ ((∃ k, m.shortage k ∈ rs) ↔
        max 1 (min (m.wanted settings) m.maxCount.toNat) < m.wanted settings) := by
  cases hc with
  | untold hq => cases hw.told.symm.trans hq
  | colorless hq hd => cases hw.dataspace.symm.trans hd
  | unusable hq hd hu => cases hw.usable.symm.trans hu
  | uncounted hw' hn =>
    cases hw.told.symm.trans hw'.told
    obtain ⟨hlarge, rfl⟩ := WindowProfile.overflow_of_requestedCount hn
    exact .inl ⟨hlarge, rfl, rfl⟩
  | degenerate hw' hn =>
    cases hw.told.symm.trans hw'.told
    rw [← List.append_nil (firstWarnings ..)]
    exact .inr ⟨(WindowProfile.toNat_of_requestedCount hn).1,
      exists_shortage_iff hn fun _ => List.not_mem_nil⟩
  | rejected hw' hn | made hw' hn =>
    cases hw.told.symm.trans hw'.told
    exact .inr ⟨(WindowProfile.toNat_of_requestedCount hn).1,
      exists_shortage_iff hn (by simp [rejection, WindowProfile.shortage])⟩

variable (gpu color d) in
/-- The number of buffers of the layout and of the table. -/
theorem count_firstPool (hn : m.requestedCount settings = .ok n) :
    (firstPool m gpu color d n).layout.bufferCount.toNat =
        max 1 (min (m.wanted settings) m.maxCount.toNat) ∧
      (firstPool m gpu color d n).slots.capacity =
        max 1 (min (m.wanted settings) m.maxCount.toNat) := by
  have hcount : (m.bufferCount n).toNat = max 1 (min (m.wanted settings) m.maxCount.toNat) := by
    rw [toNat_bufferCount, (WindowProfile.toNat_of_requestedCount hn).2, Nat.max_comm]
  exact ⟨hcount, (SlotTable.capacity_ofCapacity _).trans hcount⟩

/-- A pool has as many buffers as were asked for, but no more than the window supports and at least
one, and so many were requested of the window. The log says whether these are fewer than were asked
for. All that is on the condition that a word holds the number asked for: if none does, the creation
ends without a warning once the buffers should be counted, even for a window that supports few. -/
theorem count_capped (m : WindowProfile) (gpu : GpuLimits) (configured : Answer Unit)
    (color : ColorSetup) (settings : Settings) :
    let made := create (.given m) gpu configured color settings
    let wanted := m.minUndequeued.toNat + settings.target.toNat + settings.extra.toNat
    let count := max 1 (min wanted m.maxCount.toNat)
    let warns := ∃ n, m.shortage n ∈ made.trace.records
    (∀ p, made.result = .ok p →
      wanted < UInt64.size ∧ p.layout.bufferCount.toNat = count ∧ p.slots.capacity = count ∧
        (warns ↔ count < wanted)) ∧
      (∀ r x, .configure r x ∈ made.trace.calls →
        wanted < UInt64.size ∧ r.bufferCount.toNat = count) ∧
      ∀ d, Countable (.given m) gpu color m d →
        UInt64.size ≤ wanted ∧ made.result = .error .countOverflow ∧ ¬ warns ∨
          wanted < UInt64.size ∧ (warns ↔ count < wanted) := by
  intro made wanted count warns
  have hc := create_cases (.given m) gpu configured color settings
  refine ⟨fun p hp => ?_, fun r x hr => ?_, fun d hw => ?_⟩
  · obtain ⟨m', d, n, hw, hn, rfl⟩ := Creates.eq_firstPool (hp ▸ hc)
    cases hw.told
    obtain ⟨hlayout, hslots⟩ := count_firstPool gpu color d hn
    have hlt := (WindowProfile.toNat_of_requestedCount hn).1
    rcases hc.shortage hw with ⟨hlarge, -⟩ | ⟨-, hwarns⟩
    · exact absurd hlt (Nat.not_lt.mpr hlarge)
    · exact ⟨hlt, hlayout, hslots, hwarns⟩
  · have hmem : (r, x) ∈ made.trace.calls.filterMap Call.request? :=
      List.mem_filterMap.mpr ⟨_, hr, rfl⟩
    rcases hc.requests with ⟨-, hnone⟩ | ⟨-, m', d, n, hw, hn, hone⟩
    · rw [hnone] at hmem
      cases hmem
    · cases hw.told
      rw [hone] at hmem
      cases List.mem_singleton.mp hmem
      exact ⟨(WindowProfile.toNat_of_requestedCount hn).1, (count_firstPool gpu color d hn).1⟩
  · rcases hc.shortage hw with ⟨hlarge, hr, hrs⟩ | hwarns
    · have hsilent : ¬ warns := by
        rintro ⟨n, hn⟩
        rw [hrs] at hn
        cases hn
      exact .inl ⟨hlarge, hr, hsilent⟩
    · exact .inr hwarns

/-- The largest number that a word holds is cut to the eight buffers that the window supports. -/
theorem count_capped_largest :
    let made := create (.given .plain) .plain (.given ()) .plain ⟨0xFFFFFFFFFFFFFFF0, 14⟩
    ∃ p, made.result = .ok p ∧ p.slots.capacity = 8 ∧
      ∃ n, WindowProfile.plain.shortage n ∈ made.trace.records := by
  intro made
  let p := firstPool .plain .plain .plain .srgb 0xFFFFFFFFFFFFFFFF
  have hp : made.result = .ok p := rfl
  obtain ⟨hmade, -⟩ := count_capped .plain .plain (.given ()) .plain ⟨0xFFFFFFFFFFFFFFF0, 14⟩
  obtain ⟨-, -, hslots, hwarns⟩ := hmade p hp
  exact ⟨p, hp, hslots, hwarns.mpr (by decide)⟩

/-- One buffer more, and there is no pool, although the window supports eight buffers; nor does the
log say that these are fewer than were asked for. -/
theorem count_lost :
    let m := WindowProfile.plain
    let settings : Settings := ⟨0xFFFFFFFFFFFFFFFF, 0⟩
    let made := create (.given m) .plain (.given ()) .plain settings
    let wanted := m.minUndequeued.toNat + settings.target.toNat + settings.extra.toNat
    let count := max 1 (min wanted m.maxCount.toNat)
    count = 8 ∧ count < wanted ∧ (∀ p, made.result ≠ .ok p) ∧
      ∀ n, m.shortage n ∉ made.trace.records := by
  intro m settings made wanted count
  have hw : Countable (.given m) .plain .plain m .srgb := ⟨rfl, rfl, rfl⟩
  have hc := create_cases (.given m) .plain (.given ()) .plain settings
  rcases hc.shortage hw with ⟨-, hr, hrs⟩ | ⟨hlt, -⟩
  · refine ⟨by decide, by decide, fun p hp => ?_, fun n hn => ?_⟩
    · cases hr.symm.trans hp
    · rw [hrs] at hn
      cases hn
  · exact absurd hlt (by decide)

end Pool
end Swapchain
