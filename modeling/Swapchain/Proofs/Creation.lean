import Swapchain.Proofs.Bounds
import Swapchain.Proofs.Objections
import Swapchain.Proofs.Runs

/-!
# What makes a creation fail

A creation passes six stages: the window has to tell its properties, the colour setup has to have a
dataspace, the GPU has to be able to render to the buffers, their number has to be counted, the
bounds have to leave a pixel, and the window has to take the first layout. The first stage with an
objection decides the answer.

In two of the stages the program looks at something else. It adds the three parts of the number of
buffers up in a word before it cuts the sum to what the window supports, so a sum that no word holds
ends the creation, however few buffers the window supports. And it looks for a pixel in the physical
size of a layout that has been brought within bounds which may cross, and turned. There is none
exactly if an upper bound is zero.

* `Pool.Creates`: the ways in which a creation goes, with its calls and its log;
* `Pool.Prevents`: the objections, by their stage;
* `Creates.decided`: the first objection is the answer;
* `Pool.create_decided`: the answer and the request of every creation.
-/

namespace Swapchain

/-! ## Usages -/

/-- A usage contains another one bit by bit, whether the bits have names or not. -/
theorem Usage.contains_iff {u v : Usage} : u.contains v = true ↔
    ∀ i, v.bits.toNat.testBit i = true → u.bits.toNat.testBit i = true := by
  have heq : u.contains v = true ↔ u.bits.toNat &&& v.bits.toNat = v.bits.toNat := by
    rw [Usage.contains, beq_iff_eq, ← UInt64.toNat_inj, UInt64.toNat_and]
  rw [heq]
  constructor
  · intro h i hi
    rw [← h, Nat.testBit_and, Bool.and_eq_true] at hi
    exact hi.1
  · intro h
    refine Nat.eq_of_testBit_eq fun i => ?_
    rw [Nat.testBit_and]
    cases hv : v.bits.toNat.testBit i with
    | false => exact Bool.and_false _
    | true => rw [h i hv, Bool.and_true]

theorem Usage.exists_missing {u v : Usage} (h : u.contains v = false) :
    ∃ i, v.bits.toNat.testBit i = true ∧ u.bits.toNat.testBit i = false := by
  rw [← Bool.not_eq_true, contains_iff] at h
  simpa using h

/-! ## The log -/

namespace Trace

@[simp] theorem records_nil : records [] = [] := rfl

@[simp] theorem records_append (t u : Trace) : records (t ++ u) = records t ++ records u :=
  List.filterMap_append ..

@[simp] theorem records_call (c : Call) (t : Trace) : records (.call c :: t) = records t := rfl

@[simp] theorem records_logged (l : Log.Level) (s : String) : records (logged l s) = [⟨l, s⟩] := rfl

@[simp] theorem records_ofRecords (rs : List Log.Record) : records (ofRecords rs) = rs := by
  induction rs with
  | nil => rfl
  | cons r rs ih => exact congrArg (r :: ·) ih

@[simp] theorem records_map (cs : List Call) : records (cs.map .call) = [] := by
  induction cs with
  | nil => rfl
  | cons c cs ih => exact ih

@[simp] theorem calls_ofRecords (rs : List Log.Record) : calls (ofRecords rs) = [] := by
  rw [← calls_acts, acts_ofRecords, calls_nil]

@[simp] theorem calls_logged (l : Log.Level) (s : String) : calls (logged l s) = [] := rfl

end Trace

namespace WindowProfile

variable {m : WindowProfile} {s : Settings} {n : UInt64}

/-- The buffers asked for, counted without a limit. -/
def wanted (m : WindowProfile) (s : Settings) : Nat :=
  m.minUndequeued.toNat + s.target.toNat + s.extra.toNat

theorem requestedCount_cases (m : WindowProfile) (s : Settings) :
    (m.wanted s < UInt64.size ∧ ∃ n, m.requestedCount s = .ok n ∧ n.toNat = m.wanted s) ∨
      (UInt64.size ≤ m.wanted s ∧ m.requestedCount s = .error .countOverflow) := by
  unfold requestedCount
  by_cases hlt : m.wanted s < UInt64.size
  · have hn : (UInt64.ofNat (m.wanted s)).toNat = m.wanted s := UInt64.toNat_ofNat_of_lt' hlt
    exact .inl ⟨hlt, _, if_pos hlt, hn⟩
  · exact .inr ⟨Nat.le_of_not_lt hlt, if_neg hlt⟩

theorem toNat_of_requestedCount (h : m.requestedCount s = .ok n) :
    m.wanted s < UInt64.size ∧ n.toNat = m.wanted s := by
  rcases m.requestedCount_cases s with ⟨hlt, k, hk, hw⟩ | ⟨-, hk⟩
  · cases hk.symm.trans h
    exact ⟨hlt, hw⟩
  · cases hk.symm.trans h

theorem overflow_of_requestedCount {e : PoolError} (h : m.requestedCount s = .error e) :
    UInt64.size ≤ m.wanted s ∧ e = .countOverflow := by
  rcases m.requestedCount_cases s with ⟨-, k, hk, -⟩ | ⟨hle, hk⟩
  · cases hk.symm.trans h
  · cases hk.symm.trans h
    exact ⟨hle, rfl⟩

end WindowProfile

/-! ## How a creation goes -/

/-- The request of a call that configures the window, with the answer. -/
def Call.request? : Call → Option (BufferRequest × Answer Unit)
  | .configure r x => some (r, x)
  | _ => none

namespace Pool

/-- The pool that is made for a window if nothing stands in the way of it. -/
def firstPool (m : WindowProfile) (gpu : GpuLimits) (color : ColorSetup) (d : Dataspace)
    (n : UInt64) : Pool :=
  ofLayout m gpu.maxDimension color (firstLayout m color.type.pixelFormat d (m.bufferCount n))

/-- What is said about the pool before the window is asked to take its layout. -/
def firstWarnings (m : WindowProfile) (gpu : GpuLimits) (color : ColorSetup) (d : Dataspace)
    (n : UInt64) : List Log.Record :=
  let p := firstPool m gpu color d n
  m.countWarning n ++ (firstLayout m color.type.pixelFormat d (m.bufferCount n)).clampWarning
    p.minSize p.maxSize

/-- What is said about a layout that the window has refused. -/
def rejection (l : Layout) (text : String) : Log.Record :=
  ⟨.error, s!"Window rejected {l.bufferRequest.text}: {text}"⟩

/-- What the window and the GPU are asked before a pool is made. -/
def inquiries (m : WindowProfile) (gpu : GpuLimits) (color : ColorSetup) : List Call :=
  [.query (.given m),
    .supportedUsage color.type.pixelFormat (gpu.supportedUsage color.type.pixelFormat)]

variable {query : Answer WindowProfile} {gpu : GpuLimits} {configured : Answer Unit}
  {color : ColorSetup} {settings : Settings} {m : WindowProfile} {d : Dataspace} {n : UInt64}

/-- The window has told its properties, and what the buffers are made of is settled. -/
structure Countable (query : Answer WindowProfile) (gpu : GpuLimits) (color : ColorSetup)
    (m : WindowProfile) (d : Dataspace) : Prop where
  told : query = .given m
  dataspace : color.dataspace? = some d
  usable : (gpu.supportedUsage color.type.pixelFormat).contains .renderTarget = true

variable (query gpu configured color settings) in
/-- How a creation goes: its answer, its calls and its log. -/
inductive Creates : Except PoolError Pool → List Call → List Log.Record → Prop where
  | untold {text : String} (hq : query = .refused text) :
    Creates (.error (.queryFailed text)) [.query (.refused text)] []
  | colorless {m : WindowProfile} (hq : query = .given m) (hd : color.dataspace? = none) :
    Creates (.error (.unsupportedColor color)) [.query (.given m)] []
  | unusable {m : WindowProfile} {d : Dataspace} (hq : query = .given m)
      (hd : color.dataspace? = some d)
      (hu : (gpu.supportedUsage color.type.pixelFormat).contains .renderTarget = false) :
    Creates (.error (.unsupportedUsage color.type.pixelFormat .renderTarget))
      (inquiries m gpu color) []
  | uncounted {m : WindowProfile} {d : Dataspace} {e : PoolError}
      (hw : Countable query gpu color m d) (hn : m.requestedCount settings = .error e) :
    Creates (.error e) (inquiries m gpu color) []
  | degenerate {m : WindowProfile} {d : Dataspace} {n : UInt64}
      (hw : Countable query gpu color m d) (hn : m.requestedCount settings = .ok n)
      (hp : (firstPool m gpu color d n).layout.physicalSize.isEmpty = true) :
    Creates (.error (.degenerateSize (firstPool m gpu color d n).layout.logicalSize))
      (inquiries m gpu color) (firstWarnings m gpu color d n)
  | rejected {m : WindowProfile} {d : Dataspace} {n : UInt64} {text : String}
      (hw : Countable query gpu color m d) (hn : m.requestedCount settings = .ok n)
      (hp : (firstPool m gpu color d n).layout.physicalSize.isEmpty = false)
      (hc : configured = .refused text) :
    Creates (.error (.configurationRejected text))
      (inquiries m gpu color ++
        [.configure (firstPool m gpu color d n).layout.bufferRequest (.refused text)])
      (firstWarnings m gpu color d n ++ [rejection (firstPool m gpu color d n).layout text])
  | made {m : WindowProfile} {d : Dataspace} {n : UInt64}
      (hw : Countable query gpu color m d) (hn : m.requestedCount settings = .ok n)
      (hp : (firstPool m gpu color d n).layout.physicalSize.isEmpty = false)
      (hc : configured = .given ()) :
    Creates (.ok (firstPool m gpu color d n))
      (inquiries m gpu color ++
        [.configure (firstPool m gpu color d n).layout.bufferRequest (.given ())])
      (firstWarnings m gpu color d n ++
        [⟨.debug, createdText (firstPool m gpu color d n).layout⟩])

theorem create_of_counted (hw : Countable query gpu color m d)
    (hn : m.requestedCount settings = .ok n) (answer : Answer Unit) :
    let made := (firstPool m gpu color d n).configure answer
    create query gpu answer color settings = ⟨made.result,
      (inquiries m gpu color).map .call ++ Trace.ofRecords (firstWarnings m gpu color d n) ++
        made.trace⟩ := by
  obtain ⟨rfl, hd, hu⟩ := hw
  simp only [create, hd, hu, hn]
  rfl

theorem create_cases (query : Answer WindowProfile) (gpu : GpuLimits) (configured : Answer Unit)
    (color : ColorSetup) (settings : Settings) :
    Creates query gpu configured color settings
      (create query gpu configured color settings).result
      (create query gpu configured color settings).trace.calls
      (create query gpu configured color settings).trace.records := by
  cases hq : query with
  | refused text => exact .untold rfl
  | given m =>
    cases hd : color.dataspace? with
    | none => simpa [create, hd] using Creates.colorless rfl hd
    | some d =>
      cases hu : (gpu.supportedUsage color.type.pixelFormat).contains .renderTarget with
      | false => simpa [create, hd, hu, inquiries] using Creates.unusable rfl hd hu
      | true =>
        have hw : Countable (.given m) gpu color m d := ⟨rfl, hd, hu⟩
        cases hn : m.requestedCount settings with
        | error e => simpa [create, hd, hu, hn, inquiries] using Creates.uncounted hw hn
        | ok n =>
          rw [create_of_counted hw hn]
          cases hp : (firstPool m gpu color d n).layout.physicalSize.isEmpty with
          | true => simpa [configure, hp] using Creates.degenerate hw hn hp
          | false =>
            cases configured with
            | refused text =>
              simpa [configure, hp, pushLayout, rejection] using Creates.rejected hw hn hp rfl
            | given u => simpa [configure, hp, pushLayout] using Creates.made hw hn hp rfl

/-! ## What stands in the way -/

variable (query gpu configured color settings) in
/-- What stands in the way of a creation, by the stage that objects. -/
inductive Prevents : Nat → PoolError → Prop where
  /-- The window does not tell its properties. -/
  | query {text : String} (hq : query = .refused text) : Prevents 1 (.queryFailed text)
  /-- The colour setup has no dataspace. -/
  | color (hd : color.dataspace? = none) : Prevents 2 (.unsupportedColor color)
  /-- The GPU lacks a usage that every rendered buffer needs. -/
  | usage {i : Nat} (hi : Usage.renderTarget.bits.toNat.testBit i = true)
      (hg : (gpu.supportedUsage color.type.pixelFormat).bits.toNat.testBit i = false) :
    Prevents 3 (.unsupportedUsage color.type.pixelFormat .renderTarget)
  /-- No word holds the number of buffers that are asked for. -/
  | count {m : WindowProfile} (hq : query = .given m) (hn : UInt64.size ≤ m.wanted settings) :
    Prevents 4 .countOverflow
  /-- An upper bound is zero. -/
  | bounds {m : WindowProfile} (hq : query = .given m)
      (hz : m.maxSize.width = 0 ∨ m.maxSize.height = 0 ∨ gpu.maxDimension = 0) :
    Prevents 5 (.degenerateSize (m.defaultSize.clamp (m.minSize.sup smallest)
      (m.maxSize.inf (.square gpu.maxDimension))))
  /-- The window refuses the layout. -/
  | window {text : String} (hc : configured = .refused text) :
    Prevents 6 (.configurationRejected text)

/-- The bounds leave no pixel exactly if an upper one is zero, for the lower ones win over no upper
one and are not zero themselves. -/
theorem isEmpty_firstPool : (firstPool m gpu color d n).layout.physicalSize.isEmpty = true ↔
    m.maxSize.width = 0 ∨ m.maxSize.height = 0 ∨ gpu.maxDimension = 0 := by
  have hlower : Extent.square 1 ≤ m.minSize.sup smallest := Extent.le_sup_right ..
  have hupper : Extent.square 1 ≤ (firstPool m gpu color d n).layout.physicalSize ↔
      Extent.square 1 ≤ m.maxSize.inf (.square gpu.maxDimension) :=
    ⟨Layout.le_upper, Layout.le_resolve hlower⟩
  rw [← Bool.not_eq_false, Extent.isEmpty_eq_false_iff, hupper, Extent.le_inf_iff,
    Extent.square_one_le_iff, Extent.square_one_le_iff]
  simp only [Extent.square]
  grind

namespace Prevents

variable {k : Nat} {e e' : PoolError} (ho : Prevents query gpu configured color settings k e)
include ho

theorem two_le_stage_of_told (hq : query = .given m) : 2 ≤ k := by
  cases ho with
  | query hq' => cases hq.symm.trans hq'
  | color | usage | count | bounds | window => omega

theorem three_le_stage_of_dataspace (hq : query = .given m) (hd : color.dataspace? = some d) :
    3 ≤ k := by
  have hk := ho.two_le_stage_of_told hq
  cases ho with
  | query => omega
  | color hd' => cases hd.symm.trans hd'
  | usage | count | bounds | window => omega

theorem four_le_stage_of_countable (hw : Countable query gpu color m d) : 4 ≤ k := by
  have hk := ho.three_le_stage_of_dataspace hw.told hw.dataspace
  cases ho with
  | query | color => omega
  | usage hi hg =>
    have hbit := Usage.contains_iff.mp hw.usable _ hi
    rw [hg] at hbit
    cases hbit
  | count | bounds | window => omega

theorem five_le_stage_of_counted (hw : Countable query gpu color m d)
    (hn : m.requestedCount settings = .ok n) : 5 ≤ k := by
  have hk := ho.four_le_stage_of_countable hw
  cases ho with
  | query | color | usage => omega
  | count hq hlarge =>
    cases hw.told.symm.trans hq
    have hlt := (WindowProfile.toNat_of_requestedCount hn).1
    omega
  | bounds | window => omega

/-- With a pixel to draw only the window is left to object. -/
theorem refused_at_six_of_pixels (hw : Countable query gpu color m d)
    (hn : m.requestedCount settings = .ok n)
    (hp : (firstPool m gpu color d n).layout.physicalSize.isEmpty = false) :
    k = 6 ∧ ∃ text, configured = .refused text := by
  have hk := ho.five_le_stage_of_counted hw hn
  cases ho with
  | query | color | usage | count => omega
  | bounds hq hz =>
    cases hw.told.symm.trans hq
    rw [isEmpty_firstPool.mpr hz] at hp
    cases hp
  | window hc => exact ⟨rfl, _, hc⟩

/-- A stage has one objection. -/
theorem unique (ho' : Prevents query gpu configured color settings k e') : e = e' := by
  cases ho with
  | query hq =>
    cases ho' with
    | query hq' =>
      cases hq.symm.trans hq'
      rfl
  | color | usage | count =>
    cases ho'
    rfl
  | bounds hq =>
    cases ho' with
    | bounds hq' =>
      cases hq.symm.trans hq'
      rfl
  | window hc =>
    cases ho' with
    | window hc' =>
      cases hc.symm.trans hc'
      rfl

end Prevents

/-! ## The answer -/

variable {r : Except PoolError Pool} {cs : List Call} {rs : List Log.Record}

theorem Creates.decided (hc : Creates query gpu configured color settings r cs rs) :
    DecidedBy (Prevents query gpu configured color settings) r := by
  cases hc with
  | untold hq =>
    refine ⟨1, .query hq, fun k e ho => ?_⟩
    cases ho <;> omega
  | colorless hq hd => exact ⟨2, .color hd, fun k e ho => ho.two_le_stage_of_told hq⟩
  | unusable hq hd hu =>
    obtain ⟨i, hi, hg⟩ := Usage.exists_missing hu
    exact ⟨3, .usage hi hg, fun k e ho => ho.three_le_stage_of_dataspace hq hd⟩
  | uncounted hw hn =>
    obtain ⟨hlarge, rfl⟩ := WindowProfile.overflow_of_requestedCount hn
    exact ⟨4, .count hw.told hlarge, fun k e ho => ho.four_le_stage_of_countable hw⟩
  | degenerate hw hn hp =>
    exact ⟨5, .bounds hw.told (isEmpty_firstPool.mp hp),
      fun k e ho => ho.five_le_stage_of_counted hw hn⟩
  | rejected hw hn hp hc =>
    exact ⟨6, .window hc, fun k e ho =>
      Nat.le_of_eq (ho.refused_at_six_of_pixels hw hn hp).1.symm⟩
  | made hw hn hp hc =>
    intro k e ho
    obtain ⟨-, text, hr⟩ := ho.refused_at_six_of_pixels hw hn hp
    cases hc.symm.trans hr

/-- The window is asked to take the first layout once if nothing but its own refusal stands in the
way of the creation, and not at all otherwise. -/
theorem Creates.requests (hc : Creates query gpu configured color settings r cs rs) :
    (∃ k e, Prevents query gpu configured color settings k e ∧ k < 6) ∧
        cs.filterMap Call.request? = [] ∨
      (∀ k e, Prevents query gpu configured color settings k e → k = 6) ∧
        ∃ m d n, Countable query gpu color m d ∧ m.requestedCount settings = .ok n ∧
          cs.filterMap Call.request? =
            [((firstPool m gpu color d n).layout.bufferRequest, configured)] := by
  cases hc with
  | untold hq => exact .inl ⟨⟨1, _, .query hq, by omega⟩, rfl⟩
  | colorless hq hd => exact .inl ⟨⟨2, _, .color hd, by omega⟩, rfl⟩
  | unusable hq hd hu =>
    obtain ⟨i, hi, hg⟩ := Usage.exists_missing hu
    exact .inl ⟨⟨3, _, .usage hi hg, by omega⟩, rfl⟩
  | uncounted hw hn =>
    have hlarge := (WindowProfile.overflow_of_requestedCount hn).1
    exact .inl ⟨⟨4, _, .count hw.told hlarge, by omega⟩, rfl⟩
  | degenerate hw hn hp =>
    exact .inl ⟨⟨5, _, .bounds hw.told (isEmpty_firstPool.mp hp), by omega⟩, rfl⟩
  | rejected hw hn hp hc | made hw hn hp hc =>
    subst hc
    exact .inr ⟨fun k e ho => (ho.refused_at_six_of_pixels hw hn hp).1, _, _, _, hw, hn, rfl⟩

theorem Creates.eq_firstPool {p : Pool}
    (hc : Creates query gpu configured color settings (.ok p) cs rs) :
    ∃ m d n, Countable query gpu color m d ∧ m.requestedCount settings = .ok n ∧
      p = firstPool m gpu color d n := by
  cases hc with
  | made hw hn => exact ⟨_, _, _, hw, hn, rfl⟩

/-! ## Every creation -/

/-- A dimension brought within the bounds of a window and a GPU. -/
def fitted (size lower upper gpuMax : UInt32) : Nat :=
  min (max size.toNat (max lower.toNat 1)) (min upper.toNat gpuMax.toNat)

/-- The logical size of the first layout, dimension by dimension. -/
theorem toNat_firstPool (m : WindowProfile) (gpu : GpuLimits) (color : ColorSetup) (d : Dataspace)
    (n : UInt64) :
    let size := (firstPool m gpu color d n).layout.logicalSize
    size.width.toNat =
        fitted m.defaultSize.width m.minSize.width m.maxSize.width gpu.maxDimension ∧
      size.height.toNat =
        fitted m.defaultSize.height m.minSize.height m.maxSize.height gpu.maxDimension := by
  have hdim : ∀ size lower upper gpuMax : UInt32,
      (min (max size (max lower 1)) (min upper gpuMax)).toNat =
        fitted size lower upper gpuMax := by
    intro size lower upper gpuMax
    simp only [UInt32.toNat_min, UInt32.toNat_max, fitted]
    rfl
  exact ⟨hdim .., hdim ..⟩

/-- A creation fails with the first objection, and if there is none it succeeds. The window is asked
to take a layout at most once, and exactly if nothing but its own refusal is left to object. Then
it is asked for its default size, brought within the bounds of window and GPU, where an upper bound
wins over a lower one, and exchanged in width and height if the window turns by a quarter, under the
inverse of its transform. -/
theorem create_decided (query : Answer WindowProfile) (gpu : GpuLimits)
    (configured : Answer Unit) (color : ColorSetup) (settings : Settings) :
    let made := create query gpu configured color settings
    let prevents := Prevents query gpu configured color settings
    let requests := made.trace.calls.filterMap Call.request?
    (∀ e, made.result = .error e ↔ ∃ k, prevents k e ∧ ∀ k' e', prevents k' e' → k ≤ k') ∧
      ((∃ p, made.result = .ok p) ↔ ∀ k e, ¬ prevents k e) ∧
      ((∃ k e, prevents k e ∧ k < 6) → requests = []) ∧
      ((∀ k e, prevents k e → k = 6) →
        ∃ m r, query = .given m ∧ requests = [(r, configured)] ∧
          r.transform = m.transformHint.inverse ∧
          ∃ size : Extent,
            r.size = (if m.transformHint.contains .rot90 then size.swapped else size) ∧
            size.width.toNat = fitted m.defaultSize.width m.minSize.width m.maxSize.width
              gpu.maxDimension ∧
            size.height.toNat = fitted m.defaultSize.height m.minSize.height m.maxSize.height
              gpu.maxDimension) := by
  intro made prevents requests
  have hc := create_cases query gpu configured color settings
  have hdec := hc.decided
  refine ⟨fun e => hdec.error_iff fun _ _ _ ho ho' => ho.unique ho', hdec.ok_iff, ?_, ?_⟩
  · rintro ⟨k, e, ho, hk⟩
    rcases hc.requests with ⟨-, hnone⟩ | ⟨hlast, -⟩
    · exact hnone
    · have := hlast k e ho
      omega
  · intro hlast
    rcases hc.requests with ⟨⟨k, e, ho, hk⟩, -⟩ | ⟨-, m, d, n, hw, -, hone⟩
    · have := hlast k e ho
      omega
    · exact ⟨m, _, hw.told, hone, rfl, _, rfl, toNat_firstPool m gpu color d n⟩

/-- A window that is turned by a quarter has bounds that cross in both dimensions, and it is asked
for the upper ones. If it has no height, it is not asked, although it would refuse. -/
theorem create_decided_crossing :
    let m : WindowProfile := { WindowProfile.plain with
      minSize := ⟨100, 100⟩, maxSize := ⟨50, 40⟩, transformHint := .rot90 }
    let flat : WindowProfile := { m with maxSize := ⟨50, 0⟩ }
    let prevents := Prevents (.given flat) .plain (.refused "busy") .plain .builtin
    (∃ r, (create (.given m) .plain (.given ()) .plain .builtin).trace.calls.filterMap
        Call.request? = [(r, .given ())] ∧ r.size = ⟨40, 50⟩ ∧ r.transform = .rot270) ∧
      prevents 6 (.configurationRejected "busy") ∧
      ∃ k, prevents k (.degenerateSize ⟨50, 0⟩) ∧ ∀ k' e', prevents k' e' → k ≤ k' := by
  intro m flat prevents
  obtain ⟨-, hok, -, hone⟩ := create_decided (.given m) .plain (.given ()) .plain .builtin
  obtain ⟨herror, -⟩ := create_decided (.given flat) .plain (.refused "busy") .plain .builtin
  have hmade : (create (.given m) .plain (.given ()) .plain .builtin).result =
      .ok (firstPool m .plain .plain .srgb 3) := by
    simp only [m]
    rfl
  have hflat : (create (.given flat) .plain (.refused "busy") .plain .builtin).result =
      .error (.degenerateSize ⟨50, 0⟩) := by
    simp only [flat, m]
    rfl
  refine ⟨?_, .window rfl, (herror _).mp hflat⟩
  have hnone := hok.mp ⟨_, hmade⟩
  obtain ⟨m', r, hm, hr, htransform, size, hsize, hwidth, hheight⟩ :=
    hone fun k e ho => absurd ho (hnone k e)
  cases hm
  have hfit : size = ⟨50, 40⟩ := by
    have hw : size.width = 50 := UInt32.toNat_inj.mp hwidth
    have hh : size.height = 40 := UInt32.toNat_inj.mp hheight
    rw [← hw, ← hh]
  refine ⟨r, hr, ?_, htransform.trans (by decide)⟩
  rw [hsize, hfit]
  decide

/-- A window tells its properties and takes every layout, the GPU can render to its buffers, and
there are pixels to draw. Still no pool is made for it, since the three parts of the number of
buffers add up to more than a word holds. -/
theorem create_fails_uncounted :
    let m : WindowProfile := { WindowProfile.plain with minUndequeued := 0xFFFFFFFFFFFFFFFF }
    let gpu := GpuLimits.plain
    let color := ColorSetup.plain
    color.dataspace? = some .srgb ∧
      (gpu.supportedUsage color.type.pixelFormat).contains .renderTarget = true ∧
      m.maxSize.width ≠ 0 ∧ m.maxSize.height ≠ 0 ∧ gpu.maxDimension ≠ 0 ∧
      ∀ p, (create (.given m) gpu (.given ()) color ⟨9, 1⟩).result ≠ .ok p := by
  intro m gpu color
  refine ⟨by decide, by decide, by decide, by decide, by decide, fun p hp => ?_⟩
  have hc := create_cases (.given m) gpu (.given ()) color ⟨9, 1⟩
  obtain ⟨m', d, n, hw, hn, -⟩ := Creates.eq_firstPool (hp ▸ hc)
  cases hw.told
  exact absurd (WindowProfile.toNat_of_requestedCount hn).1 (by decide)

end Pool
end Swapchain
