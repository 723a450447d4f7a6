import Swapchain.Proofs.Documents
import Swapchain.Settings.Document

/-!
# Which documents hold settings

One entry of a document decides, and of it the fields that it gives: a table gives them by their keys,
an array by position. The first field in document order that settings cannot have is reported, and
only if there is none the fields are looked at together. Each field that is not given keeps its
built-in value.

* `Settings.Objection`, `Settings.Fits`: a field that settings cannot have, or can;
* `Settings.FirstFault`: the first objection in document order;
* `Settings.foldlM_withEntry_cases`: what fields are read as;
* `Settings.Decided`: the rule for a whole entry, `Settings.decided_ofDocument`: that it is kept;
* `Settings.document_decided`: the settings of every document, and so of every text.
-/

namespace Swapchain.Settings

open Toml (Value Entries WellKeyed FitsWord)

variable {e : String × Value} {es es' : Entries} {k : String} {v : Value} {s s' : Settings}
  {fault fault' : SchemaFault}

/-! ## One field -/

/-- A key that settings have. -/
def IsField (k : String) : Prop := k = targetKey ∨ k = extraKey

instance (k : String) : Decidable (IsField k) :=
  inferInstanceAs (Decidable (k = targetKey ∨ k = extraKey))

/-- A field that settings can have: one of theirs, with a whole number that is not negative. -/
def Fits (e : String × Value) : Prop := IsField e.1 ∧ ∃ n : Nat, e.2 = .integer n

/-- Why settings cannot have a field. -/
inductive Objection : String × Value → SchemaFault → Prop where
  | unknown {k : String} {v : Value} (hk : ¬ IsField k) : Objection (k, v) (.unknownKey k)
  | kind {k : String} {v : Value} (hk : IsField k) (hv : ∀ n, v ≠ .integer n) :
    Objection (k, v) (.wrongKind v .count)
  | negative {k : String} {n : Int} (hk : IsField k) (hn : n < 0) :
    Objection (k, .integer n) (.negative n)

theorem Objection.not_fits (h : Objection e fault) : ¬ Fits e := by
  rintro ⟨hk, n, hn⟩
  cases h with
  | unknown hk' => exact hk' hk
  | kind _ hv => exact hv n hn
  | negative _ hneg =>
    cases hn
    omega

theorem Objection.eq (h : Objection e fault) (h' : Objection e fault') : fault = fault' := by
  cases h with
  | unknown hk =>
    cases h' with
    | unknown => rfl
    | kind hk' | negative hk' => exact absurd hk' hk
  | kind hk hv =>
    cases h' with
    | unknown hk' => exact absurd hk hk'
    | kind => rfl
    | negative => exact absurd rfl (hv _)
  | negative hk hn =>
    cases h' with
    | unknown hk' => exact absurd hk hk'
    | kind _ hv => exact absurd rfl (hv _)
    | negative => rfl

/-- A number counts buffers, or there is an objection to it. -/
theorem countOf_cases (hk : IsField k) (hv : v.Valid) :
    (∃ fault, Objection (k, v) fault ∧ countOf v = .error fault) ∨
      ∃ n : UInt64, v = .integer n.toNat ∧ countOf v = .ok n := by
  cases hv with
  | @integer n h =>
    by_cases hn : n < 0
    · exact .inl ⟨_, .negative hk hn, if_pos hn⟩
    · have hlt := h.2
      have hword : (UInt64.ofNat n.toNat).toNat = n.toNat :=
        UInt64.toNat_ofNat_of_lt' (by simp only [UInt64.size]; omega)
      refine .inr ⟨UInt64.ofNat n.toNat, ?_, if_neg hn⟩
      rw [hword, Int.toNat_of_nonneg (Int.not_lt.mp hn)]
  | string | float | boolean | datetime | array | table =>
    exact .inl ⟨_, .kind hk nofun, rfl⟩

/-- The field is given the number, or it is not given and keeps the one it has. -/
def FieldIs (es : Entries) (k : String) (given n : UInt64) : Prop :=
  (k, .integer n.toNat) ∈ es ∨ (∀ v, (k, v) ∉ es) ∧ n = given

theorem targetKey_ne : targetKey ≠ extraKey := by decide

/-- A field is taken over, or there is an objection to it. -/
theorem withEntry_cases (s : Settings) (e : String × Value) (hv : e.2.Valid) :
    (∃ fault, Objection e fault ∧ s.withEntry e.1 e.2 = .error fault) ∨
      Fits e ∧ ∃ s', s.withEntry e.1 e.2 = .ok s' ∧
        FieldIs [e] targetKey s.target s'.target ∧ FieldIs [e] extraKey s.extra s'.extra := by
  obtain ⟨k, v⟩ := e
  by_cases ht : k = targetKey
  · subst ht
    rcases countOf_cases (.inl rfl) hv with ⟨fault, hf, hc⟩ | ⟨n, rfl, hc⟩
    · exact .inl ⟨fault, hf, by simp [withEntry, hc, Except.map]⟩
    · refine .inr ⟨⟨.inl rfl, _, rfl⟩, { s with target := n }, by simp [withEntry, hc, Except.map],
        .inl (by simp), .inr ⟨?_, rfl⟩⟩
      simp [targetKey_ne.symm]
  · by_cases hx : k = extraKey
    · subst hx
      rcases countOf_cases (.inr rfl) hv with ⟨fault, hf, hc⟩ | ⟨n, rfl, hc⟩
      · exact .inl ⟨fault, hf, by simp [withEntry, ht, hc, Except.map]⟩
      · refine .inr ⟨⟨.inr rfl, _, rfl⟩, { s with extra := n },
          by simp [withEntry, ht, hc, Except.map], .inr ⟨?_, rfl⟩, .inl (by simp)⟩
        simp [targetKey_ne]
    · exact .inl ⟨_, .unknown (not_or_intro ht hx), by simp [withEntry, ht, hx]⟩

/-! ## All fields -/

/-- The objection to the first field, in document order, that settings cannot have. -/
inductive FirstFault : Entries → SchemaFault → Prop where
  | here {e : String × Value} {es : Entries} {fault : SchemaFault} (h : Objection e fault) :
    FirstFault (e :: es) fault
  | later {e : String × Value} {es : Entries} {fault : SchemaFault} (he : Fits e)
      (h : FirstFault es fault) : FirstFault (e :: es) fault

theorem FirstFault.not_fits (h : FirstFault es fault) : ¬ ∀ e ∈ es, Fits e := by
  induction h with
  | here h => exact fun hall => h.not_fits (hall _ List.mem_cons_self)
  | later _ _ ih => exact fun hall => ih fun e he => hall e (List.mem_cons_of_mem _ he)

theorem FirstFault.eq (h : FirstFault es fault) (h' : FirstFault es fault') : fault = fault' := by
  induction h with
  | here h =>
    cases h' with
    | here h' => exact h.eq h'
    | later he => exact absurd he h.not_fits
  | later he _ ih =>
    cases h' with
    | here h' => exact absurd he h'.not_fits
    | later _ h' => exact ih h'

/-- A field that is taken over is not given again. -/
theorem FieldIs.cons {given n m : UInt64} (hd : ((e :: es).map Prod.fst).Nodup)
    (h : FieldIs [e] k given n) (h' : FieldIs es k n m) : FieldIs (e :: es) k given m := by
  rw [List.map_cons, List.nodup_cons] at hd
  rcases h with hmem | ⟨hnone, rfl⟩
  · obtain rfl := List.mem_singleton.mp hmem
    have hrest : ∀ v, (k, v) ∉ es := fun v hv => hd.1 (List.mem_map.mpr ⟨_, hv, rfl⟩)
    rcases h' with hmem' | ⟨-, rfl⟩
    · exact absurd hmem' (hrest _)
    · exact .inl List.mem_cons_self
  · rcases h' with hmem' | ⟨hrest, rfl⟩
    · exact .inl (List.mem_cons_of_mem _ hmem')
    · refine .inr ⟨fun v hv => ?_, rfl⟩
      rcases List.mem_cons.mp hv with rfl | hv
      · exact hnone v (List.mem_singleton_self _)
      · exact hrest v hv

/-- Fields are read as the settings that they give, or the first objection is the answer. -/
theorem foldlM_withEntry_cases (s : Settings) (h : WellKeyed Value.Valid es) :
    (∃ fault, FirstFault es fault ∧
        es.foldlM (fun s e => s.withEntry e.1 e.2) s = .error fault) ∨
      (∀ e ∈ es, Fits e) ∧ ∃ s', es.foldlM (fun s e => s.withEntry e.1 e.2) s = .ok s' ∧
        FieldIs es targetKey s.target s'.target ∧ FieldIs es extraKey s.extra s'.extra := by
  induction es generalizing s with
  | nil => exact .inr ⟨nofun, s, rfl, .inr ⟨fun _ => List.not_mem_nil, rfl⟩,
      .inr ⟨fun _ => List.not_mem_nil, rfl⟩⟩
  | cons e es ih =>
    have hrest : WellKeyed Value.Valid es :=
      ⟨(List.nodup_cons.mp h.distinct).2, fun e he => h.all e (List.mem_cons_of_mem _ he)⟩
    rw [List.foldlM_cons]
    rcases withEntry_cases s e (h.all e List.mem_cons_self) with
      ⟨fault, hf, hs⟩ | ⟨he, s₁, hs, ht, hx⟩
    · refine .inl ⟨fault, .here hf, ?_⟩
      rw [hs]
      rfl
    · rw [hs]
      rcases ih s₁ hrest with ⟨fault, hf, hs₁⟩ | ⟨hall, s', hs₁, ht', hx'⟩
      · exact .inl ⟨fault, .later he hf, hs₁⟩
      · exact .inr ⟨List.forall_mem_cons.mpr ⟨he, hall⟩, s', hs₁, ht.cons h.distinct ht',
          hx.cons h.distinct hx'⟩

/-! ## The whole entry -/

/-- The fields that an entry gives: a table by their keys, an array by position. -/
def fields? : Value → Option Entries
  | .table es => some es
  | .array items => some ([targetKey, extraKey].zip items)
  | _ => none

/-- Why an entry of another kind gives no fields. A date stands for a table with a key of its own. -/
def kindFault : Value → SchemaFault
  | .datetime _ => .unknownKey dateKey
  | v => .wrongKind v .settings

theorem ofItems_eq_ofEntries (items : List Value) :
    ofItems items = ofEntries ([targetKey, extraKey].zip items) := by
  have hx : (extraKey = targetKey) = False := eq_false targetKey_ne.symm
  match items with
  | [] => rfl
  | [a] => cases h : countOf a <;> simp [ofItems, ofEntries, withEntry, h, Except.map, bind,
      Except.bind, pure, Except.pure]
  | a :: b :: _ => cases h : countOf a <;> cases h' : countOf b <;> simp [ofItems, ofEntries,
      withEntry, hx, h, h', Except.map, bind, Except.bind, pure, Except.pure, builtin]

theorem ofValue_of_fields (h : fields? v = some es) : ofValue v = ofEntries es := by
  cases v with
  | table es' =>
    cases h
    rfl
  | array items =>
    cases h
    exact ofItems_eq_ofEntries items
  | string | integer | float | boolean | datetime => cases h

theorem ofValue_of_no_fields (h : fields? v = none) : ofValue v = .error (kindFault v) := by
  cases v with
  | table | array => cases h
  | string | integer | float | boolean | datetime => rfl

/-- The fields that a valid entry gives are valid and have distinct keys. -/
theorem wellKeyed_fields (hv : v.Valid) (h : fields? v = some es) : WellKeyed Value.Valid es := by
  cases hv with
  | table hkeys hall =>
    cases h
    exact ⟨hkeys, hall⟩
  | @array items hall =>
    cases h
    refine ⟨?_, fun e he => hall e.2 (List.of_mem_zip he).2⟩
    match items with
    | [] => exact List.nodup_nil
    | [_] => exact List.nodup_singleton _
    | _ :: _ :: _ => simp [targetKey_ne]
  | string | integer | float | boolean | datetime => cases h

/-- Under distinct keys a field has one number. -/
theorem FieldIs.eq {given n m : UInt64} (hd : (es.map Prod.fst).Nodup) (h : FieldIs es k given n)
    (h' : FieldIs es k given m) : n = m := by
  rcases h with hn | ⟨hnone, rfl⟩
  · rcases h' with hm | ⟨hnone, -⟩
    · rw [← Toml.lookup_eq_some_iff_mem hd] at hn hm
      have hnum := Value.integer.inj (Option.some.inj (hn.symm.trans hm))
      exact UInt64.toNat_inj.mp (Int.ofNat_inj.mp hnum)
    · exact absurd hn (hnone _)
  · rcases h' with hm | ⟨-, rfl⟩
    · exact absurd hm (hnone _)
    · rfl

/-- A field that has another number built in is zero exactly if zero is given. -/
theorem FieldIs.zero_iff {given n : UInt64} (hd : (es.map Prod.fst).Nodup) (hg : given ≠ 0)
    (h : FieldIs es k given n) : (k, .integer 0) ∈ es ↔ n = 0 := by
  constructor
  · intro hzero
    exact h.eq hd (.inl hzero)
  · rintro rfl
    rcases h with hmem | ⟨-, hzero⟩
    · exact hmem
    · exact absurd hzero.symm hg

/-- The ways in which the fields of an entry decide. -/
inductive Outcome (es : Entries) : Except SettingsError Settings → Prop where
  | schema {fault : SchemaFault} (h : FirstFault es fault) : Outcome es (.error (.schema fault))
  | noTarget (hall : ∀ e ∈ es, Fits e) (hzero : (targetKey, .integer 0) ∈ es) :
    Outcome es (.error .noTarget)
  | ok {s : Settings} (hall : ∀ e ∈ es, Fits e) (hzero : (targetKey, .integer 0) ∉ es)
      (ht : FieldIs es targetKey 2 s.target) (hx : FieldIs es extraKey 0 s.extra) :
    Outcome es (.ok s)

theorem outcome_ofDocument {d : Entries} (hd : d.lookup entryKey = some v)
    (hv : fields? v = some es) (h : WellKeyed Value.Valid es) : Outcome es (ofDocument d) := by
  rw [ofDocument, hd]
  dsimp only
  rw [ofValue_of_fields hv, ofEntries]
  rcases foldlM_withEntry_cases builtin h with ⟨fault, hf, hr⟩ | ⟨hall, s, hr, ht, hx⟩
  · rw [hr]
    exact .schema hf
  · rw [hr]
    have hzero := ht.zero_iff h.distinct (by decide)
    dsimp only
    unfold checked
    split
    · rename_i hs
      exact .noTarget hall (hzero.mpr hs)
    · rename_i hs
      exact .ok hall (fun hmem => hs (hzero.mp hmem)) ht hx

section Outcome

variable {r : Except SettingsError Settings}

theorem Outcome.ok_iff (h : Outcome es r) :
    (∃ s, r = .ok s) ↔ (∀ e ∈ es, Fits e) ∧ (targetKey, .integer 0) ∉ es := by
  cases h with
  | schema h => exact iff_of_false nofun fun h' => h.not_fits h'.1
  | noTarget _ hzero => exact iff_of_false nofun fun h' => h'.2 hzero
  | ok hall hzero => exact iff_of_true ⟨_, rfl⟩ ⟨hall, hzero⟩

theorem Outcome.schema_iff (h : Outcome es r) :
    r = .error (.schema fault) ↔ FirstFault es fault := by
  cases h with
  | schema h =>
    constructor
    · rintro ⟨⟩
      exact h
    · intro h'
      rw [h.eq h']
  | noTarget hall | ok hall => exact iff_of_false nofun fun h' => h'.not_fits hall

theorem Outcome.noTarget_iff (h : Outcome es r) :
    r = .error .noTarget ↔ (∀ e ∈ es, Fits e) ∧ (targetKey, .integer 0) ∈ es := by
  cases h with
  | schema h => exact iff_of_false nofun fun h' => h.not_fits h'.1
  | noTarget hall hzero => exact iff_of_true rfl ⟨hall, hzero⟩
  | ok _ hzero => exact iff_of_false nofun fun h' => hzero h'.2

theorem Outcome.fields (h : Outcome es (.ok s)) :
    FieldIs es targetKey 2 s.target ∧ FieldIs es extraKey 0 s.extra := by
  cases h with
  | ok _ _ ht hx => exact ⟨ht, hx⟩

/-- Fields that are read at all leave a buffer to draw in. -/
theorem Outcome.target_pos (h : Outcome es (.ok s)) : 1 ≤ s.target.toNat := by
  cases h with
  | ok _ hzero ht =>
    rw [Nat.one_le_iff_ne_zero]
    intro hs
    rcases ht with hmem | ⟨-, htwo⟩
    · rw [hs] at hmem
      exact hzero hmem
    · rw [htwo] at hs
      exact absurd hs (by decide)

end Outcome

/-! ## The whole document -/

/-- The rule for the entry of a document that holds the settings. -/
structure Decided (entry : Option Value) (r : Except SettingsError Settings) : Prop where
  /-- Without the entry the settings are built in. -/
  absent : entry = none → r = .ok ⟨2, 0⟩
  /-- An entry that gives fields holds settings exactly if settings can have all of them, and they
  leave a buffer to draw in. -/
  ok_iff : ∀ v es, entry = some v → fields? v = some es →
    ((∃ s, r = .ok s) ↔ (∀ e ∈ es, Fits e) ∧ (targetKey, .integer 0) ∉ es)
  /-- These are the numbers that are given, and the built-in ones in place of those that are not. -/
  fields : ∀ v es s, entry = some v → fields? v = some es → r = .ok s →
    FieldIs es targetKey 2 s.target ∧ FieldIs es extraKey 0 s.extra
  /-- The first field that settings cannot have is the fault, whatever else is wrong. -/
  schema_iff : ∀ v es fault, entry = some v → fields? v = some es →
    (r = .error (.schema fault) ↔ FirstFault es fault)
  /-- Only fields that settings can have may leave no buffer to draw in. -/
  noTarget_iff : ∀ v es, entry = some v → fields? v = some es →
    (r = .error .noTarget ↔ (∀ e ∈ es, Fits e) ∧ (targetKey, .integer 0) ∈ es)
  /-- An entry of any other kind is a fault. -/
  kind : ∀ v, entry = some v → fields? v = none → r = .error (.schema (kindFault v))
  /-- There is always a buffer to draw in. -/
  target_pos : ∀ s, r = .ok s → 1 ≤ s.target.toNat

theorem ofDocument_absent {d : Entries} (hd : d.lookup entryKey = none) :
    ofDocument d = .ok ⟨2, 0⟩ := by
  rw [ofDocument, hd]
  rfl

theorem ofDocument_kind {d : Entries} (hd : d.lookup entryKey = some v) (hv : fields? v = none) :
    ofDocument d = .error (.schema (kindFault v)) := by
  rw [ofDocument, hd]
  dsimp only
  rw [ofValue_of_no_fields hv]

theorem decided_ofDocument {d : Entries} (hd : WellKeyed Value.Valid d) :
    Decided (d.lookup entryKey) (ofDocument d) := by
  have outcome (v : Value) (es : Entries) (hv : d.lookup entryKey = some v)
      (hes : fields? v = some es) : Outcome es (ofDocument d) :=
    outcome_ofDocument hv hes (wellKeyed_fields (hd.of_lookup hv) hes)
  refine ⟨ofDocument_absent, fun v es hv hes => (outcome v es hv hes).ok_iff,
    fun v es s hv hes hr => (hr ▸ outcome v es hv hes).fields,
    fun v es fault hv hes => (outcome v es hv hes).schema_iff,
    fun v es hv hes => (outcome v es hv hes).noTarget_iff,
    fun v => ofDocument_kind, fun s hr => ?_⟩
  cases hentry : d.lookup entryKey with
  | none =>
    cases hr.symm.trans (ofDocument_absent hentry)
    decide
  | some v =>
    cases hes : fields? v with
    | none => cases hr.symm.trans (ofDocument_kind hentry hes)
    | some es => exact (hr ▸ outcome v es hentry hes).target_pos

theorem FieldIs.perm {given n : UInt64} (hp : es.Perm es') (h : FieldIs es k given n) :
    FieldIs es' k given n := by
  rcases h with hmem | ⟨hnone, rfl⟩
  · exact .inl (hp.mem_iff.mp hmem)
  · exact .inr ⟨fun v hv => hnone v (hp.mem_iff.mpr hv), rfl⟩

/-- The order of a table's entries does not matter to settings that are read. -/
theorem ofDocument_perm {d d' : Entries} (hd : WellKeyed Value.Valid d)
    (hd' : WellKeyed Value.Valid d') (he : d.lookup entryKey = some (.table es))
    (he' : d'.lookup entryKey = some (.table es')) (hp : es.Perm es') (hs : ofDocument d = .ok s) :
    ofDocument d' = .ok s := by
  have hkeyed' := wellKeyed_fields (hd'.of_lookup he') rfl
  have outcome := outcome_ofDocument he rfl (wellKeyed_fields (hd.of_lookup he) rfl)
  have outcome' := outcome_ofDocument he' rfl hkeyed'
  obtain ⟨hall, hzero⟩ := outcome.ok_iff.mp ⟨s, hs⟩
  obtain ⟨s', hs'⟩ := outcome'.ok_iff.mpr
    ⟨fun e he => hall e (hp.mem_iff.mpr he), fun hmem => hzero (hp.mem_iff.mpr hmem)⟩
  obtain ⟨ht, hx⟩ := (hs ▸ outcome).fields
  obtain ⟨ht', hx'⟩ := (hs' ▸ outcome').fields
  have htarget : s.target = s'.target := (ht.perm hp).eq hkeyed'.distinct ht'
  have hextra : s.extra = s'.extra := (hx.perm hp).eq hkeyed'.distinct hx'
  obtain rfl : s = s' := by
    cases s
    cases s'
    simp_all
  exact hs'

/-- A document is read by the rule for the one entry that holds the settings, whatever else it has.
If that is a table whose settings are read, its entries may as well stand in another order. Distinct
keys and numbers that fit a word are what every document has that is read off a text, and the settings
of a text are those of its document. -/
theorem document_decided :
    (∀ text d, Toml.Document.read? text = some d →
      WellKeyed Value.Valid d ∧ ofToml text = ofDocument d) ∧
    ∀ d, WellKeyed Value.Valid d →
      Decided (d.lookup entryKey) (ofDocument d) ∧
      (∀ d' : Entries, d'.lookup entryKey = d.lookup entryKey → ofDocument d' = ofDocument d) ∧
      ∀ d' es es', WellKeyed Value.Valid d' → d.lookup entryKey = some (.table es) →
        d'.lookup entryKey = some (.table es') → es.Perm es' →
          ∀ s, ofDocument d = .ok s ↔ ofDocument d' = .ok s := by
  constructor
  · intro text d h
    refine ⟨Toml.Document.wellKeyed_read? h, ?_⟩
    rw [ofToml, h]
  · intro d hd
    refine ⟨decided_ofDocument hd, fun d' h => ?_, fun d' es es' hd' he he' hp s => ?_⟩
    · rw [ofDocument, h, ofDocument]
    · exact ⟨ofDocument_perm hd hd' he he' hp, ofDocument_perm hd' hd he' he hp.symm⟩

/-- Three buffers to draw in and one to spare, in either order and with another entry or without. A
table that gives no buffer to draw in and then an unknown key is told of the key. -/
theorem document_decided_reordered :
    let text := "surface = \x7bextra_buffers = 1, target_buffer_count = 3\x7d\nother = 0"
    let text' := "[surface]\ntarget_buffer_count = 3\nextra_buffers = 1\n"
    let text'' := "[surface]\ntarget_buffer_count = 0\nbuffers = 3\n"
    ofToml text = .ok ⟨3, 1⟩ ∧ ofToml text' = .ok ⟨3, 1⟩ ∧
      ofToml text'' = .error (.schema (.unknownKey "buffers")) := by
  intro text text' text''
  obtain ⟨hread, hdecided⟩ := document_decided
  let es : Entries := [(extraKey, .integer 1), (targetKey, .integer 3)]
  let es' : Entries := [(targetKey, .integer 3), (extraKey, .integer 1)]
  let es'' : Entries := [(targetKey, .integer 0), ("buffers", .integer 3)]
  let d : Entries := [(entryKey, .table es), ("other", .integer 0)]
  obtain ⟨hd, htext⟩ := hread text d (by decide +kernel)
  obtain ⟨hd', htext'⟩ := hread text' [(entryKey, .table es')] (by decide +kernel)
  obtain ⟨hd'', htext''⟩ := hread text'' [(entryKey, .table es'')] (by decide +kernel)
  have hok : ofDocument d = .ok ⟨3, 1⟩ := rfl
  have horder := (hdecided d hd).2.2 _ es es' hd' rfl rfl (.swap ..) ⟨3, 1⟩
  have hfault : FirstFault es'' (.unknownKey "buffers") :=
    .later ⟨.inl rfl, 0, rfl⟩ (.here (.unknown (by decide)))
  have hschema := (hdecided _ hd'').1.schema_iff _ es'' (.unknownKey "buffers") rfl rfl
  exact ⟨htext.trans hok, htext'.trans (horder.mp hok), htext''.trans (hschema.mpr hfault)⟩

end Swapchain.Settings
