import Mathlib.Data.List.Nodup
import Swapchain.Toml.Document

/-!
# What every document has

In each table of a document the keys are distinct, and each whole number fits a signed 64-bit word.
Scanners see to the numbers, for only what passes their range check becomes a whole number. The
builder sees to the keys: a statement that would write a key again is refused, or goes into the table
that stands under it already.

* `Toml.WellKeyed`: distinct keys and values with a property;
* `Toml.Value.Valid`: the property of all values in a document;
* `Toml.Scanner.Yields`: what a scanner may give, kept from part to whole;
* `Toml.Node.Valid`: the property of the parts of a document that is being read;
* `Toml.Document.wellKeyed_read?`: what is read of a text has it.
-/

namespace Swapchain.Toml

/-! ## Distinct keys -/

section WellKeyed

variable {α : Type} {P : α → Prop} {t : List (String × α)} {k : String} {a : α}

/-- The keys of a table are distinct, and its values have a property. -/
structure WellKeyed (P : α → Prop) (t : List (String × α)) : Prop where
  distinct : (t.map Prod.fst).Nodup
  all : ∀ e ∈ t, P e.2

theorem WellKeyed.nil : WellKeyed P [] := ⟨List.nodup_nil, nofun⟩

/-- Under distinct keys, what is found under a key is what stands there. -/
theorem lookup_eq_some_iff_mem (h : (t.map Prod.fst).Nodup) :
    t.lookup k = some a ↔ (k, a) ∈ t := by
  induction t with
  | nil => simp
  | cons e t ih =>
    obtain ⟨k', a'⟩ := e
    rw [List.map_cons, List.nodup_cons] at h
    by_cases hk : k = k'
    · subst hk
      have hnot : ∀ b, (k, b) ∉ t := fun b hb => h.1 (List.mem_map.mpr ⟨_, hb, rfl⟩)
      simp [List.lookup_cons_self, hnot, eq_comm]
    · rw [List.lookup_cons, beq_false_of_ne hk, ih h.2, List.mem_cons]
      simp [hk]

theorem WellKeyed.of_lookup (h : WellKeyed P t) (hk : t.lookup k = some a) : P a :=
  h.all _ ((lookup_eq_some_iff_mem h.distinct).mp hk)

/-- A new key stands after the others. -/
theorem WellKeyed.append (h : WellKeyed P t) (hk : t.lookup k = none) (ha : P a) :
    WellKeyed P (t ++ [(k, a)]) := by
  have hnew : k ∉ t.map Prod.fst := by
    intro hmem
    obtain ⟨e, he, rfl⟩ := List.mem_map.mp hmem
    simpa using List.lookup_eq_none_iff.mp hk e he
  constructor
  · rw [List.map_append, List.map_singleton]
    exact h.distinct.append (List.nodup_singleton k) (by simpa using hnew)
  · intro e he
    rcases List.mem_append.mp he with he | he
    · exact h.all e he
    · rw [List.mem_singleton.mp he]
      exact ha

end WellKeyed

/-- What each step of a row of steps keeps, the row keeps. -/
theorem foldlM_induct {σ β : Type} {P : β → Prop} {Q : σ → Prop} {f : β → σ → Option β} {b b' : β}
    {l : List σ} (hf : ∀ b s b', P b → Q s → f b s = some b' → P b') (hb : P b)
    (hl : ∀ s ∈ l, Q s) (h : l.foldlM f b = some b') : P b' := by
  induction l generalizing b with
  | nil =>
    cases h
    exact hb
  | cons s l ih =>
    obtain ⟨c, hc, h⟩ := Option.bind_eq_some_iff.mp h
    exact ih (hf b s c hb (hl s List.mem_cons_self) hc)
      (fun s hs => hl s (List.mem_cons_of_mem _ hs)) h

/-! ## Values -/

/-- The whole numbers that fit a signed 64-bit word. -/
def FitsWord (n : Int) : Prop := -0x8000000000000000 ≤ n ∧ n < 0x8000000000000000

/-- The keys of all tables are distinct, and all whole numbers fit a word. -/
inductive Value.Valid : Value → Prop where
  | string (s : String) : Valid (.string s)
  | integer {n : Int} (h : FitsWord n) : Valid (.integer n)
  | float (x : Binary64) : Valid (.float x)
  | boolean (b : Bool) : Valid (.boolean b)
  | datetime (text : String) : Valid (.datetime text)
  | array {items : List Value} (h : ∀ v ∈ items, Valid v) : Valid (.array items)
  | table {entries : Entries} (h : (entries.map Prod.fst).Nodup)
      (h' : ∀ e ∈ entries, Valid e.2) : Valid (.table entries)

/-- The property of the parts of a document that is being read. -/
inductive Node.Valid : Node → Prop where
  | value {v : Value} (h : v.Valid) : Valid (.value v)
  | table {origin : Origin} {t : Table} (h : (t.map Prod.fst).Nodup)
      (h' : ∀ e ∈ t, Valid e.2) : Valid (.table origin t)
  | tables {ts : List Table} (h : ∀ t ∈ ts, (t.map Prod.fst).Nodup)
      (h' : ∀ t ∈ ts, ∀ e ∈ t, Valid e.2) : Valid (.tables ts)

/-- The property of a table that is being read. -/
abbrev Table.Valid (t : Table) : Prop := WellKeyed Node.Valid t

theorem Node.valid_table_iff {origin : Origin} {t : Table} :
    (Node.table origin t).Valid ↔ t.Valid :=
  ⟨fun | .table h h' => ⟨h, h'⟩, fun h => .table h.distinct h.all⟩

theorem Node.valid_tables_iff {ts : List Table} :
    (Node.tables ts).Valid ↔ ∀ t ∈ ts, Table.Valid t :=
  ⟨fun | .tables h h' => fun t ht => ⟨h t ht, h' t ht⟩,
    fun h => .tables (fun t ht => (h t ht).distinct) fun t ht => (h t ht).all⟩

/-! ## Tables -/

namespace Table

variable {t u : Table} {ts us : List Table} {k name : String} {n : Node} {v : Value}
  {path : List String} {change : Table → Option Table}

theorem Valid.put (h : t.Valid) (hn : n.Valid) : (t.put k n).Valid := by
  have hkeys : (t.put k n).map Prod.fst = t.map Prod.fst := by
    rw [Table.put, List.map_map]
    refine List.map_congr_left fun e _ => ?_
    simp only [Function.comp_apply]
    split
    · rename_i hk
      exact (eq_of_beq hk).symm
    · rfl
  constructor
  · rw [hkeys]
    exact h.distinct
  · intro e he
    obtain ⟨e', he', rfl⟩ := List.mem_map.mp he
    split
    · exact hn
    · exact h.all e' he'

theorem Valid.remove (h : t.Valid) : (t.remove k).Valid :=
  ⟨h.distinct.sublist (List.filter_sublist.map _), fun e he => h.all e (List.mem_of_mem_filter he)⟩

theorem lookup_remove (k : String) (t : Table) : (t.remove k).lookup k = none := by
  rw [List.lookup_eq_none_iff]
  intro e he
  simpa [bne_comm] using (List.mem_filter.mp he).2

/-- What a change does to a valid table is valid. -/
def Preserves (change : Table → Option Table) : Prop :=
  ∀ t u, t.Valid → change t = some u → u.Valid

theorem Preserves.changeLast (hf : Preserves change) (h : ∀ t ∈ ts, Table.Valid t)
    (hu : changeLast change ts = some us) : ∀ u ∈ us, Table.Valid u := by
  fun_induction Table.changeLast change ts generalizing us with
  | case1 => cases hu
  | case2 t =>
    obtain ⟨u, hchange, rfl⟩ := Option.map_eq_some_iff.mp hu
    simpa using hf t u (h t List.mem_cons_self) hchange
  | case3 t ts hne ih =>
    obtain ⟨us, hus, rfl⟩ := Option.map_eq_some_iff.mp hu
    have hrest := ih (fun t ht => h t (List.mem_cons_of_mem _ ht)) hus
    simpa using ⟨h t List.mem_cons_self, hrest⟩

/-! A change of a table below a name: it is begun there, or it is there already, or it is the last of
those that are. -/

theorem Preserves.begin {origin : Origin} (hf : Preserves change) (ht : t.Valid)
    (hk : t.lookup name = none)
    (hu : ((change []).map fun u => t ++ [(name, .table origin u)]) = some u) : u.Valid := by
  obtain ⟨w, hw, rfl⟩ := Option.map_eq_some_iff.mp hu
  exact ht.append hk (Node.valid_table_iff.mpr (hf _ _ .nil hw))

theorem Preserves.enter {origin : Origin} {below : Table} (hf : Preserves change) (ht : t.Valid)
    (hk : t.lookup name = some (.table origin below))
    (hu : ((change below).map fun u => t.put name (.table origin u)) = some u) : u.Valid := by
  obtain ⟨w, hw, rfl⟩ := Option.map_eq_some_iff.mp hu
  have hbelow : below.Valid := Node.valid_table_iff.mp (ht.of_lookup hk)
  exact ht.put (Node.valid_table_iff.mpr (hf _ _ hbelow hw))

theorem Preserves.enterLast (hf : Preserves change) (ht : t.Valid)
    (hk : t.lookup name = some (.tables ts))
    (hu : ((Table.changeLast change ts).map fun us => t.put name (.tables us)) = some u) : u.Valid := by
  obtain ⟨ws, hws, rfl⟩ := Option.map_eq_some_iff.mp hu
  have hts := Node.valid_tables_iff.mp (ht.of_lookup hk)
  exact ht.put (Node.valid_tables_iff.mpr (hf.changeLast hts hws))

theorem preserves_assign (hv : v.Valid) (path : List String) : Preserves (assign k v path) := by
  induction path with
  | nil =>
    intro t u ht hu
    rw [assign] at hu
    split at hu
    · cases hu
    · rename_i hk
      cases hu
      exact ht.append (Option.not_isSome_iff_eq_none.mp hk) (.value hv)
  | cons name path ih =>
    intro t u ht hu
    rw [assign] at hu
    split at hu
    · rename_i hk
      exact ih.begin ht hk hu
    · rename_i hk
      exact ih.enter ht hk hu
    · rename_i hk
      split at hu
      · cases hu
      · exact ih.enter ht hk hu
    · rename_i hk
      split at hu
      · cases hu
      · exact ih.enterLast ht hk hu
    · cases hu
    · cases hu

theorem Preserves.within (hf : Preserves change) (path : List String) :
    Preserves (within change path) := by
  induction path with
  | nil => exact hf
  | cons name path ih =>
    intro t u ht hu
    rw [Table.within] at hu
    split at hu
    · rename_i hk
      exact ih.begin ht hk hu
    · rename_i hk
      exact ih.enter ht hk hu
    · rename_i hk
      exact ih.enterLast ht hk hu
    · cases hu

theorem preserves_openTable (k : String) : Preserves (openTable k) := by
  intro t u ht hu
  rw [openTable] at hu
  split at hu
  · rename_i hk
    cases hu
    exact ht.append hk (Node.valid_table_iff.mpr .nil)
  · rename_i u' hk
    cases hu
    have hu' : Table.Valid u' := Node.valid_table_iff.mp (ht.of_lookup hk)
    exact ht.remove.append (lookup_remove k t) (Node.valid_table_iff.mpr hu')
  · cases hu

theorem preserves_openElement (k : String) : Preserves (openElement k) := by
  intro t u ht hu
  rw [openElement] at hu
  split at hu
  · rename_i hk
    cases hu
    exact ht.append hk (Node.valid_tables_iff.mpr (by simp [WellKeyed.nil]))
  · rename_i us hk
    cases hu
    have hus := Node.valid_tables_iff.mp (ht.of_lookup hk)
    refine ht.put (Node.valid_tables_iff.mpr fun t ht => ?_)
    rcases List.mem_append.mp ht with ht | ht
    · exact hus t ht
    · rw [List.mem_singleton.mp ht]
      exact .nil
  · cases hu

end Table

/-! ## Finished tables -/

theorem Table.entries_eq_map (t : Table) : Table.entries t = t.map fun e => (e.1, e.2.toValue) := by
  induction t with
  | nil => rfl
  | cons e t ih => rw [Table.entries, ih, List.map_cons]

theorem Table.values_eq_map (ts : List Table) :
    Table.values ts = ts.map fun t => .table (Table.entries t) := by
  induction ts with
  | nil => rfl
  | cons t ts ih => rw [Table.values, ih, List.map_cons]

theorem WellKeyed.entries {t : Table} (h : (t.map Prod.fst).Nodup)
    (h' : ∀ e ∈ t, e.2.toValue.Valid) : WellKeyed Value.Valid (Table.entries t) := by
  rw [Table.entries_eq_map]
  constructor
  · rw [List.map_map]
    exact h
  · intro e he
    obtain ⟨e', he', rfl⟩ := List.mem_map.mp he
    exact h' e' he'

theorem Node.Valid.toValue {n : Node} (h : n.Valid) : n.toValue.Valid := by
  induction h with
  | value h => exact h
  | table h _ ih =>
    have hentries := WellKeyed.entries h ih
    rw [Node.toValue]
    exact .table hentries.distinct hentries.all
  | tables h _ ih =>
    rw [Node.toValue, Table.values_eq_map]
    refine .array fun v hv => ?_
    obtain ⟨t, ht, rfl⟩ := List.mem_map.mp hv
    have hentries := WellKeyed.entries (h t ht) (ih t ht)
    exact .table hentries.distinct hentries.all

theorem Table.Valid.entries {t : Table} (h : t.Valid) : WellKeyed Value.Valid (Table.entries t) :=
  .entries h.distinct fun e he => (h.all e he).toValue

/-! ## Scanners -/

namespace Scanner

variable {α β : Type} {x y : Scanner α} {f : α → Scanner β} {P Q : α → Prop} {R : β → Prop}

/-- All values that a scanner gives have a property. -/
def Yields (x : Scanner α) (P : α → Prop) : Prop := ∀ s a rest, x s = some (a, rest) → P a

theorem Yields.any : Yields x fun _ => True := fun _ _ _ _ => trivial

theorem Yields.pure {a : α} (h : P a) : Yields (pure a : Scanner α) P := by
  intro s b rest hb
  cases hb
  exact h

theorem Yields.fail : Yields (fail : Scanner α) P := by
  intro s a rest ha
  cases ha

theorem Yields.bind (hx : Yields x Q) (hf : ∀ a, Q a → Yields (f a) R) : Yields (x >>= f) R := by
  intro s b rest hb
  obtain ⟨⟨a, r⟩, ha, hb⟩ := Option.bind_eq_some_iff.mp hb
  exact hf a (hx s a r ha) r b rest hb

theorem Yields.map {g : α → β} (hx : Yields x fun a => R (g a)) : Yields (g <$> x) R :=
  Yields.bind hx fun _ ha => .pure ha

theorem Yields.orElse (hx : Yields x P) (hy : Yields y P) : Yields (x <|> y) P := by
  intro s a rest ha
  have ha : (x s <|> y s) = some (a, rest) := ha
  cases hxs : x s with
  | none =>
    rw [hxs] at ha
    exact hy s a rest ha
  | some r =>
    rw [hxs] at ha
    cases ha
    exact hx s a rest hxs

theorem Yields.seqLeft (hx : Yields x P) {z : Scanner β} : Yields (x <* z) P :=
  hx.bind fun _ ha => .bind .any fun _ _ => .pure ha

theorem Yields.seqRight (hx : Yields x P) {z : Scanner β} : Yields (z *> x) P :=
  .bind .any fun _ _ => hx

theorem Yields.optional (hx : Yields x P) : Yields (optional x) fun o => ∀ a ∈ o, P a :=
  Yields.orElse (.map fun s a rest ha b hb => Option.some.inj hb ▸ hx s a rest ha)
    (.pure (by simp))

theorem Yields.upTo (hx : Yields x P) (fuel : Nat) : Yields (upTo x fuel) fun as => ∀ a ∈ as, P a := by
  induction fuel with
  | zero => exact .pure (by simp)
  | succ fuel ih =>
    intro s as rest has
    rw [Scanner.upTo] at has
    dsimp only at has
    split at has
    · rename_i a r ha
      split at has
      · obtain ⟨⟨bs, r'⟩, hbs, heq⟩ := Option.map_eq_some_iff.mp has
        cases heq
        simpa using ⟨hx s a r ha, ih r bs r' hbs⟩
      · cases has
        simp
    · cases has
      simp

theorem Yields.many (hx : Yields x P) : Yields (many x) fun as => ∀ a ∈ as, P a :=
  fun s => hx.upTo s.length s

theorem Yields.sepBy1 (hx : Yields x P) (separator : Scanner Unit) :
    Yields (sepBy1 x separator) fun as => ∀ a ∈ as, P a :=
  hx.bind fun a ha => (Yields.many (.bind .any fun _ _ => hx)).bind fun as has =>
    .pure (by simpa using ⟨ha, has⟩)

/-! ## Scanned values -/

theorem yields_inRange (n : Int) : Yields (inRange n) FitsWord := by
  unfold inRange
  split
  · rename_i h
    exact .pure h
  · exact .fail

theorem yields_integer : Yields integer FitsWord := by
  have based (letter : Char) (base : Nat) (p : Char → Bool) :
      Yields (basedInteger letter base p) FitsWord :=
    .bind .any fun _ _ => .bind .any fun _ _ => yields_inRange _
  have decimal : Yields decimalInteger FitsWord :=
    .bind .any fun _ _ => .bind .any fun _ _ => yields_inRange _
  exact (based _ _ _).orElse <| (based _ _ _).orElse <| (based _ _ _).orElse decimal

theorem yields_scalar : Yields scalar Value.Valid :=
  Yields.orElse (.map fun _ s _ _ => .string s) <|
    .orElse (.map fun _ text _ _ => .datetime text) <|
    .orElse (.map fun _ x _ _ => .float x) <|
    .orElse (.map fun s n rest hn => .integer (yields_integer s n rest hn)) <|
    .map fun _ b _ _ => .boolean b

theorem yields_array {item : Scanner Value} (h : Yields item Value.Valid) :
    Yields (array item) Value.Valid := by
  have items : Yields (sepBy1 (gap *> item <* gap) (exactly [','])) fun vs => ∀ v ∈ vs, v.Valid :=
    Yields.sepBy1 (.seqLeft (.seqRight h)) _
  refine .bind .any fun _ _ => .bind (Yields.optional (items.bind fun vs hvs =>
    .bind .any fun _ _ => .pure hvs)) fun o ho => .bind .any fun _ _ => .bind .any fun _ _ => ?_
  refine .pure (.array ?_)
  cases o with
  | none => simp
  | some vs => exact ho vs rfl

theorem yields_pair {item : Scanner Value} (h : Yields item Value.Valid) :
    Yields (pair item) fun kv => kv.2.Valid :=
  .bind .any fun _ _ => .bind .any fun _ _ => .bind .any fun _ _ => h.bind fun _ hv =>
    .bind .any fun _ _ => .pure hv

theorem yields_inlineTable {item : Scanner Value} (h : Yields item Value.Valid) :
    Yields (inlineTable item) Value.Valid := by
  refine .bind .any fun _ _ => .bind (Yields.optional (Yields.sepBy1 (yields_pair h) _)) fun o ho =>
    .bind .any fun _ _ => .bind .any fun _ _ => ?_
  dsimp only
  split
  · rename_i t ht
    have hpairs : ∀ kv ∈ o.getD [], kv.2.Valid := by
      cases o with
      | none => simp
      | some pairs => exact ho pairs rfl
    have hvalid : Table.Valid t := foldlM_induct
      (fun t kv u ht hv hu => Table.preserves_assign hv kv.1.path t u ht hu) .nil hpairs ht
    exact .pure (.table hvalid.entries.distinct hvalid.entries.all)
  · exact .fail

theorem yields_value (depth : Nat) : Yields (value depth) Value.Valid := by
  induction depth with
  | zero => exact yields_scalar
  | succ depth ih =>
    exact (yields_array ih).orElse <| (yields_inlineTable ih).orElse yields_scalar

end Scanner

/-! ## Documents -/

/-- A statement writes a valid value, if any. -/
def Statement.Valid : Statement → Prop
  | .assign _ v => v.Valid
  | .openTable _ | .openElement _ => True

theorem Scanner.yields_statements : Yields statements fun ss => ∀ s ∈ ss, s.Valid := by
  have assignment : Yields assignment Statement.Valid :=
    (yields_pair (yields_value _)).bind fun _ hv => .pure hv
  have elementHeader : Yields elementHeader Statement.Valid :=
    .bind .any fun _ _ => .bind .any fun _ _ => .bind .any fun _ _ => .pure trivial
  have tableHeader : Yields tableHeader Statement.Valid :=
    .bind .any fun _ _ => .bind .any fun _ _ => .bind .any fun _ _ => .pure trivial
  have line : Yields line fun o => ∀ s ∈ o, s.Valid :=
    .bind .any fun _ _ => .bind
      (Yields.optional (elementHeader.orElse (tableHeader.orElse assignment))) fun _ hs =>
        .bind .any fun _ _ => .pure hs
  refine .bind .any fun _ _ => line.many.bind fun lines hlines => .pure fun s hs => ?_
  obtain ⟨o, ho, rfl⟩ := List.mem_filterMap.mp hs
  exact hlines _ ho s rfl

theorem Builder.valid_step {b b' : Builder} {s : Statement} (hb : b.tables.Valid) (hs : s.Valid)
    (h : b.step s = some b') : b'.tables.Valid := by
  cases s with
  | assign k v =>
    obtain ⟨t, ht, rfl⟩ := Option.map_eq_some_iff.mp h
    exact (Table.preserves_assign hs k.path).within b.header _ _ hb ht
  | openTable k =>
    obtain ⟨t, ht, rfl⟩ := Option.map_eq_some_iff.mp h
    exact (Table.preserves_openTable k.name).within k.path _ _ hb ht
  | openElement k =>
    obtain ⟨t, ht, rfl⟩ := Option.map_eq_some_iff.mp h
    exact (Table.preserves_openElement k.name).within k.path _ _ hb ht

/-- In a document the keys of all tables are distinct, and all whole numbers fit a word. -/
theorem Document.wellKeyed_read? {text : String} {d : Entries} (h : Document.read? text = some d) :
    WellKeyed Value.Valid d := by
  obtain ⟨ss, hss, hd⟩ := Option.bind_eq_some_iff.mp h
  obtain ⟨b, hb, rfl⟩ := Option.map_eq_some_iff.mp hd
  obtain ⟨⟨ss', rest⟩, hscanned, rfl⟩ := Option.map_eq_some_iff.mp hss
  have hvalid : ∀ s ∈ ss', s.Valid := Scanner.yields_statements.seqLeft _ _ _ hscanned
  have htables : b.tables.Valid := foldlM_induct (P := fun b => b.tables.Valid)
    (fun b s b' hb hs h => b.valid_step hb hs h) .nil hvalid hb
  exact htables.entries

end Swapchain.Toml
