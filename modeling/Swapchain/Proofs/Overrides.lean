import Mathlib.Data.List.DropRight
import Mathlib.Data.Nat.Digits.Defs
import Swapchain.Settings.Environment

/-!
# What the environment overrides

A variable of the environment is a row of bytes, and it sets its field exactly if these are a text of
one form: a decimal number of at most 64 bits, after a plus sign or not, between blank characters.
Every other value leaves the field as it is built in, and it is reported unless it is no text.

* `Settings.Numeral`: the form, with `Settings.readCount_eq_some_iff` for what is read;
* `Settings.Acts`: the ways in which a variable acts on its field and on the log;
* `Settings.Sets`, `Settings.Rejected`: the values that set a field, and the texts that do not;
* `Settings.overrides_decided`: both fields and all warnings, for every environment.
-/

namespace Swapchain

/-! ## Blank ends -/

namespace Text

variable {left core right : List Char}

/-- A text without its blank ends is what stands between them, if that has no blank characters. -/
theorem trim_append (hl : ∀ c ∈ left, isBlank c) (hc : ∀ c ∈ core, isBlank c = false)
    (hr : ∀ c ∈ right, isBlank c) : trim (left ++ core ++ right) = core := by
  have hends : core.reverse.dropWhile isBlank = core.reverse := by
    rw [List.dropWhile_eq_self_iff]
    intro hlen
    rw [hc _ (List.mem_reverse.mp (List.getElem_mem hlen))]
    exact Bool.false_ne_true
  have hfront : (core ++ right).dropWhile isBlank = core ++ right ∨
      core = [] ∧ (core ++ right).dropWhile isBlank = [] := by
    cases core with
    | nil => exact .inr ⟨rfl, List.dropWhile_eq_nil_iff.mpr hr⟩
    | cons c cs =>
      exact .inl (List.dropWhile_cons_of_neg (by rw [hc c List.mem_cons_self]; nofun))
  rw [trim, List.append_assoc, List.dropWhile_append_of_pos hl]
  rcases hfront with hfront | ⟨rfl, hfront⟩
  · rw [hfront, List.reverse_append,
      List.dropWhile_append_of_pos fun c hc => hr c (List.mem_reverse.mp hc), hends,
      List.reverse_reverse]
  · rw [hfront]
    rfl

theorem exists_blank_ends (cs : List Char) : ∃ left right, cs = left ++ trim cs ++ right ∧
    (∀ c ∈ left, isBlank c) ∧ ∀ c ∈ right, isBlank c := by
  refine ⟨cs.takeWhile isBlank, (cs.dropWhile isBlank).rtakeWhile isBlank, ?_,
    fun c => List.mem_takeWhile_imp, fun c => List.mem_rtakeWhile_imp⟩
  have hright : trim cs ++ (cs.dropWhile isBlank).rtakeWhile isBlank = cs.dropWhile isBlank :=
    List.rdropWhile_append_rtakeWhile
  rw [List.append_assoc, hright, List.takeWhile_append_dropWhile]

theorem isBlank_of_isDigit {c : Char} (h : c.isDigit = true) : isBlank c = false := by
  have hrange : 48 ≤ c.toNat ∧ c.toNat ≤ 57 := by
    simpa [Char.isDigit, UInt32.le_iff_toNat_le] using h
  simp only [isBlank, blankRanges, List.any_cons, List.any_nil, Bool.or_false, Bool.or_eq_false_iff,
    Bool.and_eq_false_iff, decide_eq_false_iff_not]
  omega

end Text

/-! ## Numbers -/

/-- The first digit counts most. -/
theorem Digits.value_eq_ofDigits {base : Nat} {cs : List Char} (h : ∀ c ∈ cs, c.isDigit = true) :
    value base cs = Nat.ofDigits base (cs.reverse.map fun c => c.toNat - '0'.toNat) := by
  have hdigit : ∀ c ∈ cs, digit c = c.toNat - '0'.toNat := fun c hc => if_pos (h c hc)
  rw [value, Nat.ofDigits_eq_foldr, List.foldr_map, List.foldr_reverse]
  refine List.foldl_ext _ _ _ fun n c hc => ?_
  rw [hdigit c hc, Nat.cast_id, Nat.add_comm]

namespace Settings

variable {cs : List Char} {n m : UInt64} {k least : Nat} {text : String} {b : ByteArray}
  {value : Option ByteArray} {name : String} {given : UInt64} {r : UInt64 × List Log.Record}

/-- A decimal number, after a plus sign or not, between blank characters. -/
inductive Numeral : List Char → Nat → Prop where
  | intro {left sign digits right : List Char} (hl : ∀ c ∈ left, Text.isBlank c = true)
      (hs : sign = [] ∨ sign = ['+']) (hne : digits ≠ [])
      (hd : ∀ c ∈ digits, c.isDigit = true) (hr : ∀ c ∈ right, Text.isBlank c = true) :
      Numeral (left ++ (sign ++ digits) ++ right)
        (Nat.ofDigits 10 (digits.reverse.map fun c => c.toNat - '0'.toNat))

theorem readDigits_append {sign digits : List Char} (hs : sign = [] ∨ sign = ['+'])
    (hne : digits ≠ []) (hd : ∀ c ∈ digits, c.isDigit = true) :
    readDigits (sign ++ digits) =
      if Digits.value 10 digits < UInt64.size then some (UInt64.ofNat (Digits.value 10 digits))
      else none := by
  have hfirst : digits.head? ≠ some '+' := by
    intro hplus
    exact absurd (hd '+' (List.mem_of_head? hplus)) (by decide)
  have hall : digits.all Char.isDigit = true := List.all_eq_true.mpr hd
  have hsome : digits.isEmpty = false := by simpa using hne
  rcases hs with rfl | rfl
  · simp [readDigits, hfirst, hall, hsome]
  · simp [readDigits, hall, hsome]

theorem exists_of_readDigits (h : readDigits cs = some n) : ∃ sign digits, cs = sign ++ digits ∧
    (sign = [] ∨ sign = ['+']) ∧ digits ≠ [] ∧ (∀ c ∈ digits, c.isDigit = true) ∧
    Digits.value 10 digits = n.toNat := by
  have hparts : ∃ sign, cs = sign ++ (if cs.head? = some '+' then cs.tail else cs) ∧
      (sign = [] ∨ sign = ['+']) := by
    split
    · rename_i hplus
      exact ⟨['+'], (List.cons_head?_tail hplus).symm, .inr rfl⟩
    · exact ⟨[], rfl, .inl rfl⟩
  obtain ⟨sign, hcs, hs⟩ := hparts
  unfold readDigits at h
  generalize (if cs.head? = some '+' then cs.tail else cs) = digits at hcs h
  simp only [Bool.and_eq_true, Bool.not_eq_true', decide_eq_true_eq, Option.ite_none_right_eq_some,
    Option.some.injEq] at h
  obtain ⟨⟨⟨hne, hall⟩, hlt⟩, rfl⟩ := h
  exact ⟨sign, digits, hcs, hs, by simpa using hne, List.all_eq_true.mp hall,
    (UInt64.toNat_ofNat_of_lt' hlt).symm⟩

/-- The number of a text is read exactly if it has the form and a word holds it. -/
theorem readCount_eq_some_iff : readCount text = some n ↔ Numeral text.toList n.toNat := by
  rw [readCount]
  constructor
  · intro h
    obtain ⟨left, right, htext, hl, hr⟩ := Text.exists_blank_ends text.toList
    obtain ⟨sign, digits, hcore, hs, hne, hd, hn⟩ := exists_of_readDigits h
    rw [htext, hcore, ← hn, Digits.value_eq_ofDigits hd]
    exact .intro hl hs hne hd hr
  · generalize text.toList = cs
    generalize hk : n.toNat = k
    rintro ⟨hl, hs, hne, hd, hr⟩
    rename_i left sign digits right
    have hcore : ∀ c ∈ sign ++ digits, Text.isBlank c = false := by
      intro c hc
      rcases List.mem_append.mp hc with hc | hc
      · rcases hs with rfl | rfl
        · cases hc
        · rw [List.mem_singleton.mp hc]
          rfl
      · exact Text.isBlank_of_isDigit (hd c hc)
    rw [← Digits.value_eq_ofDigits hd] at hk
    rw [Text.trim_append hl hcore hr, readDigits_append hs hne hd, ← hk, if_pos n.toNat_lt,
      UInt64.ofNat_toNat]

theorem Numeral.eq (h : Numeral cs n.toNat) (h' : Numeral cs m.toNat) : n = m := by
  have htext : (String.ofList cs).toList = cs := String.toList_ofList
  rw [← htext, ← readCount_eq_some_iff] at h h'
  exact Option.some.inj (h.symm.trans h')

/-! ## Variables -/

theorem fromUTF8?_eq_some_iff : String.fromUTF8? b = some text ↔ b = text.toUTF8 := by
  rw [String.fromUTF8?]
  constructor
  · intro h
    split at h
    · cases h
      rfl
    · cases h
  · rintro rfl
    exact dif_pos text.isValidUTF8

/-- The text of a variable. -/
theorem bind_fromUTF8?_eq_some_iff :
    value.bind String.fromUTF8? = some text ↔ value = some text.toUTF8 := by
  simp only [Option.bind_eq_some_iff, fromUTF8?_eq_some_iff]
  exact ⟨fun ⟨b, hb, htext⟩ => htext ▸ hb, fun h => ⟨_, h, rfl⟩⟩

/-- The value of a variable sets a field to a number: it is a text of the form, and the number is
not below the least one that the field may have. -/
def Sets (least : Nat) (value : Option ByteArray) (n : UInt64) : Prop :=
  ∃ text : String, value = some text.toUTF8 ∧ Numeral text.toList n.toNat ∧ least ≤ n.toNat

/-- The value of a variable is a text, but none that sets the field. -/
def Rejected (least : Nat) (value : Option ByteArray) : Prop :=
  (∃ text : String, value = some text.toUTF8) ∧ ∀ n, ¬ Sets least value n

/-- The warning that a text is no number. -/
def malformedWarning (name text : String) : Log.Record :=
  ⟨.warn, s!"Invalid {name}={text}: expected a non-negative integer, ignoring"⟩

/-- The warning that a number is not one the field may have. -/
def refusedWarning (name : String) (n : UInt64) : Log.Record :=
  ⟨.warn, s!"{name}={n} ignored; at least one buffer is needed"⟩

/-- The ways in which the value of a variable acts on its field, which is given, and on the log. -/
inductive Acts (name : String) (least : Nat) (value : Option ByteArray) (given : UInt64) :
    UInt64 × List Log.Record → Prop where
  /-- It is unset or no text. -/
  | silent (hv : ∀ text : String, value ≠ some text.toUTF8) : Acts name least value given (given, [])
  /-- It is no number, or one that no word holds. -/
  | malformed {text : String} (hv : value = some text.toUTF8)
      (hn : ∀ n : UInt64, ¬ Numeral text.toList n.toNat) :
      Acts name least value given (given, [malformedWarning name text])
  /-- It is a number that the field may not have. -/
  | refused {text : String} {n : UInt64} (hv : value = some text.toUTF8)
      (hn : Numeral text.toList n.toNat) (hlt : n.toNat < least) :
      Acts name least value given (given, [refusedWarning name n])
  | taken {text : String} {n : UInt64} (hv : value = some text.toUTF8)
      (hn : Numeral text.toList n.toNat) (hle : least ≤ n.toNat) :
      Acts name least value given (n, [detected name n])

/-- What is read of a variable is nothing, nothing with a warning, or a number. -/
theorem variableCount_cases (name : String) (value : Option ByteArray) :
    ((∀ text : String, value ≠ some text.toUTF8) ∧ variableCount name value = (none, [])) ∨
      ∃ text : String, value = some text.toUTF8 ∧
        ((∀ n : UInt64, ¬ Numeral text.toList n.toNat) ∧
            variableCount name value = (none, [malformedWarning name text]) ∨
          ∃ n : UInt64, Numeral text.toList n.toNat ∧ variableCount name value = (some n, [])) := by
  unfold variableCount
  split
  · rename_i htext
    refine .inl ⟨fun text hv => ?_, rfl⟩
    rw [bind_fromUTF8?_eq_some_iff.mpr hv] at htext
    cases htext
  · rename_i text htext
    refine .inr ⟨text, bind_fromUTF8?_eq_some_iff.mp htext, ?_⟩
    split
    · rename_i n hn
      exact .inr ⟨n, readCount_eq_some_iff.mp hn, rfl⟩
    · rename_i hnone
      refine .inl ⟨fun n hn => ?_, rfl⟩
      rw [readCount_eq_some_iff.mpr hn] at hnone
      cases hnone

theorem targetFrom_acts (value : Option ByteArray) (given : UInt64) :
    Acts targetVariable 1 value given (targetFrom value given) := by
  unfold targetFrom
  rcases variableCount_cases targetVariable value with
    ⟨hv, h⟩ | ⟨text, hv, ⟨hn, h⟩ | ⟨n, hn, h⟩⟩
  · rw [h]
    exact .silent hv
  · rw [h]
    exact .malformed hv hn
  · rw [h]
    dsimp only
    split
    · rename_i hzero
      subst hzero
      exact .refused hv hn (by decide)
    · rename_i hzero
      refine .taken hv hn ?_
      rw [Nat.one_le_iff_ne_zero]
      exact fun h => hzero (UInt64.toNat_inj.mp h)

theorem extraFrom_acts (value : Option ByteArray) (given : UInt64) :
    Acts extraVariable 0 value given (extraFrom value given) := by
  unfold extraFrom
  rcases variableCount_cases extraVariable value with
    ⟨hv, h⟩ | ⟨text, hv, ⟨hn, h⟩ | ⟨n, hn, h⟩⟩
  · rw [h]
    exact .silent hv
  · rw [h]
    exact .malformed hv hn
  · rw [h]
    exact .taken hv hn (Nat.zero_le _)

theorem Sets.eq (h : Sets least value n) (h' : Sets least value m) : n = m := by
  obtain ⟨text, rfl, hn, -⟩ := h
  obtain ⟨text', hv, hm, -⟩ := h'
  obtain rfl : text = text' := String.toByteArray_inj.mp (Option.some.inj hv)
  exact hn.eq hm

/-- A text sets a field to a number only if that is its number. -/
theorem Sets.of_text (h : Sets least value n) (hv : value = some text.toUTF8) :
    Numeral text.toList n.toNat ∧ least ≤ n.toNat := by
  obtain ⟨text', hv', hn, hle⟩ := h
  obtain rfl : text = text' := String.toByteArray_inj.mp (Option.some.inj (hv.symm.trans hv'))
  exact ⟨hn, hle⟩

theorem not_sets_of_malformed (hv : value = some text.toUTF8)
    (hn : ∀ n : UInt64, ¬ Numeral text.toList n.toNat) : ¬ Sets least value m :=
  fun h => hn m (h.of_text hv).1

theorem not_sets_of_refused (hv : value = some text.toUTF8) (hn : Numeral text.toList n.toNat)
    (hlt : n.toNat < least) : ¬ Sets least value m := by
  intro h
  obtain ⟨hm, hle⟩ := h.of_text hv
  rw [hm.eq hn] at hle
  omega

/-- The field has the number that the value sets, or the one that was given. -/
theorem Acts.field_eq_iff (h : Acts name least value given r) :
    r.1 = n ↔ Sets least value n ∨ (∀ m, ¬ Sets least value m) ∧ n = given := by
  have kept (hnone : ∀ m, ¬ Sets least value m) :
      given = n ↔ Sets least value n ∨ (∀ m, ¬ Sets least value m) ∧ n = given :=
    ⟨fun h => .inr ⟨hnone, h.symm⟩, fun h => (h.resolve_left (hnone n)).2.symm⟩
  cases h with
  | silent hv => exact kept fun m ⟨text, htext, _⟩ => hv text htext
  | malformed hv hn => exact kept fun _ => not_sets_of_malformed hv hn
  | refused hv hn hlt => exact kept fun _ => not_sets_of_refused hv hn hlt
  | @taken text k hv hn hle =>
    have hset : Sets least value k := ⟨text, hv, hn, hle⟩
    refine ⟨fun h => .inl (h ▸ hset), ?_⟩
    rintro (hn | ⟨hnone, -⟩)
    · exact hset.eq hn
    · exact absurd hset (hnone k)

/-- The warnings about a variable: one, which names it, if its value is rejected, and none
otherwise. -/
inductive Warns (name : String) (least : Nat) (value : Option ByteArray) :
    List Log.Record → Prop where
  | none (h : ¬ Rejected least value) : Warns name least value []
  | malformed {text : String} (h : Rejected least value) (hv : value = some text.toUTF8)
      (hn : ∀ n : UInt64, ¬ Numeral text.toList n.toNat) :
      Warns name least value [malformedWarning name text]
  | refused {text : String} {n : UInt64} (h : Rejected least value)
      (hv : value = some text.toUTF8) (hn : Numeral text.toList n.toNat) :
      Warns name least value [refusedWarning name n]

theorem Acts.warns (h : Acts name least value given r) :
    Warns name least value (r.2.filter fun w => w.level = .warn) := by
  cases h with
  | silent hv => exact .none fun ⟨⟨text, htext⟩, _⟩ => hv text htext
  | malformed hv hn => exact .malformed ⟨⟨_, hv⟩, fun _ => not_sets_of_malformed hv hn⟩ hv hn
  | refused hv hn hlt => exact .refused ⟨⟨_, hv⟩, fun _ => not_sets_of_refused hv hn hlt⟩ hv hn
  | @taken text k hv hn hle => exact .none fun ⟨_, hnone⟩ => hnone k ⟨text, hv, hn, hle⟩

/-! ## Both variables -/

/-- Each field has the number that its own variable sets, which for the buffers to draw in is at
least one, and its built-in number if the variable sets none. So there is always a buffer to draw in.
The warnings are one for each value that is a text and sets nothing. -/
theorem overrides_decided (e : Environment) :
    let r := ofEnvironment e
    (∀ n, r.1.target = n ↔ Sets 1 e.target n ∨ (∀ m, ¬ Sets 1 e.target m) ∧ n = 2) ∧
      (∀ n, r.1.extra = n ↔ Sets 0 e.extra n ∨ (∀ m, ¬ Sets 0 e.extra m) ∧ n = 0) ∧
      r.1.target ≠ 0 ∧
      ∃ first second, (r.2.filter fun w => w.level = .warn) = first ++ second ∧
        Warns targetVariable 1 e.target first ∧ Warns extraVariable 0 e.extra second := by
  intro r
  have htarget := targetFrom_acts e.target builtin.target
  have hextra := extraFrom_acts e.extra builtin.extra
  refine ⟨fun n => htarget.field_eq_iff, fun n => hextra.field_eq_iff, fun hzero => ?_,
    _, _, List.filter_append .., htarget.warns, hextra.warns⟩
  rcases htarget.field_eq_iff.mp hzero with ⟨text, -, -, hle⟩ | ⟨-, htwo⟩
  · exact absurd hle (by decide)
  · exact absurd htwo (by decide)

/-- A number may have a sign, leading zeros and blank characters around it, here a no-break space. -/
example : readCount "\u00a0+0016 " = some 16 := by decide

end Settings
end Swapchain
