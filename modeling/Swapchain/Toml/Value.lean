import Swapchain.Number.Binary64

/-!
# Documents

A document is a table: keys with values, in the order in which they were first written. Whether two
of them are the same can be computed.
-/

namespace Swapchain.Toml

/-- A value of a document. -/
inductive Value where
  | string (s : String)
  | integer (n : Int)
  | float (x : Binary64)
  | boolean (b : Bool)
  /-- A date, a time or both, as written. -/
  | datetime (text : String)
  | array (items : List Value)
  | table (entries : List (String × Value))
  deriving Inhabited, Repr

/-- The entries of a table in document order. -/
abbrev Entries := List (String × Value)

/-! ## Equality -/

mutual

/-- Whether two values are the same. -/
def Value.decEq : (v w : Value) → Decidable (v = w)
  | .string s, w => match w with
    | .string t => decidable_of_iff (s = t) (by simp)
    | .integer _ | .float _ | .boolean _ | .datetime _ | .array _ | .table _ => isFalse nofun
  | .integer m, w => match w with
    | .integer n => decidable_of_iff (m = n) (by simp)
    | .string _ | .float _ | .boolean _ | .datetime _ | .array _ | .table _ => isFalse nofun
  | .float x, w => match w with
    | .float y => decidable_of_iff (x = y) (by simp)
    | .string _ | .integer _ | .boolean _ | .datetime _ | .array _ | .table _ => isFalse nofun
  | .boolean a, w => match w with
    | .boolean b => decidable_of_iff (a = b) (by simp)
    | .string _ | .integer _ | .float _ | .datetime _ | .array _ | .table _ => isFalse nofun
  | .datetime s, w => match w with
    | .datetime t => decidable_of_iff (s = t) (by simp)
    | .string _ | .integer _ | .float _ | .boolean _ | .array _ | .table _ => isFalse nofun
  | .array vs, w => match w with
    | .array ws => @decidable_of_iff _ (vs = ws) (by simp) (decEqItems vs ws)
    | .string _ | .integer _ | .float _ | .boolean _ | .datetime _ | .table _ => isFalse nofun
  | .table es, w => match w with
    | .table fs => @decidable_of_iff _ (es = fs) (by simp) (decEqEntries es fs)
    | .string _ | .integer _ | .float _ | .boolean _ | .datetime _ | .array _ => isFalse nofun

/-- Whether two arrays have the same items. -/
def decEqItems : (vs ws : List Value) → Decidable (vs = ws)
  | [], [] => isTrue rfl
  | [], _ :: _ | _ :: _, [] => isFalse nofun
  | v :: vs, w :: ws =>
    @decidable_of_iff _ (v = w ∧ vs = ws) (by simp)
      (@instDecidableAnd _ _ (v.decEq w) (decEqItems vs ws))

/-- Whether two tables have the same entries. -/
def decEqEntries : (es fs : Entries) → Decidable (es = fs)
  | [], [] => isTrue rfl
  | [], _ :: _ | _ :: _, [] => isFalse nofun
  | (k, v) :: es, (l, w) :: fs =>
    @decidable_of_iff _ (k = l ∧ v = w ∧ es = fs) (by simp [and_assoc])
      (@instDecidableAnd _ _ _ (@instDecidableAnd _ _ (v.decEq w) (decEqEntries es fs)))

end

instance : DecidableEq Value := Value.decEq

end Swapchain.Toml
