import GameConfig.Value.Basic

/-!
# Values that are the same

Whether two values are the same tree can be computed.  Unlike comparing them, this tells the
forms of a number and the orders of members apart.
-/

namespace GameConfig
namespace Value

mutual

def same : Value → Value → Bool
  | .null, .null => true
  | .boolean a, .boolean b => a == b
  | .integer m, .integer n => m == n
  | .unsigned m, .unsigned n => m == n
  | .float x, .float y => x == y
  | .string s, .string t => s == t
  | .array xs, .array ys => sameItems xs ys
  | .object ms, .object ns => sameMembers ms ns
  | _, _ => false

def sameItems : List Value → List Value → Bool
  | [], [] => true
  | v :: vs, w :: ws => same v w && sameItems vs ws
  | _, _ => false

def sameMembers : List (String × Value) → List (String × Value) → Bool
  | [], [] => true
  | (m, v) :: ms, (n, w) :: ns => m == n && same v w && sameMembers ms ns
  | _, _ => false

end

mutual

theorem same_iff (v w : Value) : same v w = true ↔ v = w := by
  match v with
  | .array xs =>
      cases w with
      | array ys => rw [same, array.injEq, sameItems_iff xs ys]
      | _ => simp [same]
  | .object ms =>
      cases w with
      | object ns => rw [same, object.injEq, sameMembers_iff ms ns]
      | _ => simp [same]
  | .null | .boolean _ | .integer _ | .unsigned _ | .float _ | .string _ =>
      cases w <;> simp [same]

theorem sameItems_iff (vs ws : List Value) : sameItems vs ws = true ↔ vs = ws := by
  match vs, ws with
  | [], [] => simp [sameItems]
  | [], w :: ws => simp [sameItems]
  | v :: vs, [] => simp [sameItems]
  | v :: vs, w :: ws =>
      rw [sameItems, Bool.and_eq_true, same_iff v w, sameItems_iff vs ws,
        List.cons.injEq]

theorem sameMembers_iff (ms ns : List (String × Value)) :
    sameMembers ms ns = true ↔ ms = ns := by
  match ms, ns with
  | [], [] => simp [sameMembers]
  | [], n :: ns => simp [sameMembers]
  | m :: ms, [] => simp [sameMembers]
  | (m, v) :: ms, (n, w) :: ns =>
      rw [sameMembers, Bool.and_eq_true, Bool.and_eq_true, beq_iff_eq, same_iff v w,
        sameMembers_iff ms ns, List.cons.injEq, Prod.mk.injEq]

end

instance : DecidableEq Value :=
  fun v w => decidable_of_iff _ (same_iff v w)

end Value
end GameConfig
