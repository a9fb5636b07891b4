import CircleVault.TrustLevel
import Mathlib.Order.Defs.LinearOrder
import Mathlib.Tactic.Lemma

/-!
# The order of trust levels

Trust levels are linearly ordered by their rank, from `all` up to `sysop`, and a level allows
exactly what stands at or below it.
-/

namespace CircleVault.TrustLevel

lemma rank_injective {a b : TrustLevel} (h : a.rank = b.rank) : a = b := by
  cases a <;> cases b <;> first | rfl | cases h

instance : LinearOrder TrustLevel where
  le_refl a := Nat.le_refl a.rank
  le_trans a b c := Nat.le_trans (n := a.rank) (m := b.rank) (k := c.rank)
  lt_iff_le_not_ge a b := Nat.lt_iff_le_and_not_ge (m := a.rank) (n := b.rank)
  le_antisymm _ _ h h' := rank_injective (Nat.le_antisymm h h')
  le_total a b := Nat.le_total a.rank b.rank
  toDecidableLE := inferInstance
  toDecidableEq := inferInstance
  toDecidableLT := inferInstance

@[simp] lemma allows_iff {actual required : TrustLevel} :
    actual.allows required = true ↔ required ≤ actual := by
  simp [allows]

lemma le_sysop (level : TrustLevel) : level ≤ sysop := by
  cases level <;> decide

lemma allows_eq_false {actual required : TrustLevel} :
    actual.allows required = false ↔ actual < required := by
  simp [allows]

end CircleVault.TrustLevel
