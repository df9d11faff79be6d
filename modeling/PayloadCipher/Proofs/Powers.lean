import Mathlib.Algebra.Group.Nat.Defs
import PayloadCipher.Modular

/-! Repeated squaring computes the remainder of the power. -/

namespace PayloadCipher

theorem powMod_eq (b e n : Nat) : powMod b e n = b ^ e % n := by
  induction e using Nat.strongRecOn with
  | _ e ih =>
    rw [powMod]
    by_cases h0 : e = 0
    · simp [h0]
    · rw [if_neg h0, ih (e / 2) (by omega)]
      by_cases h2 : e % 2 = 0
      · have h : e = e / 2 + e / 2 := by omega
        simp only [h2, if_true]
        rw [← Nat.mul_mod, ← Nat.pow_add, ← h]
      · have h : e = e / 2 + e / 2 + 1 := by omega
        simp only [h2, if_false]
        rw [← Nat.mul_mod, ← Nat.pow_add, Nat.mod_mul_mod, ← Nat.pow_succ,
          Nat.succ_eq_add_one, ← h]

end PayloadCipher
