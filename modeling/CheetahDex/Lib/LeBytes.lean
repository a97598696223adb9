import Mathlib.Algebra.Group.Nat.Defs
import Mathlib.Algebra.Group.Basic

/-!
# Little-endian bytes

A number in a fixed count of bytes, the lowest first.
-/

namespace CheetahDex.Lib

/-- The lowest `k` bytes of a number, the lowest first. -/
def leBytes : ℕ → ℕ → List UInt8
  | 0, _ => []
  | k + 1, n => .ofNat n :: leBytes k (n / 2 ^ 8)

/-- The number that has the bytes, the lowest first. -/
def ofLeBytes : List UInt8 → ℕ
  | [] => 0
  | b :: bs => b.toNat + 2 ^ 8 * ofLeBytes bs

@[simp]
theorem length_leBytes (k n : ℕ) : (leBytes k n).length = k := by
  induction k generalizing n with
  | zero => rfl
  | succ k ih => rw [leBytes, List.length_cons, ih]

theorem ofLeBytes_leBytes (k n : ℕ) : ofLeBytes (leBytes k n) = n % (2 ^ 8) ^ k := by
  induction k generalizing n with
  | zero => rw [leBytes, ofLeBytes, pow_zero, Nat.mod_one]
  | succ k ih => rw [leBytes, ofLeBytes, ih, UInt8.toNat_ofNat', pow_succ' (2 ^ 8) k, Nat.mod_mul]

theorem ofLeBytes_lt (bs : List UInt8) : ofLeBytes bs < (2 ^ 8) ^ bs.length := by
  induction bs with
  | nil => exact Nat.one_pos
  | cons b bs ih =>
    have hb := b.toNat_lt
    rw [ofLeBytes, List.length_cons, pow_succ (2 ^ 8) bs.length]
    generalize (2 ^ 8) ^ bs.length = bound at ih ⊢
    omega

/-- Bytes are those of the number that has them. -/
theorem leBytes_ofLeBytes (bs : List UInt8) : leBytes bs.length (ofLeBytes bs) = bs := by
  induction bs with
  | nil => rfl
  | cons b bs ih =>
    have hb := b.toNat_lt
    have hhg : (b.toNat + 2 ^ 8 * ofLeBytes bs) / 2 ^ 8 = ofLeBytes bs := by omega
    have hlow : UInt8.ofNat (b.toNat + 2 ^ 8 * ofLeBytes bs) = b := by
      apply UInt8.toNat_inj.mp
      rw [UInt8.toNat_ofNat']
      omega
    rw [ofLeBytes, List.length_cons, leBytes, hhg, hlow, ih]

/-- A number below the bound is the one that its bytes have. -/
theorem ofLeBytes_leBytes_of_lt {k n : ℕ} (h : n < (2 ^ 8) ^ k) : ofLeBytes (leBytes k n) = n := by
  rw [ofLeBytes_leBytes, Nat.mod_eq_of_lt h]

/-- High bytes that are zero do not count. -/
theorem ofLeBytes_append_zeros (bs : List UInt8) (k : ℕ) :
    ofLeBytes (bs ++ List.replicate k 0) = ofLeBytes bs := by
  induction bs with
  | nil =>
    induction k with
    | zero => rfl
    | succ k ih =>
      change 0 + 2 ^ 8 * ofLeBytes (List.replicate k 0) = 0
      rw [← List.nil_append (List.replicate k 0), ih]
      rfl
  | cons b bs ih => rw [List.cons_append, ofLeBytes, ih, ofLeBytes]

end CheetahDex.Lib
