/-
# Big-endian numerals

`bigEndian n v` is the `n`-byte numeral of `v`, most significant byte first,
and `ofBigEndian` its value.  They are inverse to each other up to the width
(`ofBigEndian_bigEndian`, `bigEndian_ofBigEndian`), and a code that shifts and
masks its bytes into place computes them: `or_shiftLeft_byte` joins one more
byte to a numeral shifted by `k` bits.
-/

import Mathlib.Data.List.Induction
import Mathlib.Data.Nat.Bitwise
import Mathlib.Data.UInt
import Mathlib.Tactic.Ring

namespace Basis

/-- The `n` low bytes of `v`, most significant first. -/
def bigEndian : ℕ → ℕ → List UInt8
  | 0, _ => []
  | n + 1, v => bigEndian n (v / 256) ++ [UInt8.ofNat v]

/-- The value of a numeral, most significant byte first. -/
def ofBigEndian (l : List UInt8) : ℕ := l.foldl (fun v b => v * 256 + b.toNat) 0

@[simp] theorem bigEndian_length (n v : ℕ) : (bigEndian n v).length = n := by
  induction n generalizing v with
  | zero => rfl
  | succ n ih => simp [bigEndian, ih]

theorem ofBigEndian_append (l : List UInt8) (b : UInt8) :
    ofBigEndian (l ++ [b]) = ofBigEndian l * 256 + b.toNat := by
  simp [ofBigEndian]

/-- **The value of a numeral is the number modulo its width.** -/
theorem ofBigEndian_bigEndian (n v : ℕ) : ofBigEndian (bigEndian n v) = v % 256 ^ n := by
  induction n generalizing v with
  | zero => simp [bigEndian, ofBigEndian, Nat.mod_one]
  | succ n ih =>
      rw [bigEndian, ofBigEndian_append, ih, pow_succ', Nat.mod_mul]
      simp only [UInt8.toNat_ofNat']
      ring

/-- **A numeral is determined by its value:** encoding the value of `l` at the
width of `l` gives `l` back. -/
theorem bigEndian_ofBigEndian (l : List UInt8) : bigEndian l.length (ofBigEndian l) = l := by
  induction l using List.reverseRecOn with
  | nil => rfl
  | append_singleton l b ih =>
      have hb : b.toNat < 256 := b.toNat_lt
      have hdiv : (ofBigEndian l * 256 + b.toNat) / 256 = ofBigEndian l := by omega
      rw [List.length_append, List.length_singleton, bigEndian, ofBigEndian_append, hdiv, ih]
      congr 2
      exact UInt8.toNat_inj.1 (by simp only [UInt8.toNat_ofNat']; omega)

/-- Only the value modulo the width is written. -/
theorem bigEndian_mod (n v : ℕ) : bigEndian n (v % 256 ^ n) = bigEndian n v := by
  have h := bigEndian_ofBigEndian (bigEndian n v)
  rwa [bigEndian_length, ofBigEndian_bigEndian] at h

/-- A numeral is its high bytes and then its low bytes. -/
theorem bigEndian_add (n m v : ℕ) :
    bigEndian (n + m) v = bigEndian n (v / 256 ^ m) ++ bigEndian m v := by
  induction m generalizing v with
  | zero => simp [bigEndian]
  | succ m ih =>
      rw [← Nat.add_assoc, bigEndian, ih, Nat.div_div_eq_div_mul, ← pow_succ', bigEndian,
        List.append_assoc]

/-- A numeral has eight bits for each of its bytes. -/
theorem ofBigEndian_lt (l : List UInt8) : ofBigEndian l < 2 ^ (8 * l.length) := by
  rw [pow_mul, ← bigEndian_ofBigEndian l, ofBigEndian_bigEndian, bigEndian_length]
  exact Nat.mod_lt _ (Nat.pow_pos (by decide))

/-- Masking with `0xff` keeps the low byte. -/
theorem and_byte (v : ℕ) : v &&& 255 = v % 256 := Nat.and_two_pow_sub_one_eq_mod v 8

/-- One more byte below a numeral shifted by `k` bits. -/
theorem or_shiftLeft_byte (v k : ℕ) {b : ℕ} (hb : b < 256) :
    v <<< (k + 8) ||| b <<< k = (v * 256 + b) <<< k := by
  rw [Nat.add_comm k 8, Nat.shiftLeft_add, ← Nat.shiftLeft_or_distrib,
    ← Nat.shiftLeft_add_eq_or_of_lt (i := 8) hb, Nat.shiftLeft_eq v]

/-- A byte shifted by `k` bits stays within a word of `w` bits. -/
theorem byte_shiftLeft_mod {b k w : ℕ} (hb : b < 256) (hk : k + 8 ≤ w) :
    b <<< k % 2 ^ w = b <<< k := by
  refine Nat.mod_eq_of_lt ?_
  calc b <<< k = b * 2 ^ k := Nat.shiftLeft_eq b k
    _ < 256 * 2 ^ k := Nat.mul_lt_mul_of_pos_right hb (Nat.two_pow_pos k)
    _ = 2 ^ (k + 8) := by rw [pow_add]; ring
    _ ≤ 2 ^ w := Nat.pow_le_pow_right (by decide) hk

end Basis
