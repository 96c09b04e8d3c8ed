/-
# Decimal numerals

Numerals of base ten as bytes, most significant digit first: `decimalValue` reads
one, `decimal` writes one, and what was written reads back.

`leadingInt` is the lenient reader of the C library: behind white space and one sign
it takes the longest run of digits and leaves the rest of the text alone.
-/

import Mathlib.Data.List.TakeWhile
import Mathlib.Data.UInt
import Mathlib.Tactic.Common

namespace Basis

/-- A decimal digit. -/
def IsDigit (c : UInt8) : Prop := 48 ≤ c.toNat ∧ c.toNat ≤ 57

instance : DecidablePred IsDigit := fun _ => inferInstanceAs (Decidable (_ ∧ _))

/-- `isspace` in the C locale. -/
def IsSpace (c : UInt8) : Prop := c.toNat = 32 ∨ 9 ≤ c.toNat ∧ c.toNat ≤ 13

instance : DecidablePred IsSpace := fun _ => inferInstanceAs (Decidable (_ ∨ _ ∧ _))

/-- A run of digits, at least one. -/
def IsNumeral (text : List UInt8) : Prop := text ≠ [] ∧ ∀ c ∈ text, IsDigit c

instance : DecidablePred IsNumeral := fun _ => inferInstanceAs (Decidable (_ ∧ _))

/-- The number a run of digits stands for. -/
def decimalValue (digits : List UInt8) : ℕ :=
  digits.foldl (fun n c => 10 * n + (c.toNat - 48)) 0

/-- The numeral of a number. -/
def decimal (n : ℕ) : List UInt8 := (Nat.toDigits 10 n).map fun c => UInt8.ofNat c.toNat

/-- What follows the sign of a text, and whether that sign is a minus. -/
def signOf (text : List UInt8) : Bool × List UInt8 :=
  if text.head? = some 0x2d then (true, text.tail)
  else if text.head? = some 0x2b then (false, text.tail)
  else (false, text)

/-- The number a text begins with, if it begins with one. -/
def leadingInt (text : List UInt8) : Option ℤ :=
  let (negative, text) := signOf (text.dropWhile (IsSpace ·))
  let digits := text.takeWhile (IsDigit ·)
  if digits = [] then none
  else some (if negative then -(decimalValue digits : ℤ) else decimalValue digits)

@[simp] theorem decimalValue_append_singleton (digits : List UInt8) (c : UInt8) :
    decimalValue (digits ++ [c]) = 10 * decimalValue digits + (c.toNat - 48) := by
  simp [decimalValue]

/-- The byte of a digit below ten. -/
theorem toNat_digitChar {n : ℕ} (h : n < 10) : (UInt8.ofNat n.digitChar.toNat).toNat = 48 + n := by
  rw [Nat.toNat_digitChar_of_lt_ten h, UInt8.toNat_ofNat']
  omega

theorem decimal_of_lt {n : ℕ} (h : n < 10) : decimal n = [UInt8.ofNat n.digitChar.toNat] := by
  rw [decimal, Nat.toDigits_of_lt_base h]
  rfl

theorem decimal_of_le {n : ℕ} (h : 10 ≤ n) :
    decimal n = decimal (n / 10) ++ [UInt8.ofNat (n % 10).digitChar.toNat] := by
  rw [decimal, Nat.toDigits_of_base_le (by decide) h, List.map_append]
  rfl

/-- A numeral reads back as the number it was written for. -/
theorem decimalValue_decimal (n : ℕ) : decimalValue (decimal n) = n := by
  induction n using Nat.strong_induction_on with
  | _ n ih =>
    by_cases hn : n < 10
    · rw [decimal_of_lt hn, ← List.nil_append [_], decimalValue_append_singleton,
        toNat_digitChar hn]
      simp [decimalValue]
    · rw [decimal_of_le (by omega), decimalValue_append_singleton, ih (n / 10) (by omega),
        toNat_digitChar (by omega)]
      omega

/-- A numeral has digits only. -/
theorem isDigit_of_mem_decimal {n : ℕ} {c : UInt8} (h : c ∈ decimal n) : IsDigit c := by
  induction n using Nat.strong_induction_on with
  | _ n ih =>
    have hdigit : ∀ m < 10, IsDigit (UInt8.ofNat m.digitChar.toNat) := by
      intro m hm
      have := toNat_digitChar hm
      unfold IsDigit
      omega
    by_cases hn : n < 10
    · rw [decimal_of_lt hn, List.mem_singleton] at h
      exact h ▸ hdigit n hn
    · rw [decimal_of_le (by omega), List.mem_append, List.mem_singleton] at h
      rcases h with h | h
      · exact ih (n / 10) (by omega) h
      · exact h ▸ hdigit (n % 10) (by omega)

theorem decimal_ne_nil (n : ℕ) : decimal n ≠ [] := by
  by_cases hn : n < 10
  · rw [decimal_of_lt hn]
    exact List.cons_ne_nil _ _
  · rw [decimal_of_le (by omega)]
    exact List.append_ne_nil_of_right_ne_nil _ (List.cons_ne_nil _ _)

/-- A digit is neither white space nor a sign. -/
theorem IsDigit.plain {c : UInt8} (h : IsDigit c) : ¬ IsSpace c ∧ c ≠ 0x2d ∧ c ≠ 0x2b := by
  have hvalue : ∀ d : UInt8, c = d → c.toNat = d.toNat := fun d hd => congrArg UInt8.toNat hd
  unfold IsDigit at h
  unfold IsSpace
  refine ⟨by omega, fun hc => ?_, fun hc => ?_⟩
  · have : c.toNat = 45 := hvalue _ hc
    omega
  · have : c.toNat = 43 := hvalue _ hc
    omega

/-- A text of digits alone is read to its end. -/
theorem leadingInt_of_digits {digits : List UInt8} (hne : digits ≠ [])
    (hdigits : ∀ c ∈ digits, IsDigit c) : leadingInt digits = some (decimalValue digits : ℤ) := by
  obtain ⟨c, rest, rfl⟩ := List.exists_cons_of_ne_nil hne
  obtain ⟨hspace, hminus, hplus⟩ := (hdigits c (List.mem_cons_self ..)).plain
  have hdrop : (c :: rest).dropWhile (IsSpace ·) = c :: rest :=
    List.dropWhile_cons_of_neg (by simpa using hspace)
  have hsign : signOf (c :: rest) = (false, c :: rest) := by simp [signOf, hminus, hplus]
  have htake : (c :: rest).takeWhile (IsDigit ·) = c :: rest :=
    List.takeWhile_eq_self_iff.2 fun d hd => by simpa using hdigits d hd
  unfold leadingInt
  rw [hdrop, hsign]
  dsimp only
  rw [htake, if_neg hne]
  rfl

end Basis
