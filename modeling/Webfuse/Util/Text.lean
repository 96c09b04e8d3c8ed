/-
# Texts

The functions of the C++ library that the source applies to the texts of a URL and
of a command line.  A text is its bytes, `std::string::find` returns no index for
`npos`, and `std::stoi` throws where the text begins with no number or the number is
no `int`.
-/

import Webfuse.Basis.Decimal
import Webfuse.Message.Types

namespace Webfuse

open Basis

/-- The bytes of a literal of the source. -/
def ascii (literal : String) : Bytes := literal.toList.map fun c => UInt8.ofNat c.toNat

/-- `text.find(c)`. -/
def find (c : UInt8) (text : Bytes) : Option ℕ := text.findIdx? (· = c)

/-- `text.find(pattern)`. -/
def findText (pattern : Bytes) : Bytes → Option ℕ
  | [] => if pattern = [] then some 0 else none
  | c :: text =>
      if pattern.isPrefixOf (c :: text) then some 0 else (findText pattern text).map (· + 1)

/-- `std::stoi`. -/
def stoi (text : Bytes) : Except Exn Int32 :=
  match leadingInt text with
  | none => .error ⟨"stoi"⟩
  | some n => if -2 ^ 31 ≤ n ∧ n < 2 ^ 31 then .ok (Int32.ofInt n) else .error ⟨"stoi"⟩

/-- `static_cast<uint16_t>` of an `int`. -/
def portOf (n : Int32) : UInt16 := n.toUInt32.toUInt16

/-- `std::tolower` in the C locale. -/
def tolower (c : UInt8) : UInt8 := if 0x41 ≤ c ∧ c ≤ 0x5a then c + 0x20 else c

/-- A text is split at the first separator. -/
theorem find_append (c : UInt8) {text : Bytes} (h : c ∉ text) (rest : Bytes) :
    find c (text ++ c :: rest) = some text.length := by
  induction text with
  | nil => simp [find, List.findIdx?_cons]
  | cons d text ih =>
      have hd : d ≠ c := fun hd => h (hd ▸ List.mem_cons_self ..)
      have htext : c ∉ text := fun hmem => h (List.mem_cons_of_mem _ hmem)
      have htail := ih htext
      unfold find at htail ⊢
      rw [List.cons_append, List.findIdx?_cons, decide_eq_false hd, htail]
      rfl

/-- A text without the separator is not split. -/
theorem find_eq_none (c : UInt8) {text : Bytes} (h : c ∉ text) : find c text = none := by
  unfold find
  rw [List.findIdx?_eq_none_iff]
  intro d hd
  exact decide_eq_false fun hdc => h (hdc ▸ hd)

/-- Only what the text begins with is found at index zero. -/
theorem findText_eq_zero_iff (pattern text : Bytes) :
    findText pattern text = some 0 ↔ pattern <+: text := by
  cases text with
  | nil => simp [findText]
  | cons c text =>
      rw [findText, ← List.isPrefixOf_iff_prefix]
      split_ifs with hpre
      · simp [hpre]
      · simp [hpre]

/-- A port in decimal is read as it is. -/
theorem stoi_port (port : UInt16) :
    stoi (decimal port.toNat) = .ok (Int32.ofNat port.toNat) := by
  have hlt : port.toNat < 2 ^ 16 := port.toNat_lt
  have hread := leadingInt_of_digits (decimal_ne_nil port.toNat)
    (fun c hc => isDigit_of_mem_decimal hc)
  rw [decimalValue_decimal] at hread
  unfold stoi
  rw [hread]
  exact if_pos (by omega)

theorem portOf_ofNat (port : UInt16) : portOf (Int32.ofNat port.toNat) = port := by
  apply UInt16.toNat_inj.1
  simp [portOf]

end Webfuse
