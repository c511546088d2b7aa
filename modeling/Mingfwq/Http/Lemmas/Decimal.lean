import Mingfwq.Http.Grammar
import Mingfwq.Http.Lemmas.ChunkSize

/-!
# Decimal numbers

What `std::to_string` prints, and what `atoi` makes of digits.
-/

namespace Mingfwq.Http

open Lib

variable {c : UInt8} {n : Nat} {xs rest : Bytes} {cs : List Char}

theorem digit_iff : CharClass.digit.has c = true ↔ 48 ≤ c.toNat ∧ c.toNat ≤ 57 := by
  simp [CharClass.digit, CharClass.has]

theorem digit_of_has (h : CharClass.digit.has c = true) : digit 10 c = some (c.toNat - 48) := by
  obtain ⟨hlo, hhi⟩ := digit_iff.mp h
  have hrange : 48 ≤ c ∧ c ≤ 57 := ⟨UInt8.le_iff_toNat_le.mpr hlo, UInt8.le_iff_toNat_le.mpr hhi⟩
  have hten : c.toNat - 48 < 10 := by omega
  rw [digit, if_pos hrange, Option.filter_some, if_pos (decide_eq_true hten)]

theorem digit_of_not_has (h : CharClass.digit.has c = false) : digit 10 c = none := by
  revert h
  exact forall_byte (P := fun c => CharClass.digit.has c = false → digit 10 c = none) (by decide +kernel) c

theorem digit_plain (h : CharClass.digit.has c = true) : isspace c = false ∧ c ≠ 45 ∧ c ≠ 43 := by
  revert h
  exact forall_byte (P := fun c => CharClass.digit.has c = true → isspace c = false ∧ c ≠ 45 ∧ c ≠ 43)
    (by decide +kernel) c

/-! ## What is printed -/

theorem toNat_digit {d : Char} (h : d.isDigit = true) :
    d.toNat.toUInt8.toNat = d.toNat ∧ CharClass.digit.has d.toNat.toUInt8 = true := by
  have hrange : 48 ≤ d.toNat ∧ d.toNat ≤ 57 := by
    simpa [Char.isDigit, UInt32.le_iff_toNat_le] using h
  have hbyte : d.toNat.toUInt8.toNat = d.toNat := Nat.mod_eq_of_lt (by omega)
  exact ⟨hbyte, digit_iff.mpr (by rw [hbyte]; exact hrange)⟩

theorem digits_char (h : c ∈ ascii (toString n)) : CharClass.digit.has c = true := by
  obtain ⟨d, hd, rfl⟩ := List.mem_map.mp h
  rw [Nat.toString_eq_repr, Nat.toList_repr] at hd
  exact (toNat_digit (Nat.isDigit_of_mem_toDigits (by decide) (by decide) hd)).2

theorem toString_ne_nil : ascii (toString n) ≠ [] := by
  rw [ascii, Nat.toString_eq_repr, Nat.toList_repr]
  exact fun h => Nat.toDigits_ne_nil (List.map_eq_nil_iff.mp h)

theorem digitsValue_map (h : ∀ d ∈ cs, d.isDigit = true) (acc : Nat) :
    digitsValue 10 (cs.map fun d => d.toNat.toUInt8) acc = Nat.ofDigitChars 10 cs acc := by
  induction cs generalizing acc with
  | nil => rw [Nat.ofDigitChars_nil]; rfl
  | cons d cs ih =>
      obtain ⟨hbyte, hdigit⟩ := toNat_digit (h d List.mem_cons_self)
      rw [List.map_cons, digitsValue, digit_of_has hdigit, hbyte, Nat.ofDigitChars_cons]
      simp only
      rw [ih fun d hd => h d (List.mem_cons_of_mem _ hd), Nat.mul_comm]
      rfl

theorem digitsValue_toString (n : Nat) : digitsValue 10 (ascii (toString n)) 0 = n := by
  rw [ascii, Nat.toString_eq_repr, Nat.toList_repr,
    digitsValue_map fun d hd => Nat.isDigit_of_mem_toDigits (by decide) (by decide) hd,
    Nat.ofDigitChars_ten_toDigits]

/-! ## What is read -/

theorem atoi_digits (hne : xs ≠ []) (h : ∀ d ∈ xs, CharClass.digit.has d = true)
    (hrest : ∀ d ∈ rest.head?, CharClass.digit.has d = false) :
    atoi (xs ++ rest) = toInt32 (min (2 ^ 63 - 1) (digitsValue 10 xs 0 : Int)) := by
  have hsome : ∀ d ∈ xs, (digit 10 d).isSome := by
    intro d hd
    rw [digit_of_has (h d hd)]
    rfl
  have hvalue : digitsValue 10 (xs ++ rest) 0 = digitsValue 10 xs 0 := by
    cases rest with
    | nil => rw [List.append_nil]
    | cons d rest => exact digitsValue_stop hsome (digit_of_not_has (hrest d rfl))
  have hskip : skipHexPrefix 10 (xs ++ rest) = xs ++ rest := by
    rw [skipHexPrefix.eq_def]
    split
    · rw [if_neg (by simp)]
      next heq => exact heq.symm
    · rfl
  cases xs with
  | nil => exact absurd rfl hne
  | cons c xs =>
      obtain ⟨hspace, hminus, hplus⟩ := digit_plain (h c List.mem_cons_self)
      rw [List.cons_append] at hvalue hskip ⊢
      rw [atoi]
      simp only [strtol, List.dropWhile_cons, hspace, Bool.false_eq_true, if_false]
      split
      · next heq => exact absurd (List.cons.inj heq).1 hminus
      · next heq => exact absurd (List.cons.inj heq).1 hplus
      · rw [hskip, hvalue]

/-- A number that fits into an `int` is read back. -/
theorem atoi_toString {n : Nat} (h : n < 2 ^ 31) : atoi (ascii (toString n)) = n := by
  have hread : atoi (ascii (toString n) ++ []) =
      toInt32 (min (2 ^ 63 - 1) (digitsValue 10 (ascii (toString n)) 0 : Int)) :=
    atoi_digits toString_ne_nil (fun d hd => digits_char hd) fun d hd => nomatch hd
  rw [List.append_nil] at hread
  rw [hread, digitsValue_toString, toInt32, Int.min_eq_right (by omega), Int.bmod_eq_of_le] <;> omega

end Mingfwq.Http
