import BootMedia.Command.ImageIndex
import Mathlib

/-!
Which texts are image numbers. Main statement: reading accepts a text exactly if it is a decimal
numeral with an optional plus sign, of whatever length, whose value fits into 32 bits.
-/
namespace BootMedia.ImageIndex

def decimalValue (digits : List Char) : Nat :=
  Nat.ofDigits 10 (digits.reverse.map fun c => c.toNat - '0'.toNat)

/-- At least one digit, and nothing else, with a value. -/
def Decimal (digits : List Char) (n : Nat) : Prop :=
  digits ≠ [] ∧ (∀ c ∈ digits, c.isDigit = true) ∧ decimalValue digits = n

/-- A decimal numeral, possibly with a plus sign before it. -/
def Denotes (text : List Char) (n : Nat) : Prop :=
  Decimal text n ∨ ∃ digits, text = '+' :: digits ∧ Decimal digits n

theorem decimalValue_cons (c : Char) (rest : List Char) :
    decimalValue (c :: rest) =
      (c.toNat - '0'.toNat) * 10 ^ rest.length + decimalValue rest := by
  simp only [decimalValue, List.reverse_cons, List.map_append, Nat.ofDigits_append,
    List.length_map, List.length_reverse, List.map_cons, List.map_nil, Nat.ofDigits_singleton]
  rw [Nat.add_comm, Nat.mul_comm]

theorem digit?_eq (c : Char) :
    digit? c = if c.isDigit then some (c.toNat - '0'.toNat) else none := by
  have hdigit : c.isDigit = true ↔ '0' ≤ c ∧ c ≤ '9' := by
    simp [Char.isDigit, Char.le_def]
  simp only [digit?, hdigit]

theorem readDigits_nil (value : Nat) : readDigits value [] = .ok (UInt32.ofNat value) := rfl

theorem readDigits_cons (value : Nat) (c : Char) (rest : List Char) :
    readDigits value (c :: rest) = match digit? c with
      | none => .error .invalidDigit
      | some d =>
        if 2 ^ 32 ≤ value * 10 + d then .error .tooLarge
        else readDigits (value * 10 + d) rest := rfl

/-- Digits are read on exactly as long as the value fits. -/
theorem readDigits_eq_ok_iff {value : Nat} (hvalue : value < 2 ^ 32) (digits : List Char)
    (n : UInt32) :
    readDigits value digits = .ok n ↔ (∀ c ∈ digits, c.isDigit = true) ∧
      n.toNat = value * 10 ^ digits.length + decimalValue digits := by
  induction digits generalizing value with
  | nil =>
    have hword : (UInt32.ofNat value).toNat = value := UInt32.toNat_ofNat_of_lt' hvalue
    rw [readDigits_nil, Except.ok.injEq, ← UInt32.toNat_inj, hword, eq_comm]
    simp [decimalValue]
  | cons c rest ih =>
    rw [decimalValue_cons, List.forall_mem_cons, readDigits_cons, digit?_eq]
    by_cases hc : c.isDigit = true
    · obtain ⟨next, hnext⟩ : ∃ next, next = value * 10 + (c.toNat - '0'.toNat) := ⟨_, rfl⟩
      have hsum : value * 10 ^ (c :: rest).length +
          ((c.toNat - '0'.toNat) * 10 ^ rest.length + decimalValue rest) =
            next * 10 ^ rest.length + decimalValue rest := by
        rw [hnext, List.length_cons]
        ring
      rw [if_pos hc, hsum]
      dsimp only
      rw [← hnext]
      by_cases hlarge : 2 ^ 32 ≤ next
      · -- A value that has become too large stays too large, whatever digits follow.
        have hgrows : next ≤ next * 10 ^ rest.length :=
          Nat.le_mul_of_pos_right next (Nat.pow_pos (by decide))
        have hword := n.toNat_lt
        rw [if_pos hlarge]
        refine ⟨nofun, fun h => ?_⟩
        omega
      · rw [if_neg hlarge, ih (Nat.lt_of_not_le hlarge)]
        simp [hc]
    · simp [hc]

/-- A plus sign is no digit, so that it can only stand before a numeral. -/
theorem denotes_plus_iff (rest : List Char) (n : Nat) :
    Denotes ('+' :: rest) n ↔ Decimal rest n := by
  constructor
  · rintro (⟨-, hall, -⟩ | ⟨digits, htext, hdigits⟩)
    · exact absurd (hall '+' List.mem_cons_self) (by decide)
    · cases htext
      exact hdigits
  · exact fun h => Or.inr ⟨rest, rfl, h⟩

theorem denotes_iff_of_ne_plus {c : Char} (hc : c ≠ '+') (rest : List Char) (n : Nat) :
    Denotes (c :: rest) n ↔ Decimal (c :: rest) n := by
  constructor
  · rintro (hdigits | ⟨digits, htext, -⟩)
    · exact hdigits
    · cases htext
      exact absurd rfl hc
  · exact Or.inl

theorem readDigits_zero_iff {digits : List Char} (hdigits : digits ≠ []) (n : UInt32) :
    readDigits 0 digits = .ok n ↔ Decimal digits n.toNat := by
  rw [readDigits_eq_ok_iff (by decide), Decimal, Nat.zero_mul, Nat.zero_add, @eq_comm Nat n.toNat,
    and_iff_right hdigits]

/-- Exactly the numerals of numbers that fit into 32 bits are read, and as these numbers. -/
theorem read_eq_ok_iff (text : List Char) (n : UInt32) :
    read text = .ok n ↔ Denotes text n.toNat := by
  cases text with
  | nil => simp [read, Denotes, Decimal]
  | cons c rest =>
    by_cases hplus : c = '+'
    · rw [hplus, denotes_plus_iff]
      cases rest with
      | nil => simp [read, Decimal]
      | cons d rest => exact readDigits_zero_iff (List.cons_ne_nil d rest) n
    · rw [denotes_iff_of_ne_plus hplus, ← readDigits_zero_iff (List.cons_ne_nil c rest)]
      have hread : read (c :: rest) = readDigits 0 (c :: rest) := by
        unfold read
        split <;> simp_all
      rw [hread]

/-- Digits behind a value add theirs to it, as if it stood before them. -/
theorem ofDigitChars_eq (value : Nat) (digits : List Char) :
    Nat.ofDigitChars 10 digits value = value * 10 ^ digits.length + decimalValue digits := by
  induction digits generalizing value with
  | nil => simp [decimalValue]
  | cons c rest ih =>
    rw [Nat.ofDigitChars_cons, ih, decimalValue_cons, List.length_cons]
    ring

theorem decimal_toDigits (n : Nat) : Decimal (Nat.toDigits 10 n) n := by
  refine ⟨Nat.toDigits_ne_nil, fun c => Nat.isDigit_of_mem_toDigits (by decide) (by decide), ?_⟩
  have hvalue := ofDigitChars_eq 0 (Nat.toDigits 10 n)
  rw [Nat.ofDigitChars_ten_toDigits, Nat.zero_mul, Nat.zero_add] at hvalue
  exact hvalue.symm

/-- Leading zeros do not count, and the greatest number is still read. -/
example : read "+0004294967295".toList = .ok 4294967295 ∧
    read "4294967296".toList = .error .tooLarge := by decide

end BootMedia.ImageIndex
