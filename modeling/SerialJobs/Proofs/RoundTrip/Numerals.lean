import Mathlib.Algebra.Ring.Nat
import Mathlib.Data.List.Induction
import Mathlib.Tactic.Common
import SerialJobs.Text.Numeral

/-!
# Numerals that are read back

What a reader relies on in a numeral that was written. Every character of a decimal numeral is a
digit, the first one is a zero for the number zero alone, and the digits stand for the number. The
standard library knows the same digits as `Nat.toDigits`, so its facts about their number and their
value carry over. A numeral filled up to a width has that width while the number fits, and of
hexadecimal digits of a fixed count only the number modulo the power of sixteen is left.
-/

namespace SerialJobs
namespace Text

/-! ## Digits -/

lemma digitChar_eq {d : Nat} (h : d < 16) : digitChar d = Nat.digitChar d := by
  revert d
  decide

lemma hexDigit?_digitChar {d : Nat} (h : d < 16) : hexDigit? (digitChar d) = some d := by
  revert d
  decide

lemma digit?_digitChar {d : Nat} (h : d < 10) : digit? (digitChar d) = some d := by
  revert d
  decide

/-! ## Decimal numerals -/

lemma decimal_eq_toDigits (n : Nat) : decimal n = Nat.toDigits 10 n := by
  induction n using Nat.strongRecOn with
  | ind n ih =>
    rw [decimal, Nat.toDigits_eq_if (by decide)]
    split
    · rw [digitChar_eq (by omega)]
    · rw [ih (n / 10) (by omega), digitChar_eq (by omega)]

lemma ofDigits_decimal (n : Nat) : ofDigits (decimal n) = n := by
  rw [decimal_eq_toDigits]
  exact Nat.ofDigitChars_toDigits (by decide) (by decide)

lemma isDigit_of_mem_decimal {n : Nat} {c : Char} (h : c ∈ decimal n) : c.isDigit := by
  rw [decimal_eq_toDigits] at h
  exact Nat.isDigit_of_mem_toDigits (by decide) (by decide) h

lemma length_decimal_le_iff {n k : Nat} (hk : 0 < k) : (decimal n).length ≤ k ↔ n < 10 ^ k := by
  rw [decimal_eq_toDigits]
  exact Nat.length_toDigits_le_iff (by decide) hk

lemma decimal_ne_nil (n : Nat) : decimal n ≠ [] := by
  rw [decimal]
  split <;> simp

/-- Only the number zero is written with a zero at the front. -/
lemma decimal_eq_zero_cons {n : Nat} {cs : List Char} (h : decimal n = '0' :: cs) :
    n = 0 ∧ cs = [] := by
  induction n using Nat.strongRecOn generalizing cs with
  | ind n ih =>
    rw [decimal] at h
    split at h
    · rename_i hn
      obtain ⟨hd, hcs⟩ : digitChar n = '0' ∧ [] = cs := by simpa using h
      have hzero : digit? '0' = some n := hd ▸ digit?_digitChar hn
      exact ⟨(Option.some.inj hzero).symm, hcs.symm⟩
    · obtain ⟨ds, hds⟩ : ∃ ds, decimal (n / 10) = '0' :: ds := by
        cases hd : decimal (n / 10) with
        | nil => exact absurd hd (decimal_ne_nil _)
        | cons d ds =>
          rw [hd] at h
          exact ⟨ds, by rw [(List.cons.inj h).1]⟩
      have := (ih (n / 10) (by omega) hds).1
      omega

/-- Digits stand for a number of no more digits. -/
lemma ofDigits_lt {ds : List Char} (hds : ∀ c ∈ ds, c.isDigit) : ofDigits ds < 10 ^ ds.length := by
  induction ds using List.reverseRecOn with
  | nil => simp [ofDigits]
  | append_singleton ds c ih =>
    have before := ih fun d hd => hds d (List.mem_append_left _ hd)
    have last : c.toNat ≤ 57 := (Char.isDigit_iff_toNat.mp (hds c (by simp))).2
    have step : ofDigits (ds ++ [c]) = 10 * ofDigits ds + (c.toNat - 48) := by simp [ofDigits]
    rw [step, List.length_append, List.length_singleton, Nat.pow_succ]
    omega

/-! ## What follows a numeral -/

/-- The text does not go on with a digit. -/
def NoDigit (cs : List Char) : Prop :=
  ∀ c ∈ cs.head?, c.isDigit = false

lemma noDigit_cons {c : Char} (h : c.isDigit = false) (cs : List Char) : NoDigit (c :: cs) := by
  intro d hd
  obtain rfl : c = d := by simpa using hd
  exact h

lemma takeWhile_digits {ds rest : List Char} (hds : ∀ c ∈ ds, c.isDigit) (hrest : NoDigit rest) :
    (ds ++ rest).takeWhile Char.isDigit = ds := by
  rw [List.takeWhile_append_of_pos hds]
  cases rest with
  | nil => simp
  | cons c rest => simp [hrest c (by simp)]

lemma dropWhile_digits {ds rest : List Char} (hds : ∀ c ∈ ds, c.isDigit) (hrest : NoDigit rest) :
    (ds ++ rest).dropWhile Char.isDigit = rest := by
  rw [List.dropWhile_append_of_pos hds]
  cases rest with
  | nil => simp
  | cons c rest => simp [hrest c (by simp)]

lemma NoDigit.take {cs : List Char} (h : NoDigit cs) (k : Nat) : NoDigit (cs.take k) := by
  intro c hc
  cases k with
  | zero => simp at hc
  | succ k => exact h c (by simpa [List.head?_take] using hc)

lemma digits_append_ne_cons {ds : List Char} (hds : ∀ c ∈ ds, c.isDigit) (hne : ds ≠ [])
    {c : Char} (hc : c.isDigit = false) {rest cs : List Char} : ds ++ rest ≠ c :: cs := by
  cases ds with
  | nil => exact absurd rfl hne
  | cons d ds =>
    intro h
    obtain rfl := (List.cons.inj h).1
    simp [hds d (by simp)] at hc

/-! ## Numerals of a fixed width -/

lemma isDigit_of_mem_padded {k n : Nat} {c : Char} (h : c ∈ padded k n) : c.isDigit := by
  rcases List.mem_append.1 h with h | h
  · rw [List.eq_of_mem_replicate h]
    decide
  · exact isDigit_of_mem_decimal h

lemma padded_ne_nil (k n : Nat) : padded k n ≠ [] := by
  simp [padded, decimal_ne_nil]

lemma length_padded {k n : Nat} (hk : 0 < k) (hn : n < 10 ^ k) : (padded k n).length = k := by
  have := (length_decimal_le_iff hk).2 hn
  simp only [padded, List.length_append, List.length_replicate]
  omega

lemma ofDigits_append_replicate_zero (cs : List Char) (k : Nat) :
    ofDigits (cs ++ List.replicate k '0') = ofDigits cs * 10 ^ k := by
  induction k with
  | zero => simp
  | succ k ih =>
    have hstep : ∀ ds, ofDigits (ds ++ ['0']) = 10 * ofDigits ds := by
      intro ds
      simp [ofDigits]
    rw [List.replicate_succ', ← List.append_assoc, hstep, ih, Nat.pow_succ, Nat.mul_left_comm,
      Nat.mul_comm 10]

lemma ofDigits_padded (k n : Nat) : ofDigits (padded k n) = n := by
  have hzeros : ∀ j cs, ofDigits (List.replicate j '0' ++ cs) = ofDigits cs := by
    intro j cs
    induction j with
    | zero => simp
    | succ j ih => simpa [ofDigits, List.replicate_succ] using ih
  rw [padded, hzeros, ofDigits_decimal]

/-! ## Hexadecimal digits -/

lemma length_digits (b k n : Nat) : (digits b k n).length = k := by
  induction k generalizing n with
  | zero => rfl
  | succ k ih => simp [digits, ih]

/-- Of the lowest `k` hexadecimal digits, the number modulo `16 ^ k` is read. -/
lemma ofHex_digits (k n : Nat) : ofHex (digits 16 k n) = some (n % 16 ^ k) := by
  induction k generalizing n with
  | zero => simp [digits, ofHex, Nat.mod_one]
  | succ k ih =>
    have hdigits : ofHex (digits 16 k (n / 16) ++ [digitChar (n % 16)]) =
        some (16 * (n / 16 % 16 ^ k) + n % 16) := by
      have := ih (n / 16)
      simp only [ofHex] at this ⊢
      rw [List.foldlM_append, this]
      simp [hexDigit?_digitChar (Nat.mod_lt n (by decide : 0 < 16))]
    rw [digits, hdigits, Nat.pow_succ', Nat.mod_mul, Nat.add_comm]

end Text
end SerialJobs
