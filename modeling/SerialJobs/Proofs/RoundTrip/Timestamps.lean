import SerialJobs.Proofs.RoundTrip.Numerals
import SerialJobs.Proofs.Trimming
import SerialJobs.Time.Format

/-!
# Points in time that are read back

The text of a point in time is a row of numerals with one mark after each. No mark is a digit, so
every reader of a numeral stops exactly where the writer stopped. What remains is arithmetic: a
fraction of three, six or nine digits is filled up to nanoseconds, and a leap second is written as
second 60 and is put back as nanoseconds beyond the thousand million.

That is so at the end of a minute. Kept after any other second a leap second is written as the
second that follows (`text_eq_shifted`), and is read as that one. Whatever is read has its leap
second at the end of a minute (`isRegular_of_ofText?`), so just these points in time are read back
from their texts.
-/

namespace SerialJobs
namespace Timestamp

open Text (NoDigit noDigit_cons padded ofDigits trimStart trimStart_cons isBlank isBlank_of_isDigit)

/-! ## Numerals with a mark after them -/

/-- A digit is no blank, so nothing is trimmed before digits. -/
lemma trimStart_digits {ds : List Char} (hds : ∀ c ∈ ds, c.isDigit) (hne : ds ≠ [])
    (rest : List Char) : trimStart (ds ++ rest) = ds ++ rest := by
  cases ds with
  | nil => exact absurd rfl hne
  | cons d ds => exact trimStart_cons (isBlank_of_isDigit (hds d (by simp))) _

/-- Digits that fit the width are read as a whole. -/
lemma readDigits_append {width : Nat} {ds rest : List Char} (hds : ∀ c ∈ ds, c.isDigit)
    (hne : ds ≠ []) (hwidth : ds.length ≤ width) (hrest : NoDigit rest) :
    readDigits width (ds ++ rest) = some (ofDigits ds, rest) := by
  have htake : ((ds ++ rest).take width).takeWhile Char.isDigit = ds := by
    rw [List.take_append, List.take_of_length_le hwidth]
    exact Text.takeWhile_digits hds (hrest.take _)
  simp [readDigits, htake, hne]

lemma readField_padded {n : Nat} (hn : n < 100) {rest : List Char} (hrest : NoDigit rest) :
    readField 2 (padded 2 n ++ rest) = some (n, rest) := by
  have hds : ∀ c ∈ padded 2 n, c.isDigit := fun c => Text.isDigit_of_mem_padded
  rw [readField, trimStart_digits hds (Text.padded_ne_nil 2 n),
    readDigits_append hds (Text.padded_ne_nil 2 n)
      (Nat.le_of_eq (Text.length_padded (by decide) hn)) hrest,
    Text.ofDigits_padded]

lemma readMark_cons {mark : Char} (h : isBlank mark = false) (rest : List Char) :
    readMark mark (mark :: rest) = some rest := by
  simp [readMark, trimStart_cons h]

/-! ## Years -/

/-- A sign, and the digits of a number of any size. -/
lemma readDigits_signed (n : Nat) {rest : List Char} (hrest : NoDigit rest) :
    readDigits (padded 4 n ++ rest).length (padded 4 n ++ rest) = some (n, rest) := by
  rw [readDigits_append (fun c => Text.isDigit_of_mem_padded) (Text.padded_ne_nil 4 n)
      (by simp) hrest, Text.ofDigits_padded]

lemma readYear_writeYear (y : Int) {rest : List Char} (hrest : NoDigit rest) :
    readYear (writeYear y ++ rest) = some (y, rest) := by
  by_cases hy : 0 ≤ y ∧ y ≤ 9999
  · have hds : ∀ c ∈ padded 4 y.toNat, c.isDigit := fun c => Text.isDigit_of_mem_padded
    have hread : readDigits 4 (padded 4 y.toNat ++ rest) = some (y.toNat, rest) := by
      rw [readDigits_append hds (Text.padded_ne_nil 4 _)
          (Nat.le_of_eq (Text.length_padded (by decide) (show y.toNat < 10 ^ 4 by omega))) hrest,
        Text.ofDigits_padded]
    rw [writeYear, if_pos hy, readYear, trimStart_digits hds (Text.padded_ne_nil 4 _)]
    -- the first character is a digit, so it is neither sign
    split
    · rename_i hminus
      exact absurd hminus (Text.digits_append_ne_cons hds (Text.padded_ne_nil 4 _) (by decide))
    · rename_i hplus
      exact absurd hplus (Text.digits_append_ne_cons hds (Text.padded_ne_nil 4 _) (by decide))
    · rw [hread]
      simp [Int.toNat_of_nonneg hy.1]
  · rw [writeYear, if_neg hy]
    split
    · rename_i hneg
      simp only [readYear, List.cons_append, trimStart_cons (by decide : isBlank '-' = false),
        readDigits_signed _ hrest, Option.map_some, Option.some.injEq, Prod.mk.injEq, and_true]
      omega
    · rename_i hneg
      simp only [readYear, List.cons_append, trimStart_cons (by decide : isBlank '+' = false),
        readDigits_signed _ hrest, Option.map_some, Option.some.injEq, Prod.mk.injEq, and_true]
      omega

/-! ## Fractions -/

/-- A point and `k` digits stand for as many nanoseconds as the digits filled up to nine. -/
lemma readFraction_padded {k n : Nat} (hk : 0 < k) (hk9 : k ≤ 9) (hn : n < 10 ^ k)
    {rest : List Char} (hrest : NoDigit rest) :
    readFraction ('.' :: padded k n ++ rest) = some (n * 10 ^ (9 - k), rest) := by
  have hds : ∀ c ∈ padded k n, c.isDigit := fun c => Text.isDigit_of_mem_padded
  have hlen := Text.length_padded hk hn
  have htake : ((padded k n ++ rest).take 9).takeWhile Char.isDigit = padded k n := by
    rw [List.take_append, List.take_of_length_le (by omega)]
    exact Text.takeWhile_digits hds (hrest.take _)
  simp only [readFraction, List.cons_append, htake, Text.dropWhile_digits hds hrest, hlen,
    List.isEmpty_iff, Text.padded_ne_nil, if_false, Text.ofDigits_append_replicate_zero,
    Text.ofDigits_padded]

lemma readFraction_writeFraction {nano : Nat} (h : nano < 1000000000) (rest : List Char) :
    readFraction (writeFraction nano ++ 'Z' :: rest) = some (nano, 'Z' :: rest) := by
  have hZ : NoDigit ('Z' :: rest) := noDigit_cons (by decide) rest
  unfold writeFraction
  split_ifs with h0 h6 h3
  · simp [readFraction, h0]
  · rw [readFraction_padded (by decide) (by decide) (by omega) hZ]
    have : nano / 1000000 * 1000000 = nano := by omega
    simp [this]
  · rw [readFraction_padded (by decide) (by decide) (by omega) hZ]
    have : nano / 1000 * 1000 = nano := by omega
    simp [this]
  · rw [readFraction_padded (by decide) (by decide) (by omega) hZ]
    simp

/-- What follows the seconds starts with a point or with the `Z`. -/
lemma noDigit_writeFraction (nano : Nat) (rest : List Char) :
    NoDigit (writeFraction nano ++ 'Z' :: rest) := by
  unfold writeFraction
  split_ifs <;> exact noDigit_cons (by decide) _

/-! ## The numbers of a point in time -/

lemma mk?_date (d : Date) : Date.mk? d.year d.month d.day = some d := by
  simp [Date.mk?, d.year_mem, d.month_mem, d.day_mem]

lemma mk?_self (t : Timestamp) : mk? t.date t.hour t.minute t.second t.nano = some t := by
  rw [mk?, dif_pos ⟨t.hour_lt, t.minute_lt, t.second_lt, t.nano_lt⟩]

lemma mk?_eq_some {d : Date} {h m s n : Nat} {t : Timestamp} (made : mk? d h m s n = some t) :
    t.second = s ∧ t.nano = n := by
  unfold mk? at made
  split_ifs at made
  obtain rfl := Option.some.inj made
  exact ⟨rfl, rfl⟩

/-- A leap second comes at the end of a minute. -/
def IsRegular (t : Timestamp) : Prop := 1000000000 ≤ t.nano → t.second = 59

/-- The second and the fraction that were written give the second and the nanoseconds back, in a
leap second too. -/
lemma mk?_written {t : Timestamp} (regular : t.IsRegular) :
    (if t.second + t.nano / 1000000000 = 60 then
      mk? t.date t.hour t.minute 59 (t.nano % 1000000000 + 1000000000)
    else mk? t.date t.hour t.minute (t.second + t.nano / 1000000000) (t.nano % 1000000000)) =
      some t := by
  have hnano := t.nano_lt
  have hsecond := t.second_lt
  by_cases hleap : 1000000000 ≤ t.nano
  · have h59 := regular hleap
    rw [if_pos (by omega), ← h59, show t.nano % 1000000000 + 1000000000 = t.nano by omega]
    exact mk?_self t
  · rw [if_neg (by omega), show t.second + t.nano / 1000000000 = t.second by omega,
      show t.nano % 1000000000 = t.nano by omega]
    exact mk?_self t

lemma minusMinutes_zero (t : Timestamp) : t.minusMinutes 0 = some t := by
  have hh := t.hour_lt
  have hm := t.minute_lt
  have htotal : ((t.hour * 60 + t.minute - 0 : Int) % 1440).toNat = t.hour * 60 + t.minute := by
    omega
  simp only [minusMinutes, htotal]
  rw [if_neg (by omega), if_neg (by omega), Option.bind_some,
    show (t.hour * 60 + t.minute) / 60 = t.hour by omega,
    show (t.hour * 60 + t.minute) % 60 = t.minute by omega]
  exact mk?_self t

/-! ## The whole text -/

/-- Reading goes on with what a reader has found. -/
lemma read_then {α β : Type} {x : Option α} {f : α → Option β} {a : α} {b : β} (found : x = some a)
    (rest : f a = some b) : (x >>= f) = some b := by
  rw [found]
  exact rest

/-- The text of a point in time denotes that point in time. -/
theorem ofText?_text {t : Timestamp} (regular : t.IsRegular) : ofText? t.text = some t := by
  have hmonth := t.date.month_mem.2
  have hday : t.date.day ≤ 31 :=
    Nat.le_trans t.date.day_mem.2 (by unfold daysInMonth; split_ifs <;> decide)
  have hhour := t.hour_lt
  have hminute := t.minute_lt
  have hsecond := t.second_lt
  have hnano := t.nano_lt
  have hdash : ∀ cs, NoDigit ('-' :: cs) := noDigit_cons (by decide)
  have hT : ∀ cs, NoDigit ('T' :: cs) := noDigit_cons (by decide)
  have hcolon : ∀ cs, NoDigit (':' :: cs) := noDigit_cons (by decide)
  rw [text, write, ofText?]
  simp only [String.toList_ofList, List.append_assoc, List.cons_append]
  -- the date
  refine read_then (readYear_writeYear _ (hdash _)) ?_
  refine read_then (readMark_cons (by decide) _) ?_
  refine read_then (readField_padded (by omega) (hdash _)) ?_
  refine read_then (readMark_cons (by decide) _) ?_
  refine read_then (readField_padded (by omega) (hT _)) ?_
  simp only [true_or, if_true, Option.bind_eq_bind, Option.bind_some]
  -- the time of day
  refine read_then (readField_padded (by omega) (hcolon _)) ?_
  refine read_then (readMark_cons (by decide) _) ?_
  refine read_then (readField_padded (by omega) (hcolon _)) ?_
  refine read_then (readMark_cons (by decide) _) ?_
  refine read_then (readField_padded (by omega) (noDigit_writeFraction _ _)) ?_
  refine read_then (readFraction_writeFraction (Nat.mod_lt _ (by decide)) _) ?_
  refine read_then (a := (0, [])) rfl ?_
  simp [trimStart, mk?_date, mk?_written regular, minusMinutes_zero]

/-! ## What a text denotes -/

lemma readFraction_lt {cs rest : List Char} {n : Nat} (read : readFraction cs = some (n, rest)) :
    n < 1000000000 := by
  unfold readFraction at read
  split at read
  next cs =>
    extract_lets ds at read
    split_ifs at read
    obtain ⟨rfl, -⟩ := Prod.mk.inj (Option.some.inj read)
    have short : ds.length ≤ 9 := (List.takeWhile_prefix _).length_le.trans (cs.length_take_le 9)
    have digits : ∀ c ∈ ds, c.isDigit := fun c hc => List.mem_takeWhile_imp hc
    have bound := Nat.mul_lt_mul_of_pos_right (Text.ofDigits_lt digits)
      (Nat.pow_pos (n := 9 - ds.length) (by decide : 0 < 10))
    rwa [← Text.ofDigits_append_replicate_zero, ← Nat.pow_add, Nat.add_sub_cancel' short] at bound
  next =>
    obtain ⟨rfl, -⟩ := Prod.mk.inj (Option.some.inj read)
    decide

lemma isRegular_of_minusMinutes {t t' : Timestamp} {m : Int} (regular : t.IsRegular)
    (moved : t.minusMinutes m = some t') : t'.IsRegular := by
  obtain ⟨date, -, made⟩ := Option.bind_eq_some_iff.mp moved
  obtain ⟨second, nano⟩ := mk?_eq_some made
  rwa [IsRegular, second, nano]

/-- A leap second that was read comes at the end of a minute. -/
theorem isRegular_of_ofText? {s : String} {t : Timestamp} (read : ofText? s = some t) :
    t.IsRegular := by
  unfold ofText? at read
  obtain ⟨year, -, read⟩ := Option.bind_eq_some_iff.mp read
  obtain ⟨_, -, read⟩ := Option.bind_eq_some_iff.mp read
  obtain ⟨month, -, read⟩ := Option.bind_eq_some_iff.mp read
  obtain ⟨_, -, read⟩ := Option.bind_eq_some_iff.mp read
  obtain ⟨⟨day, _ | ⟨letter, rest⟩⟩, -, read⟩ := Option.bind_eq_some_iff.mp read
  · cases read
  -- only the letter between date and time stands in a match of its own
  dsimp only at read
  by_cases between : letter = 'T' ∨ letter = 't' ∨ letter = ' '
  · rw [if_pos between] at read
    obtain ⟨_, -, read⟩ := Option.bind_eq_some_iff.mp read
    obtain ⟨hour, -, read⟩ := Option.bind_eq_some_iff.mp read
    obtain ⟨_, -, read⟩ := Option.bind_eq_some_iff.mp read
    obtain ⟨minute, -, read⟩ := Option.bind_eq_some_iff.mp read
    obtain ⟨_, -, read⟩ := Option.bind_eq_some_iff.mp read
    obtain ⟨second, -, read⟩ := Option.bind_eq_some_iff.mp read
    obtain ⟨fraction, found, read⟩ := Option.bind_eq_some_iff.mp read
    have short : fraction.1 < 1000000000 := readFraction_lt found
    obtain ⟨offset, -, read⟩ := Option.bind_eq_some_iff.mp read
    split_ifs at read
    all_goals
      obtain ⟨date, -, read⟩ := Option.bind_eq_some_iff.mp read
      obtain ⟨t', made, moved⟩ := Option.bind_eq_some_iff.mp read
      refine isRegular_of_minusMinutes (fun leap => ?_) moved
      obtain ⟨second', nano⟩ := mk?_eq_some made
      omega
  · rw [if_neg between] at read
    cases read

/-! ## Leap seconds within a minute -/

/-- The second after, without the leap second. -/
def shifted (t : Timestamp) (within : t.second < 59) : Timestamp :=
  { t with
    second := t.second + 1
    nano := t.nano - 1000000000
    second_lt := by omega
    nano_lt := (Nat.sub_le ..).trans_lt t.nano_lt }

/-- A leap second within a minute is written as the second that follows. -/
lemma text_eq_shifted {t : Timestamp} (leap : 1000000000 ≤ t.nano) (within : t.second < 59) :
    t.text = (t.shifted within).text := by
  have written : t.second + t.nano / 1000000000 =
      t.second + 1 + (t.nano - 1000000000) / 1000000000 := by omega
  have fraction : t.nano % 1000000000 = (t.nano - 1000000000) % 1000000000 := by omega
  rw [text, text, write, write, written, fraction, shifted]

/-- A clock counts no leap seconds. -/
lemma isRegular_ofNanos (n : Nat) : (ofNanos n).IsRegular := by
  intro leap
  have bound : n % 1000000000 < 1000000000 := Nat.mod_lt _ (by decide)
  exact absurd leap bound.not_ge

lemma isRegular_shifted {t : Timestamp} (within : t.second < 59) : (t.shifted within).IsRegular := by
  intro leap
  have bound := t.nano_lt
  change 1000000000 ≤ t.nano - 1000000000 at leap
  omega

end Timestamp
end SerialJobs
