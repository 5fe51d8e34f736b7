import Mathlib.Data.List.TakeWhile
import SerialJobs.Text.Blank

/-!
# Trimmed texts

To trim a text is to cut it into blanks, what is left, and blanks again, where what is left neither
starts nor ends with a blank. There is only one way to do so (`trim_eq_iff`).
-/

namespace SerialJobs
namespace Text

/-- The text is blank throughout. -/
def AllBlank (cs : List Char) : Prop := ∀ c ∈ cs, isBlank c

/-- The text neither starts nor ends with a blank. -/
structure Trimmed (cs : List Char) : Prop where
  first : ∀ c ∈ cs.head?, isBlank c = false
  last : ∀ c ∈ cs.getLast?, isBlank c = false

variable {cs ds before after : List Char}

lemma isBlank_of_isDigit {c : Char} (h : c.isDigit) : isBlank c = false := by
  have : 48 ≤ c.toNat ∧ c.toNat ≤ 57 := by simpa [Char.isDigit, UInt32.le_iff_toNat_le] using h
  simp only [isBlank, Bool.or_eq_false_iff, Bool.and_eq_false_iff, decide_eq_false_iff_not,
    beq_eq_false_iff_ne]
  omega

lemma trimStart_cons {c : Char} (h : isBlank c = false) (cs : List Char) :
    trimStart (c :: cs) = c :: cs :=
  List.dropWhile_cons_of_neg (by simp [h])

lemma trimStart_append (blank : AllBlank before) (cs : List Char) :
    trimStart (before ++ cs) = trimStart cs :=
  List.dropWhile_append_of_pos blank

lemma trimStart_eq_self (first : ∀ c ∈ cs.head?, isBlank c = false) : trimStart cs = cs := by
  cases cs with
  | nil => rfl
  | cons c cs => exact trimStart_cons (first c rfl) cs

lemma trimEnd_append (blank : AllBlank after) (cs : List Char) :
    trimEnd (cs ++ after) = trimEnd cs := by
  have blank' : AllBlank after.reverse := fun c hc => blank c (List.mem_reverse.mp hc)
  rw [trimEnd, List.reverse_append, trimStart_append blank']
  rfl

lemma trimEnd_eq_self (last : ∀ c ∈ cs.getLast?, isBlank c = false) : trimEnd cs = cs := by
  rw [trimEnd, trimStart_eq_self (by simpa using last), List.reverse_reverse]

/-- What is cut off at the start. -/
lemma exists_trimStart (cs : List Char) : ∃ before, AllBlank before ∧ cs = before ++ trimStart cs ∧
    ∀ c ∈ (trimStart cs).head?, isBlank c = false := by
  refine ⟨cs.takeWhile isBlank, fun c hc => List.mem_takeWhile_imp hc,
    List.takeWhile_append_dropWhile.symm, fun c hc => ?_⟩
  have := List.head?_dropWhile_not isBlank cs
  rw [trimStart] at hc
  simpa [Option.mem_def.mp hc] using this

/-- What is cut off at the end. -/
lemma exists_trimEnd (cs : List Char) : ∃ after, AllBlank after ∧ cs = trimEnd cs ++ after ∧
    ∀ c ∈ (trimEnd cs).getLast?, isBlank c = false := by
  obtain ⟨before, blank, split, first⟩ := exists_trimStart cs.reverse
  refine ⟨before.reverse, fun c hc => blank c (List.mem_reverse.mp hc), ?_, ?_⟩
  · rw [trimEnd, ← List.reverse_append, ← split, List.reverse_reverse]
  · simpa [trimEnd] using first

/-- A text that starts with no blank does not do so after its end has been cut off. -/
lemma head?_of_append (split : cs = ds ++ after) (first : ∀ c ∈ cs.head?, isBlank c = false) :
    ∀ c ∈ ds.head?, isBlank c = false := by
  intro c hc
  refine first c ?_
  rw [split, List.head?_append, Option.mem_def.mp hc]
  rfl

lemma trim_eq_iff : trim cs = ds ↔
    Trimmed ds ∧ ∃ before after, AllBlank before ∧ AllBlank after ∧ cs = before ++ ds ++ after := by
  constructor
  · rintro rfl
    obtain ⟨before, blank, split, first⟩ := exists_trimStart cs
    obtain ⟨after, blank', split', last⟩ := exists_trimEnd (trimStart cs)
    refine ⟨⟨head?_of_append split' first, last⟩, before, after, blank, blank', ?_⟩
    rw [trim, List.append_assoc, ← split', ← split]
  · rintro ⟨⟨first, last⟩, before, after, blank, blank', rfl⟩
    rw [trim, List.append_assoc, trimStart_append blank]
    cases ds with
    | nil =>
      -- there is nothing between the blanks, and all of them go at the start
      have nothing : trimStart after = [] := List.dropWhile_eq_nil_iff.mpr blank'
      rw [List.nil_append, nothing]
      rfl
    | cons d ds =>
      rw [trimStart_eq_self (by simpa using first), trimEnd_append blank', trimEnd_eq_self last]

/-- Blanks around a text leave nothing behind. -/
lemma trim_append (blank : AllBlank before) (blank' : AllBlank after) (cs : List Char) :
    trim (before ++ cs ++ after) = trim cs := by
  obtain ⟨trimmed, first, last, blank₁, blank₂, split⟩ := trim_eq_iff.mp (Eq.refl (trim cs))
  refine trim_eq_iff.mpr ⟨trimmed, before ++ first, last ++ after, ?_, ?_, ?_⟩
  · exact List.forall_mem_append.mpr ⟨blank, blank₁⟩
  · exact List.forall_mem_append.mpr ⟨blank₂, blank'⟩
  · calc before ++ cs ++ after = before ++ (first ++ trim cs ++ last) ++ after := by rw [← split]
      _ = before ++ first ++ trim cs ++ (last ++ after) := by simp only [List.append_assoc]

lemma trim_eq_nil_iff : trim cs = [] ↔ AllBlank cs := by
  rw [trim_eq_iff]
  constructor
  · rintro ⟨-, before, after, blank, blank', rfl⟩ c hc
    rcases List.mem_append.mp (by simpa using hc) with hc | hc
    · exact blank c hc
    · exact blank' c hc
  · intro blank
    exact ⟨⟨by simp, by simp⟩, cs, [], blank, by simp [AllBlank], by simp⟩

end Text
end SerialJobs
