import Mathlib
import SerialJobs.Job.KillCommand
import SerialJobs.Proofs.Trimming

/-!
# Which texts name a command

A text is another one restyled if it has the same letters, each of them small or as a capital, and
white space around them (`Text.Restyled`). White space is given by the list of its characters, and
only the letters of ASCII have two cases. A command is read from its name restyled, and from no
other text (`KillCommand.ofText_reads_names`).

The reader compares texts that are trimmed and have small letters only. To restyle a text changes
nothing about what is left of it then (`Text.Restyled.plain_eq`), and a text with nothing to trim can
be restyled to every text of which the same is left (`Text.restyled_iff`).
-/

namespace SerialJobs
namespace Text

/-- The characters with the White_Space property, one by one. -/
def whiteSpace : List Char :=
  ['\t', '\n', '\x0b', '\x0c', '\r', ' ', '\u0085', '\u00a0', '\u1680', '\u2000', '\u2001',
    '\u2002', '\u2003', '\u2004', '\u2005', '\u2006', '\u2007', '\u2008', '\u2009', '\u200a',
    '\u2028', '\u2029', '\u202f', '\u205f', '\u3000']

/-- The same letter of ASCII, small or as a capital; every other character is only itself. -/
def Recased (c d : Char) : Prop := d = c.toLower ∨ d = c.toUpper

/-- The second text is the first one with its letters in either case and white space around it. -/
inductive Restyled (s t : String) : Prop
  | intro {before cs after : List Char} (text : t.toList = before ++ cs ++ after)
      (blank : before ⊆ whiteSpace ∧ after ⊆ whiteSpace)
      (cased : List.Forall₂ Recased s.toList cs) : Restyled s t

/-- What is compared of a text: it is trimmed and has small letters only. -/
def plain (s : String) : List Char := (trim s.toList).map Char.toLower

/-! ## White space -/

lemma mem_whiteSpace_iff {c : Char} : c ∈ whiteSpace ↔ isBlank c := by
  simp only [whiteSpace, List.mem_cons, List.not_mem_nil, or_false, ← Char.toNat_inj,
    Char.reduceToNat, isBlank, Bool.or_eq_true, Bool.and_eq_true, decide_eq_true_eq, beq_iff_eq]
  omega

lemma subset_whiteSpace_iff {cs : List Char} : cs ⊆ whiteSpace ↔ AllBlank cs :=
  forall₂_congr fun _ _ => mem_whiteSpace_iff

/-! ## The two cases of a letter -/

lemma isUpper_iff {c : Char} : c.isUpper ↔ 65 ≤ c.toNat ∧ c.toNat ≤ 90 := by
  simp [Char.isUpper, UInt32.le_iff_toNat_le]

lemma lowerAscii_eq_toLower (c : Char) : lowerAscii c = c.toLower := by
  have capital : ('A' ≤ c ∧ c ≤ 'Z') ↔ c.isUpper := by
    simp [isUpper_iff, Char.le_def, UInt32.le_iff_toNat_le]
  by_cases upper : c.isUpper
  · rw [lowerAscii, if_pos (capital.mpr upper), Char.toLower_eq_of_isUpper upper]
  · rw [lowerAscii, if_neg (mt capital.mp upper), Char.toLower_eq_of_not_isUpper upper]

lemma isBlank_toLower (c : Char) : isBlank c.toLower = isBlank c := by
  by_cases upper : c.isUpper
  · -- neither the capital nor the small letter is blank
    have range := isUpper_iff.mp upper
    have small : c.toLower.toNat = c.toNat + 32 := by
      have valid : (c.toNat + 32).isValidChar := .inl (by omega)
      rw [Char.toLower_eq_of_isUpper upper, Char.toNat_ofNat, if_pos valid]
    rw [Bool.eq_iff_iff]
    simp only [isBlank, small, Bool.or_eq_true, Bool.and_eq_true, decide_eq_true_eq, beq_iff_eq]
    omega
  · rw [Char.toLower_eq_of_not_isUpper upper]

lemma recased_iff {c d : Char} : Recased c d ↔ c.toLower = d.toLower := by
  constructor
  · rintro (rfl | rfl)
    · rw [Char.toLower_toLower_eq_toLower]
    · rw [Char.toLower_toUpper_eq_toLower]
  · intro same
    by_cases upper : d.isUpper
    · right
      calc d = d.toUpper :=
            (Char.toUpper_eq_of_not_isLower (Char.not_isLower_of_isUpper upper)).symm
        _ = d.toLower.toUpper := (Char.toUpper_toLower_eq_toUpper d).symm
        _ = c.toLower.toUpper := by rw [same]
        _ = c.toUpper := Char.toUpper_toLower_eq_toUpper c
    · left
      rw [same, Char.toLower_eq_of_not_isUpper upper]

lemma forall₂_recased_iff {cs ds : List Char} :
    List.Forall₂ Recased cs ds ↔ cs.map Char.toLower = ds.map Char.toLower := by
  have cased : Recased = fun c d => c.toLower = d.toLower :=
    funext fun c => funext fun d => propext recased_iff
  rw [cased, ← List.forall₂_eq_eq_eq, List.forall₂_map_left_iff, List.forall₂_map_right_iff]

/-! ## Texts -/

lemma trimStart_map_toLower (cs : List Char) :
    trimStart (cs.map Char.toLower) = (trimStart cs).map Char.toLower := by
  have same : isBlank ∘ Char.toLower = isBlank := funext isBlank_toLower
  rw [trimStart, trimStart, List.dropWhile_map, same]

lemma trim_map_toLower (cs : List Char) :
    trim (cs.map Char.toLower) = (trim cs).map Char.toLower := by
  rw [trim, trim, trimEnd, trimEnd, trimStart_map_toLower, ← List.map_reverse,
    trimStart_map_toLower, List.map_reverse]

variable {s t : String}

/-- To restyle a text changes nothing about what is compared of it. -/
lemma Restyled.plain_eq (restyled : Restyled s t) : plain t = plain s := by
  cases restyled with
  | @intro before cs after text blank cased =>
    have bare : trim t.toList = trim cs := by
      rw [text, trim_append (subset_whiteSpace_iff.mp blank.1) (subset_whiteSpace_iff.mp blank.2)]
    calc plain t = (trim cs).map Char.toLower := by rw [plain, bare]
      _ = trim (cs.map Char.toLower) := (trim_map_toLower cs).symm
      _ = trim (s.toList.map Char.toLower) := by rw [forall₂_recased_iff.mp cased]
      _ = plain s := trim_map_toLower s.toList

/-- A trimmed text restyled is any text of which the same is left. -/
lemma restyled_iff (trimmed : trim s.toList = s.toList) : Restyled s t ↔ plain t = plain s := by
  constructor
  · exact Restyled.plain_eq
  · intro same
    obtain ⟨-, before, after, blank, blank', text⟩ := trim_eq_iff.mp (Eq.refl (trim t.toList))
    have cased : s.toList.map Char.toLower = (trim t.toList).map Char.toLower := by
      rw [plain, plain, trimmed] at same
      exact same.symm
    exact .intro text ⟨subset_whiteSpace_iff.mpr blank, subset_whiteSpace_iff.mpr blank'⟩
      (forall₂_recased_iff.mpr cased)

end Text

namespace KillCommand

open Text (Restyled plain)

variable {s : String} {c c' : KillCommand}

/-- A name has nothing to trim and small letters only. -/
lemma plain_name (c : KillCommand) : plain c.name = c.name.toList := by
  cases c <;> decide

lemma restyled_name_iff : Restyled c.name s ↔ plain s = c.name.toList := by
  have trimmed : Text.trim c.name.toList = c.name.toList := by
    cases c <;> decide
  rw [Text.restyled_iff trimmed, plain_name]

lemma ofName?_eq_some_iff : ofName? s = some c ↔ c.name = s := by
  constructor
  · intro found
    have named := List.find?_some found
    exact beq_iff_eq.mp named
  · rintro rfl
    cases c <;> decide

/-- A command is read by its name, which is compared with what `plain` leaves of the text. -/
lemma ofText_eq (s : String) :
    ofText s = (ofName? (String.ofList (plain s))).elim (.error ⟨s⟩) .ok := by
  have small : Text.lowerAscii = Char.toLower := funext Text.lowerAscii_eq_toLower
  rw [ofText, small, plain]
  split
  next c found => rw [found, Option.elim_some]
  next none_found => rw [none_found, Option.elim_none]

lemma ofText_eq_ok_iff : ofText s = .ok c ↔ Restyled c.name s := by
  have named : ofName? (String.ofList (plain s)) = some c ↔ Restyled c.name s := by
    rw [ofName?_eq_some_iff, restyled_name_iff, ← String.toList_inj, String.toList_ofList, eq_comm]
  rw [← named, ofText_eq]
  cases ofName? (String.ofList (plain s)) <;> simp

/-- A text that is refused is kept as it was given. -/
lemma ofText_eq_error_iff {e : UnknownCommand} :
    ofText s = .error e ↔ (∀ c : KillCommand, ¬ Restyled c.name s) ∧ e = ⟨s⟩ := by
  simp only [← ofText_eq_ok_iff, ofText_eq]
  cases ofName? (String.ofList (plain s)) <;> simp [eq_comm]

/-- No text is the names of two commands restyled, since it is read as one command only. -/
lemma restyled_name_unique (h : Restyled c.name s) (h' : Restyled c'.name s) : c = c' :=
  Except.ok.inj ((ofText_eq_ok_iff.mpr h).symm.trans (ofText_eq_ok_iff.mpr h'))

/-- A text is read as a command exactly if it is the name of the command restyled. Every other text
is refused and kept as it was given. No text can be read as two commands; the name of a command is
read as that command; and to put white space around a text or to change the case of its letters
changes nothing about what it is read as. -/
theorem ofText_reads_names :
    (∀ (s : String) (c : KillCommand), ofText s = .ok c ↔ Restyled c.name s) ∧
      (∀ (s : String) (e : UnknownCommand), ofText s = .error e ↔
        (∀ c : KillCommand, ¬ Restyled c.name s) ∧ e = ⟨s⟩) ∧
      (∀ (s : String) (c c' : KillCommand), Restyled c.name s → Restyled c'.name s → c = c') ∧
      (∀ c : KillCommand, ofText c.name = .ok c) ∧
      ∀ (s t : String) (c : KillCommand), Restyled s t → (ofText t = .ok c ↔ ofText s = .ok c) := by
  refine ⟨fun s c => ofText_eq_ok_iff, fun s e => ofText_eq_error_iff,
    fun s c c' => restyled_name_unique, fun c => ?_, fun s t c restyled => ?_⟩
  · exact ofText_eq_ok_iff.mpr (restyled_name_iff.mpr (plain_name c))
  · rw [ofText_eq_ok_iff, ofText_eq_ok_iff, restyled_name_iff, restyled_name_iff, restyled.plain_eq]

/-- A name in both cases between white space of two kinds, and the same in capitals with more white
space around it. -/
theorem ofText_reads_names_loudly :
    Restyled (name .shutdown) "\u3000ShutDown\n" ∧
      Restyled "\u3000ShutDown\n" "\t\u3000SHUTDOWN\n\u2003" ∧
      ofText "\t\u3000SHUTDOWN\n\u2003" = .ok .shutdown := by
  have cased : List.Forall₂ Text.Recased "\u3000ShutDown\n".toList "\u3000SHUTDOWN\n".toList :=
    Text.forall₂_recased_iff.mpr (by decide)
  have named : Restyled (name .shutdown) "\u3000ShutDown\n" := restyled_name_iff.mpr (by decide)
  have louder : Restyled "\u3000ShutDown\n" "\t\u3000SHUTDOWN\n\u2003" :=
    @Restyled.intro _ _ ['\t'] _ ['\u2003'] (by decide) (by decide) cased
  obtain ⟨reads, -, -, -, survives⟩ := ofText_reads_names
  exact ⟨named, louder, (survives _ _ _ louder).mpr ((reads _ _).mpr named)⟩

/-- A long s is no s, though its capital is the one of s. -/
example : ofText "\u017fhutdown" = .error ⟨"\u017fhutdown"⟩ := by decide

end KillCommand
end SerialJobs
