import SerialJobs.Json.Reader
import SerialJobs.Proofs.RoundTrip.Numerals

/-!
# Documents that are read back

The compact text of a value is read as that value. What carries the proof is `ReadBack`: a reader
with enough fuel takes the text of the value off the front of any longer text that goes on with a
comma, a bracket or a brace. Lists and records of values that are read back are read back
themselves, by induction on the list alone, and so is every `Plain` value, by induction on how it
is plain. Plain values are those of which a text keeps everything: whole numbers of 64 bits, strings
that spell a text, and no number that only its size is known of.
-/

namespace SerialJobs
namespace Json

/-! ## What follows a value -/

/-- The text is over, or goes on with what separates or closes. -/
def Follows (cs : List Char) : Prop :=
  ∀ c ∈ cs.head?, c = ',' ∨ c = ']' ∨ c = '\x7d'

lemma follows_nil : Follows [] := by
  simp [Follows]

lemma follows_writeItems (xs : List Json) (rest : List Char) : Follows (writeItems xs ++ rest) := by
  cases xs <;> simp [Follows, writeItems]

lemma follows_writeMembers (ms : List (Option String × Json)) (rest : List Char) :
    Follows (writeMembers ms ++ rest) := by
  rcases ms with _ | ⟨⟨name, x⟩, ms⟩ <;> simp [Follows, writeMembers]

lemma skipSpace_cons {c : Char} (h : isSpace c = false) (cs : List Char) :
    skipSpace (c :: cs) = c :: cs :=
  List.dropWhile_cons_of_neg (by simp [h])

/-! ## Strings -/

lemma readUnits_letter {l c : Char} (h : escapeLetter l = some c) (cs : List Char) :
    readUnits ('\\' :: l :: cs) = (readUnits cs).map fun r => (.inl c :: r.1, r.2) := by
  have hu : l ≠ 'u' := by
    rintro rfl
    simp [escapeLetter] at h
  cases hcs : readUnits cs <;> simp [readUnits, hu, h, hcs]

lemma readUnits_code {n : Nat} (hn : n < 16 ^ 4) (cs : List Char) :
    readUnits ('\\' :: 'u' :: (Text.digits 16 4 n ++ cs)) =
      (readUnits cs).map fun r => (.inr n :: r.1, r.2) := by
  have hhex := Text.ofHex_digits 4 n
  rw [Nat.mod_eq_of_lt hn] at hhex
  simp only [Text.digits, List.nil_append, List.cons_append] at hhex ⊢
  cases hcs : readUnits cs <;> simp [readUnits, hex4, hhex, hcs]

lemma readUnits_plain {c : Char} (hquote : c ≠ '"') (hslash : c ≠ '\\') (h32 : ¬c.toNat < 32)
    (cs : List Char) :
    readUnits (c :: cs) = (readUnits cs).map fun r => (.inl c :: r.1, r.2) := by
  rw [readUnits, if_neg (by simp [h32, hslash])]
  · cases hcs : readUnits cs <;> simp
  all_goals simp [hquote, hslash]

/-- One unit is read where one character was written, and it spells that character. -/
lemma readUnits_escapedChar (c : Char) :
    ∃ u, (∀ cs, readUnits (escapedChar c ++ cs) =
        (readUnits cs).map fun r => (u :: r.1, r.2)) ∧
      ∀ us, spell (u :: us) = (spell us).map (c :: ·) := by
  unfold escapedChar
  split_ifs with hquote hslash hb hf hn hr ht hcontrol
  · exact ⟨.inl c, readUnits_letter (by rw [hquote]; rfl), fun us => by rw [spell]⟩
  · exact ⟨.inl c, readUnits_letter (by rw [hslash]; rfl), fun us => by rw [spell]⟩
  · exact ⟨.inl c, readUnits_letter (by rw [hb]; rfl), fun us => by rw [spell]⟩
  · exact ⟨.inl c, readUnits_letter (by rw [hf]; rfl), fun us => by rw [spell]⟩
  · exact ⟨.inl c, readUnits_letter (by rw [hn]; rfl), fun us => by rw [spell]⟩
  · exact ⟨.inl c, readUnits_letter (by rw [hr]; rfl), fun us => by rw [spell]⟩
  · exact ⟨.inl c, readUnits_letter (by rw [ht]; rfl), fun us => by rw [spell]⟩
  · refine ⟨.inr c.toNat, readUnits_code (by omega), fun us => ?_⟩
    rw [spell.eq_def]
    simp only [Char.ofNat_toNat]
    rw [if_neg (by omega), if_neg (by omega)]
  · exact ⟨.inl c, readUnits_plain hquote hslash hcontrol, fun us => by rw [spell]⟩

/-- A written text is read up to its closing quote, and spells what was written. -/
lemma readUnits_escaped (cs rest : List Char) :
    ∃ us, readUnits (cs.flatMap escapedChar ++ '"' :: rest) = some (us, rest) ∧
      spell us = some cs := by
  induction cs with
  | nil => exact ⟨[], by simp [readUnits], by rw [spell]⟩
  | cons c cs ih =>
    obtain ⟨us, hread, hspell⟩ := ih
    obtain ⟨u, hunit, hchar⟩ := readUnits_escapedChar c
    refine ⟨u :: us, ?_, ?_⟩
    · rw [List.flatMap_cons, List.append_assoc, hunit, hread, Option.map_some]
    · rw [hchar, hspell, Option.map_some]

lemma readString_escaped (s : String) (rest : List Char) :
    readString (s.toList.flatMap escapedChar ++ '"' :: rest) = some (some s, rest) := by
  obtain ⟨us, hread, hspell⟩ := readUnits_escaped s.toList rest
  simp [readString, hread, hspell]

/-! ## Numbers -/

/-- No digit, no point and no exponent follows a number. -/
lemma Follows.noDigit {cs : List Char} (h : Follows cs) : Text.NoDigit cs := by
  intro c hc
  rcases h c hc with rfl | rfl | rfl <;> decide

lemma readFraction_follows {cs : List Char} (h : Follows cs) :
    readFraction cs = some (none, cs) := by
  unfold readFraction
  split
  · simp [Follows] at h
  · rfl

lemma readExponent_follows {cs : List Char} (h : Follows cs) :
    readExponent cs = some (none, cs) := by
  cases cs with
  | nil => rfl
  | cons c cs =>
    have hc : ¬(c = 'e' ∨ c = 'E') := by
      rcases h c (by simp) with rfl | rfl | rfl <;> decide
    simp only [readExponent, if_neg hc]

lemma readWhole_decimal (n : Nat) {rest : List Char} (h : Text.NoDigit rest) :
    readWhole (Text.decimal n ++ rest) = some (Text.decimal n, rest) := by
  have hds : ∀ c ∈ Text.decimal n, c.isDigit := fun c => Text.isDigit_of_mem_decimal
  have hspan : spanDigits (Text.decimal n ++ rest) = (Text.decimal n, rest) := by
    rw [spanDigits, Text.takeWhile_digits hds h, Text.dropWhile_digits hds h]
  cases hn : Text.decimal n with
  | nil => exact absurd hn (Text.decimal_ne_nil n)
  | cons d ds =>
    rw [hn] at hds hspan
    by_cases hzero : d = '0'
    · subst hzero
      obtain rfl := (Text.decimal_eq_zero_cons hn).2
      cases rest with
      | nil => rfl
      | cons c rest => simp [readWhole, h c (by simp)]
    · simp only [List.cons_append] at hspan ⊢
      rw [readWhole, if_pos (hds d (by simp)), hspan]
      simpa using hzero

/-- The digits of a number are read as they were written. -/
lemma readNumber_decimal (negative : Bool) (n : Nat) {rest : List Char} (h : Follows rest) :
    readNumber negative (Text.decimal n ++ rest) =
      some (number negative (Text.decimal n) none none, rest) := by
  simp [readNumber, readWhole_decimal n h.noDigit, readFraction_follows h, readExponent_follows h]

lemma number_natural {n : Nat} (h : n < UInt64.size) :
    number false (Text.decimal n) none none = .int n := by
  simp [number, Text.ofDigits_decimal, h]

lemma number_negative {n : Nat} (hpos : 0 < n) (h : n ≤ UInt64.size / 2) :
    number true (Text.decimal n) none none = .int (-n) := by
  simp [number, Text.ofDigits_decimal, hpos, h]

/-! ## Values -/

/-- With enough fuel, the value is read off the front of a text that starts with it. -/
def ReadBack (j : Json) : Prop :=
  ∀ fuel rest, j.write.length ≤ fuel → Follows rest →
    readValue fuel (j.write ++ rest) = some (j, rest)

lemma isSpace_of_isDigit {c : Char} (h : c.isDigit) : isSpace c = false := by
  simp only [isSpace, Bool.or_eq_false_iff, beq_eq_false_iff_ne]
  refine ⟨⟨⟨?_, ?_⟩, ?_⟩, ?_⟩ <;> (rintro rfl; exact absurd h (by decide))

/-- What a value's text starts with: no blank, and no closing bracket. -/
lemma write_eq_cons (j : Json) :
    ∃ c cs, j.write = c :: cs ∧ isSpace c = false ∧ c ≠ ']' := by
  have hdigits : ∀ n, ∃ c cs, Text.decimal n = c :: cs ∧ isSpace c = false ∧ c ≠ ']' := by
    intro n
    cases hn : Text.decimal n with
    | nil => exact absurd hn (Text.decimal_ne_nil n)
    | cons d ds =>
      have hd : d.isDigit := Text.isDigit_of_mem_decimal (by rw [hn]; simp)
      refine ⟨d, ds, rfl, ?_, ?_⟩
      · exact isSpace_of_isDigit hd
      · rintro rfl
        exact absurd hd (by decide)
  cases j with
  | null => exact ⟨_, _, by rw [write], by decide, by decide⟩
  | bool b => cases b <;> exact ⟨_, _, by rw [write], by decide, by decide⟩
  | int i =>
    cases i with
    | ofNat n => exact hdigits n
    | negSucc n => exact ⟨_, _, rfl, by decide, by decide⟩
  | real b => exact ⟨_, _, by rw [write], by decide, by decide⟩
  | str s => exact ⟨_, _, by rw [write, writeString], by decide, by decide⟩
  | garbled => exact ⟨_, _, by rw [write], by decide, by decide⟩
  | arr xs => cases xs <;> exact ⟨_, _, by rw [write], by decide, by decide⟩
  | obj ms => rcases ms with _ | ⟨⟨name, x⟩, ms⟩ <;> exact ⟨_, _, by rw [write], by decide, by decide⟩

lemma readBack_null : ReadBack .null := by
  intro fuel rest hfuel _
  cases fuel with
  | zero => simp [write] at hfuel
  | succ fuel => simp [write, readValue, skipSpace_cons (by decide : isSpace 'n' = false)]

lemma readBack_bool (b : Bool) : ReadBack (.bool b) := by
  intro fuel rest hfuel _
  cases fuel with
  | zero => cases b <;> simp [write] at hfuel
  | succ fuel =>
    cases b
    · simp [write, readValue, skipSpace_cons (by decide : isSpace 'f' = false)]
    · simp [write, readValue, skipSpace_cons (by decide : isSpace 't' = false)]

lemma readBack_str (s : String) : ReadBack (.str s) := by
  intro fuel rest hfuel _
  cases fuel with
  | zero => simp [write, writeString] at hfuel
  | succ fuel =>
    simp [write, writeString, readValue, skipSpace_cons (by decide : isSpace '"' = false),
      readString_escaped]

/-- A text that starts with a digit is read as a number. -/
lemma readValue_digit (fuel : Nat) {d : Char} (hd : d.isDigit) (cs : List Char) :
    readValue (fuel + 1) (d :: cs) = readNumber false (d :: cs) := by
  rw [readValue, skipSpace_cons (isSpace_of_isDigit hd)]
  split
  case h_8 => rfl
  all_goals
    rename_i heq
    obtain rfl := (List.cons.inj heq).1
    exact absurd hd (by decide)

lemma readBack_int {i : Int} (hlow : -(UInt64.size / 2 : Nat) ≤ i) (hhigh : i < UInt64.size) :
    ReadBack (.int i) := by
  intro fuel rest hfuel hrest
  cases fuel with
  | zero =>
    obtain ⟨c, cs, hcs, -, -⟩ := write_eq_cons (.int i)
    simp [hcs] at hfuel
  | succ fuel =>
    cases i with
    | ofNat n =>
      have hread := readNumber_decimal false n hrest
      rw [number_natural (Int.ofNat_lt.1 hhigh)] at hread
      cases hn : Text.decimal n with
      | nil => exact absurd hn (Text.decimal_ne_nil n)
      | cons d ds =>
        have hd : d.isDigit := Text.isDigit_of_mem_decimal (by rw [hn]; simp)
        rw [hn] at hread
        simp only [write, Text.decimalInt, hn, List.cons_append, readValue_digit fuel hd]
        exact hread
    | negSucc n =>
      have hread := readNumber_decimal true (n + 1) hrest
      rw [number_negative (Nat.succ_pos n) (by omega)] at hread
      simpa [write, Text.decimalInt, readValue, skipSpace_cons (by decide : isSpace '-' = false),
        Int.negSucc_eq] using hread

/-! ## Lists and records -/

/-- Items that are read back are read as a list, up to its closing bracket. -/
lemma ReadBack.readItems {x : Json} {xs : List Json} (hx : ReadBack x)
    (hxs : ∀ y ∈ xs, ReadBack y) (fuel : Nat)
    (hfuel : x.write.length + (writeItems xs).length ≤ fuel) (rest : List Char) :
    readItems fuel (x.write ++ (writeItems xs ++ rest)) = some (x :: xs, rest) := by
  induction xs generalizing x fuel with
  | nil =>
    cases fuel with
    | zero => simp [writeItems] at hfuel
    | succ fuel =>
      have hread := hx fuel (writeItems [] ++ rest) (by simp [writeItems] at hfuel; omega)
        (follows_writeItems [] rest)
      simp only [Json.readItems, hread, Option.bind_eq_bind, Option.bind_some]
      simp [writeItems, skipSpace_cons (by decide : isSpace ']' = false)]
  | cons y ys ih =>
    cases fuel with
    | zero => simp [writeItems] at hfuel
    | succ fuel =>
      simp only [writeItems, List.length_cons, List.length_append] at hfuel
      have hread := hx fuel (writeItems (y :: ys) ++ rest) (by omega)
        (follows_writeItems (y :: ys) rest)
      have htail := ih (hxs y (by simp)) (fun z hz => hxs z (by simp [hz])) fuel (by omega)
      simp only [Json.readItems, hread, Option.bind_eq_bind, Option.bind_some]
      simp [writeItems, skipSpace_cons (by decide : isSpace ',' = false), htail]

lemma readBack_arr {xs : List Json} (h : ∀ x ∈ xs, ReadBack x) : ReadBack (.arr xs) := by
  intro fuel rest hfuel _
  have hopen : isSpace '[' = false := by decide
  cases fuel with
  | zero => cases xs <;> simp [write] at hfuel
  | succ fuel =>
    cases xs with
    | nil => simp [write, readValue, skipSpace_cons hopen,
        skipSpace_cons (by decide : isSpace ']' = false)]
    | cons x xs =>
      have htail : ∀ y ∈ xs, ReadBack y := fun y hy => h y (by simp [hy])
      have hitems := (h x (by simp)).readItems htail fuel
        (by simpa [write] using hfuel) rest
      obtain ⟨c, cs, hcs, hspace, hclose⟩ := write_eq_cons x
      rw [hcs, List.cons_append] at hitems
      simp [write, readValue, skipSpace_cons hopen, hcs, skipSpace_cons hspace, hclose, hitems]

/-- The members of an object are read back where their names and values are. -/
lemma ReadBack.readMembers {x : Json} {ms : List (Option String × Json)} (hx : ReadBack x)
    (hms : ∀ m ∈ ms, m.1.isSome ∧ ReadBack m.2) (name : String) (fuel : Nat)
    (hfuel : x.write.length + (writeMembers ms).length ≤ fuel) (rest : List Char) :
    readMembers fuel (writeString name ++ ':' :: (x.write ++ (writeMembers ms ++ rest))) =
      some ((some name, x) :: ms, rest) := by
  have hquote : isSpace '"' = false := by decide
  have hcolon : isSpace ':' = false := by decide
  induction ms generalizing name x fuel with
  | nil =>
    cases fuel with
    | zero => simp [writeMembers] at hfuel
    | succ fuel =>
      have hread := hx fuel (writeMembers [] ++ rest) (by simpa [writeMembers] using hfuel)
        (follows_writeMembers [] rest)
      simp only [Json.readMembers, writeString, List.cons_append, List.append_assoc,
        List.nil_append, skipSpace_cons hquote, readString_escaped, Option.bind_eq_bind,
        Option.bind_some, skipSpace_cons hcolon, hread]
      simp [writeMembers, skipSpace_cons (by decide : isSpace '\x7d' = false)]
  | cons m ms ih =>
    obtain ⟨label, y⟩ := m
    cases label with
    | none => simpa using (hms (none, y) (by simp)).1
    | some label =>
      cases fuel with
      | zero => simp [writeMembers] at hfuel
      | succ fuel =>
        simp only [writeMembers, List.length_cons, List.length_append] at hfuel
        have hread := hx fuel (writeMembers ((some label, y) :: ms) ++ rest) (by omega)
          (follows_writeMembers _ rest)
        have hy : ReadBack y := (hms (some label, y) (by simp)).2
        have htail := ih hy (fun m hm => hms m (by simp [hm])) label fuel (by omega)
        simp only [Json.readMembers, writeString, List.cons_append, List.append_assoc,
          List.nil_append, skipSpace_cons hquote, readString_escaped, Option.bind_eq_bind,
          Option.bind_some, skipSpace_cons hcolon, hread]
        simp [writeMembers, skipSpace_cons (by decide : isSpace ',' = false), htail]

lemma readBack_obj {ms : List (Option String × Json)}
    (h : ∀ m ∈ ms, m.1.isSome ∧ ReadBack m.2) : ReadBack (.obj ms) := by
  intro fuel rest hfuel _
  have hopen : isSpace '\x7b' = false := by decide
  cases fuel with
  | zero => rcases ms with _ | ⟨⟨name, x⟩, ms⟩ <;> simp [write] at hfuel
  | succ fuel =>
    rcases ms with _ | ⟨⟨name, x⟩, ms⟩
    · simp [write, readValue, skipSpace_cons hopen,
        skipSpace_cons (by decide : isSpace '\x7d' = false)]
    · cases name with
      | none => simpa using (h (none, x) (by simp)).1
      | some name =>
        have htail : ∀ m ∈ ms, m.1.isSome ∧ ReadBack m.2 := fun m hm => h m (by simp [hm])
        have hx : ReadBack x := (h (some name, x) (by simp)).2
        simp only [write, List.length_cons, List.length_append] at hfuel
        have hmembers := hx.readMembers htail name fuel (by omega) rest
        simp only [write, writeString, Option.getD_some, List.cons_append, List.append_assoc,
          List.nil_append] at hmembers ⊢
        simp [readValue, skipSpace_cons hopen, skipSpace_cons (by decide : isSpace '"' = false),
          hmembers]

/-! ## Plain values -/

/-- The text of the value keeps everything of it. -/
inductive Plain : Json → Prop
  | null : Plain .null
  | bool (b : Bool) : Plain (.bool b)
  | int {i : Int} (low : -(UInt64.size / 2 : Nat) ≤ i) (high : i < UInt64.size) : Plain (.int i)
  | str (s : String) : Plain (.str s)
  | arr {xs : List Json} (items : ∀ x ∈ xs, Plain x) : Plain (.arr xs)
  | obj {ms : List (Option String × Json)} (named : ∀ m ∈ ms, m.1.isSome)
    (members : ∀ m ∈ ms, Plain m.2) : Plain (.obj ms)

lemma Plain.record {ms : List (String × Json)} (h : ∀ m ∈ ms, Plain m.2) : Plain (record ms) := by
  refine .obj ?_ ?_
  · intro m hm
    obtain ⟨n, -, rfl⟩ := List.mem_map.1 hm
    rfl
  · intro m hm
    obtain ⟨n, hn, rfl⟩ := List.mem_map.1 hm
    exact h n hn

lemma Plain.ofOption {α : Type} {f : α → Json} (h : ∀ a, Plain (f a)) (o : Option α) :
    Plain (ofOption f o) := by
  cases o with
  | none => exact .null
  | some a => exact h a

theorem Plain.readBack {j : Json} (h : Plain j) : ReadBack j := by
  induction h with
  | null => exact readBack_null
  | bool b => exact readBack_bool b
  | int low high => exact readBack_int low high
  | str s => exact readBack_str s
  | arr _ ih => exact readBack_arr ih
  | obj named _ ih => exact readBack_obj fun m hm => ⟨named m hm, ih m hm⟩

/-- The text of a plain value is a document of that value. -/
theorem Plain.parse_text {j : Json} (h : Plain j) : parse j.text = some j := by
  have hread := h.readBack (j.write.length + 1) [] (Nat.le_succ _) follows_nil
  rw [List.append_nil] at hread
  rw [parse, text, String.toList_ofList, hread]
  rfl

lemma allKeepable_of_forall {xs : List Json} (h : ∀ x ∈ xs, x.keepable) : allKeepable xs := by
  induction xs with
  | nil => rw [allKeepable]
  | cons x xs ih =>
    rw [allKeepable, h x (by simp), ih fun y hy => h y (by simp [hy]), Bool.and_self]

lemma membersKeepable_of_forall {ms : List (Option String × Json)}
    (h : ∀ m ∈ ms, m.1.isSome ∧ m.2.keepable) : membersKeepable ms := by
  induction ms with
  | nil => rw [membersKeepable]
  | cons m ms ih =>
    have hm := h m (by simp)
    rw [membersKeepable, hm.1, hm.2, ih fun n hn => h n (by simp [hn])]
    rfl

lemma Plain.keepable {j : Json} (h : Plain j) : j.keepable := by
  induction h with
  | null | bool | int | str => rfl
  | arr _ ih => exact allKeepable_of_forall ih
  | obj named _ ih => exact membersKeepable_of_forall fun m hm => ⟨named m hm, ih m hm⟩

end Json
end SerialJobs
