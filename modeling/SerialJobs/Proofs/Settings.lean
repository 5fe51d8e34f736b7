import SerialJobs.Config.Lookup
import SerialJobs.Proofs.RoundTrip.Numerals
import SerialJobs.Proofs.Trimming
import SerialJobs.Scene

/-!
# Which settings a manager can be made from

`Setting.Gives` says what the text of a setting stands for: nothing when it is absent or blank, and
a number when it is one or more decimal digits within the bound, with a plus sign before them or
not and blanks around them. All other texts are refused.

The five settings are asked for in their order, up to the first one whose text is refused, which
the error names. Only when all five are read the configuration is looked at as a whole, and it is
accepted exactly if neither interval nor the limit is zero (`Config.fromLookup_reads`).
-/

namespace SerialJobs

/-! ## Numbers within a bound -/

namespace Text

lemma digit?_eq_some_iff {c : Char} {d : Nat} :
    digit? c = some d ↔ c.isDigit ∧ d = c.toNat - 48 := by
  have same : ('0' ≤ c ∧ c ≤ '9') ↔ c.isDigit := by
    simp [Char.isDigit, Char.le_def]
  unfold digit?
  split
  next digit => simp [same.mp digit, eq_comm]
  next other => simp [mt same.mpr other]

/-- A number does not get smaller as digits are added to it. -/
lemma le_foldl_digits (cs : List Char) (n : Nat) :
    n ≤ cs.foldl (fun n c => 10 * n + (c.toNat - 48)) n := by
  induction cs generalizing n with
  | nil => exact Nat.le_refl n
  | cons c cs ih =>
    have := ih (10 * n + (c.toNat - 48))
    rw [List.foldl_cons]
    omega

/-- Digits that leave the bound on the way do so in the end. -/
lemma readDigits_eq_ok_iff {bound n m : Nat} {cs : List Char} (fits : n ≤ bound) :
    readDigits bound n cs = .ok m ↔ (∀ c ∈ cs, c.isDigit) ∧
      cs.foldl (fun n c => 10 * n + (c.toNat - 48)) n = m ∧ m ≤ bound := by
  induction cs generalizing n with
  | nil =>
    simp only [readDigits, Except.ok.injEq, List.foldl_nil]
    constructor
    · rintro rfl
      simp [fits]
    · rintro ⟨-, rfl, -⟩
      rfl
  | cons c cs ih =>
    rw [readDigits]
    rcases value : digit? c with _ | d
    · have other : ¬ c.isDigit := fun digit => by
        simp [digit?_eq_some_iff.mpr ⟨digit, rfl⟩] at value
      simp [other]
    · obtain ⟨digit, rfl⟩ := digit?_eq_some_iff.mp value
      simp only [List.mem_cons, forall_eq_or_imp, digit, true_and, List.foldl_cons]
      split
      next fits => exact ih fits
      next exceeds =>
        have := le_foldl_digits cs (10 * n + (c.toNat - 48))
        constructor
        · simp
        · rintro ⟨-, rfl, within⟩
          omega

/-- One or more digits after a plus sign or nothing. -/
lemma readNumber_eq_ok_iff {bound n : Nat} {cs : List Char} :
    readNumber bound cs = .ok n ↔ ∃ sign digits, cs = sign ++ digits ∧ (sign = [] ∨ sign = ['+']) ∧
      digits ≠ [] ∧ (∀ c ∈ digits, c.isDigit) ∧ ofDigits digits = n ∧ n ≤ bound := by
  have whole : ∀ ds, readDigits bound 0 ds = .ok n ↔
      (∀ c ∈ ds, c.isDigit) ∧ ofDigits ds = n ∧ n ≤ bound := fun ds =>
    readDigits_eq_ok_iff (Nat.zero_le _)
  have noPlus : ('+').isDigit = false := by decide
  unfold readNumber
  split
  next => simp
  next =>
    simp only [reduceCtorEq, false_iff]
    rintro ⟨sign, digits, split, rfl | rfl, present, all, -⟩
    · obtain rfl : digits = ['+'] := split.symm
      simp [noPlus] at all
    · exact present (by simpa using split.symm)
  next ds present =>
    rw [whole]
    constructor
    · rintro ⟨all, value⟩
      exact ⟨['+'], ds, rfl, .inr rfl, fun h => present (by rw [h]), all, value⟩
    · rintro ⟨sign, digits, split, rfl | rfl, -, all, value⟩
      · obtain rfl : digits = '+' :: ds := split.symm
        simp [noPlus] at all
      · obtain rfl : ds = digits := by simpa using split
        exact ⟨all, value⟩
  next cs present _ noSign =>
    rw [whole]
    constructor
    · rintro ⟨all, value⟩
      exact ⟨[], _, rfl, .inl rfl, present, all, value⟩
    · rintro ⟨sign, digits, rfl, rfl | rfl, -, all, value⟩
      · exact ⟨all, value⟩
      · exact absurd rfl (noSign digits)

end Text

namespace Duration

lemma toNanos_ofSeconds {n : Nat} (fits : n ≤ UInt64.size - 1) :
    (ofSeconds (UInt64.ofNat n)).toNanos = n * 1000000000 := by
  have small : n < 2 ^ 64 := by
    have : UInt64.size = 2 ^ 64 := rfl
    omega
  simp [toNanos, ofSeconds, UInt64.toNat_ofNat_of_lt' small]

lemma toNanos_ofMillis {n : Nat} (fits : n ≤ UInt64.size - 1) :
    (ofMillis (UInt64.ofNat n)).toNanos = n * 1000000 := by
  have small : n < 2 ^ 64 := by
    have : UInt64.size = 2 ^ 64 := rfl
    omega
  have part : n % 1000 * 1000000 % 1000000000 = n % 1000 * 1000000 := Nat.mod_eq_of_lt (by omega)
  simp only [toNanos, ofMillis, UInt64.toNat_div, UInt64.toNat_ofNat_of_lt' small, Fin.ofNat, part]
  show n / 1000 * 1000000000 + n % 1000 * 1000000 = n * 1000000
  omega

end Duration

namespace Config

/-- What the text of a setting stands for, if it is not refused. -/
inductive Setting.Gives (s : Setting) : Option String → Option Nat → Prop
  | absent : s.Gives none none
  | blank {raw : String} (blank : Text.AllBlank raw.toList) : s.Gives (some raw) none
  | number {raw : String} {before sign digits after : List Char}
      (text : raw.toList = before ++ (sign ++ digits) ++ after)
      (blank : Text.AllBlank before ∧ Text.AllBlank after) (plus : sign = [] ∨ sign = ['+'])
      (decimal : digits ≠ [] ∧ ∀ c ∈ digits, c.isDigit) (fits : Text.ofDigits digits ≤ s.bound) :
      s.Gives (some raw) (some (Text.ofDigits digits))

/-- The configuration has these numbers for its settings, and its defaults where there is none. -/
structure Has (c : Config) (f : Setting → Option Nat) : Prop where
  poll : c.pollInterval.toNanos =
    (f .pollIntervalMillis).elim ({} : Config).pollInterval.toNanos (· * 1000000)
  heartbeat : c.heartbeatInterval.toNanos =
    (f .heartbeatSeconds).elim ({} : Config).heartbeatInterval.toNanos (· * 1000000000)
  timeout : c.jobTimeout.map Duration.toNanos =
    (f .jobTimeoutSeconds).elim (({} : Config).jobTimeout.map Duration.toNanos)
      fun n => if n = 0 then none else some (n * 1000000000)
  limit : c.statusErrorLimit.toNat =
    (f .statusErrorLimit).elim ({} : Config).statusErrorLimit.toNat id
  shutdown : c.shutdownTimeout.toNanos =
    (f .shutdownTimeoutSeconds).elim ({} : Config).shutdownTimeout.toNanos (· * 1000000000)

/-- The numbers that must not be zero are not. -/
structure Positive (f : Setting → Option Nat) : Prop where
  poll : f .pollIntervalMillis ≠ some 0
  heartbeat : f .heartbeatSeconds ≠ some 0
  limit : f .statusErrorLimit ≠ some 0

/-- The first of the numbers that must not be zero and is. -/
inductive FirstZero (f : Setting → Option Nat) : Fault → Prop
  | poll (zero : f .pollIntervalMillis = some 0) : FirstZero f .pollIntervalZero
  | heartbeat (poll : f .pollIntervalMillis ≠ some 0) (zero : f .heartbeatSeconds = some 0) :
      FirstZero f .heartbeatIntervalZero
  | limit (poll : f .pollIntervalMillis ≠ some 0) (heartbeat : f .heartbeatSeconds ≠ some 0)
      (zero : f .statusErrorLimit = some 0) : FirstZero f .statusErrorLimitZero

/-- What comes of asking for the settings: the keys that are asked for, and the configuration or
what is wrong with it. -/
inductive Reads (lookup : String → Option String) :
    List String → Except ManagerError Config → Prop
  | accepted {f : Setting → Option Nat} {c : Config}
      (gives : ∀ s : Setting, s.Gives (lookup s.key) (f s))
      (positive : Positive f) (has : c.Has f) : Reads lookup (Setting.order.map Setting.key) (.ok c)
  | refused {before after : List Setting} {s : Setting} {raw : String} (e : Text.NumeralError)
      (split : Setting.order = before ++ s :: after)
      (given : ∀ r ∈ before, ∃ n, r.Gives (lookup r.key) n) (text : lookup s.key = some raw)
      (illegible : ∀ n, ¬ s.Gives (some raw) n) :
      Reads lookup ((before ++ [s]).map Setting.key) (.error (.configuration
        ("invalid value '" ++ raw ++ "' for " ++ s.key ++ ": " ++ e.message)))
  | faulty {f : Setting → Option Nat} {fault : Fault}
      (gives : ∀ s : Setting, s.Gives (lookup s.key) (f s)) (zero : FirstZero f fault) :
      Reads lookup (Setting.order.map Setting.key) (.error (.configuration fault.message))

/-! ## One setting -/

namespace Setting

variable {s : Setting} {raw : String} {n n' : Option Nat} {t : Option String}

lemma trimmed_of_digits {sign digits : List Char} (plus : sign = [] ∨ sign = ['+'])
    (all : ∀ c ∈ digits, c.isDigit) : Text.Trimmed (sign ++ digits) := by
  have solid : ∀ c ∈ sign ++ digits, Text.isBlank c = false := by
    intro c hc
    rcases List.mem_append.mp hc with hc | hc
    · rcases plus with rfl | rfl
      · simp at hc
      · obtain rfl : c = '+' := by simpa using hc
        decide
    · exact Text.isBlank_of_isDigit (all c hc)
  exact ⟨fun c hc => solid c (List.mem_of_mem_head? hc),
    fun c hc => solid c (List.mem_of_getLast? hc)⟩

/-- A text is read as what it stands for. -/
lemma read_eq_ok_iff : s.read raw = .ok n ↔ s.Gives (some raw) n := by
  unfold read
  split
  next empty =>
    have blank := Text.trim_eq_nil_iff.mp empty
    constructor
    · intro read
      cases read
      exact .blank blank
    · intro gives
      cases gives with
      | blank => rfl
      | number text blanks plus decimal =>
        -- the digits would be left
        have left := Text.trim_eq_iff.mpr ⟨trimmed_of_digits plus decimal.2, _, _,
          blanks.1, blanks.2, text⟩
        rw [empty] at left
        exact absurd (List.append_eq_nil_iff.mp left.symm).2 decimal.1
  next left =>
    constructor
    · intro read
      rcases number : Text.readNumber s.bound (Text.trim raw.toList) with e | m
      · simp [number, Except.map] at read
      · obtain rfl : some m = n := by simpa [number, Except.map] using read
        obtain ⟨sign, digits, split, plus, present, all, rfl, fits⟩ :=
          Text.readNumber_eq_ok_iff.mp number
        obtain ⟨-, before, after, blank, blank', text⟩ := Text.trim_eq_iff.mp split
        exact .number text ⟨blank, blank'⟩ plus ⟨present, all⟩ fits
    · intro gives
      cases gives with
      | blank blank => exact absurd (Text.trim_eq_nil_iff.mpr blank) left
      | number text blanks plus decimal fits =>
        have kept := Text.trim_eq_iff.mpr ⟨trimmed_of_digits plus decimal.2, _, _,
          blanks.1, blanks.2, text⟩
        have number := Text.readNumber_eq_ok_iff.mpr
          ⟨_, _, rfl, plus, decimal.1, decimal.2, rfl, fits⟩
        rw [kept, number]
        rfl

/-- A text stands for one thing at most. -/
lemma Gives.unique (gives : s.Gives t n) (gives' : s.Gives t n') : n = n' := by
  rcases t with _ | raw
  · cases gives
    cases gives'
    rfl
  · exact Except.ok.inj ((read_eq_ok_iff.mpr gives).symm.trans (read_eq_ok_iff.mpr gives'))

lemma Gives.fits {m : Nat} (gives : s.Gives t (some m)) : m ≤ s.bound := by
  cases gives with
  | number text blank plus decimal fits => exact fits

/-- Every setting is asked for. -/
lemma mem_order (s : Setting) : s ∈ order := by
  cases s <;> decide

end Setting

/-! ## Several settings -/

variable {lookup : String → Option String} {f : Setting → Option Nat} {c : Config}

/-- A configuration with one setting changed to its number, if it has one. -/
def adopt (f : Setting → Option Nat) (c : Config) (s : Setting) : Config :=
  (f s).elim c fun n => s.apply c n

lemma readSettings_of_gives {ss : List Setting} (c : Config)
    (gives : ∀ s ∈ ss, s.Gives (lookup s.key) (f s)) :
    readSettings lookup ss c = (ss.map Setting.key, .ok (ss.foldl (adopt f) c)) := by
  induction ss generalizing c with
  | nil => rfl
  | cons s ss ih =>
    have here := gives s (by simp)
    have rest := fun c => ih c fun r hr => gives r (by simp [hr])
    simp only [readSettings, List.map_cons, List.foldl_cons]
    rcases text : lookup s.key with _ | raw
    · have none_given : f s = none := by
        rw [text] at here
        exact here.unique .absent
      simp only [rest, adopt, none_given, Option.elim_none]
    · rw [text] at here
      have read := Setting.read_eq_ok_iff.mpr here
      rcases number : f s with _ | n
      · simp only [read, number, rest, adopt, Option.elim_none]
      · simp only [read, number, rest, adopt, Option.elim_some]

lemma readSettings_of_refused {before after : List Setting} {s : Setting} {raw : String}
    {e : Text.NumeralError} (c : Config) (given : ∀ r ∈ before, ∃ n, r.Gives (lookup r.key) n)
    (text : lookup s.key = some raw) (refused : s.read raw = .error e) :
    readSettings lookup (before ++ s :: after) c =
      ((before ++ [s]).map Setting.key, .error (s.refusal raw e)) := by
  induction before generalizing c with
  | nil => simp [readSettings, text, refused]
  | cons r before ih =>
    obtain ⟨n, here⟩ := given r (by simp)
    have rest := fun c => ih c fun s hs => given s (by simp [hs])
    simp only [List.cons_append, readSettings, List.map_cons]
    rcases text : lookup r.key with _ | raw
    · simp only [rest]
    · rw [text] at here
      have read := Setting.read_eq_ok_iff.mpr here
      rcases n with _ | n <;> simp only [read, rest]

/-- Either the texts of all settings stand for something, or one of them is the first to be
refused. -/
lemma gives_or_refused (lookup : String → Option String) (ss : List Setting) :
    (∀ s ∈ ss, ∃ n, s.Gives (lookup s.key) n) ∨
      ∃ before s after raw e, ss = before ++ s :: after ∧
        (∀ r ∈ before, ∃ n, r.Gives (lookup r.key) n) ∧ lookup s.key = some raw ∧
        s.read raw = .error e := by
  induction ss with
  | nil => simp
  | cons s ss ih =>
    have here : (∃ n, s.Gives (lookup s.key) n) ∨
        ∃ raw e, lookup s.key = some raw ∧ s.read raw = .error e := by
      rcases text : lookup s.key with _ | raw
      · exact .inl ⟨none, .absent⟩
      · rcases read : s.read raw with e | n
        · exact .inr ⟨raw, e, rfl, read⟩
        · exact .inl ⟨n, Setting.read_eq_ok_iff.mp read⟩
    rcases here with here | ⟨raw, e, text, refused⟩
    · rcases ih with rest | ⟨before, r, after, raw, e, rfl, given, text, refused⟩
      · exact .inl (by simpa using ⟨here, rest⟩)
      · exact .inr ⟨s :: before, r, after, raw, e, rfl, by simpa using ⟨here, given⟩, text, refused⟩
    · exact .inr ⟨[], s, ss, raw, e, rfl, by simp, text, refused⟩

/-! ## The configuration as a whole -/

lemma adopt_eq (c : Config) (s : Setting) : adopt f c s =
    match s with
    | .pollIntervalMillis =>
      { c with pollInterval := (f s).elim c.pollInterval fun n => .ofMillis (.ofNat n) }
    | .heartbeatSeconds =>
      { c with heartbeatInterval := (f s).elim c.heartbeatInterval fun n => .ofSeconds (.ofNat n) }
    | .jobTimeoutSeconds =>
      { c with jobTimeout := (f s).elim c.jobTimeout fun n =>
          if n = 0 then none else some (.ofSeconds (.ofNat n)) }
    | .statusErrorLimit =>
      { c with statusErrorLimit := (f s).elim c.statusErrorLimit .ofNat }
    | .shutdownTimeoutSeconds =>
      { c with shutdownTimeout := (f s).elim c.shutdownTimeout fun n => .ofSeconds (.ofNat n) } := by
  unfold adopt
  cases s <;> cases f _ <;> rfl

/-- The configuration that is read has the numbers of the settings. -/
lemma has_foldl_adopt (gives : ∀ s : Setting, s.Gives (lookup s.key) (f s)) :
    (Setting.order.foldl (adopt f) {}).Has f := by
  have fits : ∀ s n, f s = some n → n ≤ s.bound := fun s n h => (h ▸ gives s).fits
  simp only [Setting.order, List.foldl_cons, List.foldl_nil, adopt_eq]
  constructor
  · rcases number : f .pollIntervalMillis with _ | n
    · rfl
    · exact Duration.toNanos_ofMillis (fits _ _ number)
  · rcases number : f .heartbeatSeconds with _ | n
    · rfl
    · exact Duration.toNanos_ofSeconds (fits _ _ number)
  · rcases number : f .jobTimeoutSeconds with _ | n
    · rfl
    · have exact_nanos := Duration.toNanos_ofSeconds (fits _ _ number)
      by_cases zero : n = 0
      · simp [zero]
      · simpa [zero] using exact_nanos
  · rcases number : f .statusErrorLimit with _ | n
    · rfl
    · have small : n < 2 ^ 32 := by
        have := fits _ _ number
        simp only [Setting.bound, UInt32.size] at this
        omega
      exact UInt32.toNat_ofNat_of_lt' small
  · rcases number : f .shutdownTimeoutSeconds with _ | n
    · rfl
    · exact Duration.toNanos_ofSeconds (fits _ _ number)

/-- The judgement about a fault. The kernel would compute the fault of `c`, with a multiplication by
the nanoseconds of a second, if it had to compare the two sides at `c` itself. -/
lemma validate_of_fault {o : Option Fault} :
    c.fault? = o → c.validate =
      match o with
      | none => .ok ()
      | some f => .error (.configuration f.message) := by
  have judges : validate = fun c : Config =>
      match c.fault? with
      | none => .ok ()
      | some f => .error (.configuration f.message) := rfl
  rintro rfl
  exact congrFun judges c

namespace Has

variable (has : c.Has f)

include has

lemma poll_isZero : c.pollInterval.isZero ↔ f .pollIntervalMillis = some 0 := by
  rw [Duration.isZero, has.poll]
  rcases f .pollIntervalMillis with _ | n
  · decide
  · simp

lemma heartbeat_isZero : c.heartbeatInterval.isZero ↔ f .heartbeatSeconds = some 0 := by
  rw [Duration.isZero, has.heartbeat]
  rcases f .heartbeatSeconds with _ | n
  · decide
  · simp

/-- A timeout of zero is none. -/
lemma timeout_notZero : ¬ c.jobTimeout.any Duration.isZero := by
  intro any
  obtain ⟨d, present, zero⟩ := (Option.any_eq_true ..).mp any
  have nanos : d.toNanos = 0 := by simpa [Duration.isZero] using zero
  have timeout := has.timeout
  rw [present, Option.map_some, nanos] at timeout
  rcases number : f .jobTimeoutSeconds with _ | n
  · simp [number] at timeout
  · rw [number, Option.elim_some] at timeout
    split at timeout
    · cases timeout
    · have := Option.some.inj timeout
      omega

lemma limit_eq_zero : c.statusErrorLimit = 0 ↔ f .statusErrorLimit = some 0 := by
  rw [← UInt32.toNat_inj, has.limit]
  rcases f .statusErrorLimit with _ | n
  · decide
  · simp

lemma validate_of_positive (positive : Positive f) : c.validate = .ok () := by
  have fault : c.fault? = none := by
    rw [fault?, if_neg (mt has.poll_isZero.mp positive.poll),
      if_neg (mt has.heartbeat_isZero.mp positive.heartbeat), if_neg has.timeout_notZero,
      if_neg (mt has.limit_eq_zero.mp positive.limit)]
  exact validate_of_fault fault

lemma validate_of_firstZero {fault : Fault} (first : FirstZero f fault) :
    c.validate = .error (.configuration fault.message) := by
  have found : c.fault? = some fault := by
    cases first with
    | poll zero => rw [fault?, if_pos (has.poll_isZero.mpr zero)]
    | heartbeat poll zero =>
      rw [fault?, if_neg (mt has.poll_isZero.mp poll), if_pos (has.heartbeat_isZero.mpr zero)]
    | limit poll heartbeat zero =>
      rw [fault?, if_neg (mt has.poll_isZero.mp poll), if_neg (mt has.heartbeat_isZero.mp heartbeat),
        if_neg has.timeout_notZero, if_pos (has.limit_eq_zero.mpr zero)]
  exact validate_of_fault found

end Has

lemma positive_or_firstZero (f : Setting → Option Nat) :
    Positive f ∨ ∃ fault, FirstZero f fault := by
  by_cases poll : f .pollIntervalMillis = some 0
  · exact .inr ⟨_, .poll poll⟩
  by_cases heartbeat : f .heartbeatSeconds = some 0
  · exact .inr ⟨_, .heartbeat poll heartbeat⟩
  by_cases limit : f .statusErrorLimit = some 0
  · exact .inr ⟨_, .limit poll heartbeat limit⟩
  · exact .inl ⟨poll, heartbeat, limit⟩

lemma FirstZero.not_positive {fault : Fault} (first : FirstZero f fault) : ¬ Positive f := by
  intro positive
  cases first with
  | poll zero => exact positive.poll zero
  | heartbeat poll zero => exact positive.heartbeat zero
  | limit poll heartbeat zero => exact positive.limit zero

lemma fromLookup_eq {asked : List String} {result : Except ManagerError Config}
    (read : readSettings lookup Setting.order {} = (asked, result)) :
    fromLookup lookup = (asked, result.bind fun c => c.validate.bind fun _ => .ok c) := by
  rw [fromLookup, read]
  rfl

lemma reads_fromLookup (lookup : String → Option String) :
    Reads lookup (fromLookup lookup).1 (fromLookup lookup).2 := by
  rcases gives_or_refused lookup Setting.order with
    given | ⟨before, s, after, raw, e, split, given, text, refused⟩
  · choose f gives using fun s => given s s.mem_order
    have has := has_foldl_adopt gives
    rw [fromLookup_eq (readSettings_of_gives {} fun s _ => gives s), Except.bind]
    rcases positive_or_firstZero f with positive | ⟨fault, first⟩
    · rw [has.validate_of_positive positive]
      exact .accepted gives positive has
    · rw [has.validate_of_firstZero first]
      exact .faulty gives first
  · have illegible : ∀ n, ¬ s.Gives (some raw) n := fun n gives => by
      simp [Setting.read_eq_ok_iff.mpr gives] at refused
    have read : readSettings lookup Setting.order {} =
        ((before ++ [s]).map Setting.key, .error (s.refusal raw e)) :=
      split ▸ readSettings_of_refused {} given text refused
    rw [fromLookup_eq read]
    exact .refused e split given text illegible

/-- A configuration is read if the texts of all settings stand for numbers that may be taken, or
for nothing. -/
lemma Reads.ok_iff {asked : List String} {result : Except ManagerError Config}
    (reads : Reads lookup asked result) :
    (∃ c, result = .ok c) ↔
      ∃ f : Setting → Option Nat, (∀ s : Setting, s.Gives (lookup s.key) (f s)) ∧ Positive f := by
  cases reads with
  | @accepted f c gives positive => simpa using ⟨f, gives, positive⟩
  | @refused before after s raw e split given text illegible =>
    simp only [reduceCtorEq, exists_false, false_iff]
    rintro ⟨f, gives, -⟩
    exact illegible (f s) (text ▸ gives s)
  | @faulty f fault gives first =>
    simp only [reduceCtorEq, exists_false, false_iff]
    rintro ⟨f', gives', positive⟩
    obtain rfl : f' = f := funext fun s => (gives' s).unique (gives s)
    exact first.not_positive positive

/-- A configuration that is read is without fault. -/
lemma Reads.validate {asked : List String} (reads : Reads lookup asked (.ok c)) :
    c.validate = .ok () := by
  cases reads with
  | accepted gives positive has => exact has.validate_of_positive positive

/-- Whatever the lookup gives, the settings are asked for and judged as `Reads` says: in their
order, up to the first one that is refused, which the error names with its text as it stands; all
five, when each stands for a number or for nothing, and then the configuration has these numbers or
the error names the first that must not be zero. There is a configuration exactly if no text is
refused and no such number is zero; it is valid, and a manager can be made from it. -/
theorem fromLookup_reads (lookup : String → Option String) :
    Reads lookup (fromLookup lookup).1 (fromLookup lookup).2 ∧
      ((∃ c, (fromLookup lookup).2 = .ok c) ↔
        ∃ f : Setting → Option Nat, (∀ s : Setting, s.Gives (lookup s.key) (f s)) ∧ Positive f) ∧
      ∀ c, (fromLookup lookup).2 = .ok c → c.validate = .ok () ∧
        ∀ sink h, ∃ x, Scene.make c sink h = .ok x ∧ x.setup.config = c := by
  have reads := reads_fromLookup lookup
  refine ⟨reads, reads.ok_iff, fun c read => ?_⟩
  rw [read] at reads
  have valid := reads.validate
  refine ⟨valid, fun sink h => ?_⟩
  rw [Scene.make, valid]
  exact ⟨_, rfl, rfl⟩

end Config
end SerialJobs
