import SerialJobs.Audit.Event
import SerialJobs.Proofs.RoundTrip.Documents
import SerialJobs.Proofs.RoundTrip.Timestamps

/-!
# Values that are read back

Every value with a JSON form is read back from the text it is written as. Texts of documents are
settled for plain values, so for each kind of value two things are left: its JSON form is plain, and
decoding undoes encoding. Decoding sees a record by its fields and a variant by its tag; the lemmas
on records and on tagged records say so once, for any names, and the kinds of values use them with
names of their own.

Points in time are the exception. A leap second within a minute is written as the second after it,
so the values that hold a point in time are read back just where their leap seconds are regular
(`Format.FaithfulOn`). Whatever is read is regular, and so a text that was written again stays as it
is for all kinds of values alike.
-/

namespace SerialJobs

namespace Json

/-! ## Records and variants -/

lemma valuesOf_of_mem {ms : List (String × Json)} (hnodup : (ms.map (·.1)).Nodup)
    {m : String × Json} (hm : m ∈ ms) :
    valuesOf m.1 (ms.map fun m => (some m.1, m.2)) = [m.2] := by
  induction ms with
  | nil => simp at hm
  | cons n ms ih =>
    obtain ⟨hfresh, hnodup⟩ := List.nodup_cons.1 hnodup
    rcases List.mem_cons.1 hm with rfl | hm
    · have hothers : ∀ k ∈ ms, k.1 ≠ m.1 := by
        intro k hk heq
        exact hfresh (List.mem_map.2 ⟨k, hk, heq⟩)
      simpa [valuesOf] using hothers
    · have hne : n.1 ≠ m.1 := by
        intro heq
        exact hfresh (List.mem_map.2 ⟨m, hm, heq.symm⟩)
      simpa [valuesOf, hne] using ih hnodup hm

/-- The fields of a record are its values in order. -/
lemma fields_record {names : List String} {ms : List (String × Json)}
    (hnames : ms.map (·.1) = names) (hnodup : names.Nodup) :
    fields names (record ms) = some (ms.map fun m => some m.2) := by
  have hfields : ∀ ns ⊆ ms, (ns.map (·.1)).mapM
      (fieldOf (ms.map fun m => (some m.1, m.2))) = some (ns.map fun m => some m.2) := by
    intro ns
    induction ns with
    | nil => simp
    | cons n ns ih =>
      intro hsub
      have hvalue := valuesOf_of_mem (hnames ▸ hnodup) (hsub (by simp : n ∈ n :: ns))
      simp [fieldOf, hvalue, ih fun m hm => hsub (by simp [hm])]
  rw [record, fields, if_pos (by simp), ← hnames]
  exact hfields ms fun _ h => h

/-- The tag of a record chooses the variant, and the other members are its parts. -/
lemma tagged_record {tag : String} {ms : List (String × Json)} (htag : ∀ m ∈ ms, m.1 ≠ tag)
    (names : List String) (origin : Origin) (t : String) :
    tagged tag names origin (record ((tag, .str t) :: ms)) =
      (names.idxOf? t).map fun n => (n, record ms) := by
  have hvalues : valuesOf tag (ms.map fun m => (some m.1, m.2)) = [] := by
    simpa [valuesOf] using htag
  have hfield : fieldOf ((tag, Json.str t) :: ms |>.map fun m => (some m.1, m.2)) tag =
      some (some (.str t)) := by
    have : valuesOf tag ((tag, Json.str t) :: ms |>.map fun m => (some m.1, m.2)) = [.str t] := by
      simpa [valuesOf] using hvalues
    rw [fieldOf, this]
  have hrest : ((tag, Json.str t) :: ms |>.map fun m => (some m.1, m.2)).filter
      (fun m => m.1 ≠ some tag) = ms.map fun m => (some m.1, m.2) := by
    rw [List.map_cons, List.filter_cons_of_neg (by simp), List.filter_eq_self]
    intro m hm
    obtain ⟨n, hn, rfl⟩ := List.mem_map.1 hm
    simpa using htag n hn
  simp only [record, tagged, hfield, hrest, tagNumber, Option.bind_eq_bind, Option.bind_some]
  cases names.idxOf? t <;> rfl

lemma required_some {α : Type} {f : Json → Option α} (j : Json) : required f (some j) = f j := rfl

/-- An optional field is read back where a present value is, unless a value is written `null`. -/
lemma optional_ofOption {α : Type} {f : Json → Option α} {g : α → Json} (hnull : ∀ a, g a ≠ .null)
    {o : Option α} (hread : ∀ a ∈ o, f (g a) = some a) :
    optional f (some (ofOption g o)) = some o := by
  cases o with
  | none => rfl
  | some a =>
    have hvalue : optional f (some (g a)) = (f (g a)).map some := by
      cases h : g a <;> first | rfl | exact absurd h (hnull a)
    rw [ofOption, hvalue, hread a rfl, Option.map_some]

lemma optional_text (o : Option String) : optional asString (some (ofOption .str o)) = some o :=
  optional_ofOption (f := asString) (g := .str) (by simp) fun _ _ => rfl

/-- The value of an optional field was read. -/
lemma read_of_optional {α : Type} {f : Json → Option α} {j : Option Json} {o : Option α}
    (read : optional f j = some o) : ∀ a ∈ o, ∃ k, f k = some a := by
  intro a ha
  unfold optional at read
  split at read
  next =>
    obtain rfl := Option.some.inj read
    cases ha
  next =>
    obtain rfl := Option.some.inj read
    cases ha
  next k _ =>
    obtain ⟨b, hb, rfl⟩ := Option.map_eq_some_iff.mp read
    exact ⟨k, hb.trans ha⟩

lemma noFields_record (ms : List (String × Json)) : noFields (record ms) = some () := rfl

lemma asList_map {α : Type} {f : Json → Option α} {g : α → Json} (hread : ∀ a, f (g a) = some a)
    (l : List α) : asList f (.arr (l.map g)) = some l := by
  rw [asList]
  induction l with
  | nil => rfl
  | cons a l ih => simp [hread, ih]

/-! ## Heights -/

lemma memberHeights_le {k : Nat} {ms : List (Option String × Json)}
    (h : ∀ m ∈ ms, m.2.height ≤ k) : memberHeights ms ≤ k := by
  induction ms with
  | nil => simp [memberHeights]
  | cons m ms ih =>
    rw [memberHeights]
    exact Nat.max_le.2 ⟨h m (by simp), ih fun n hn => h n (by simp [hn])⟩

lemma height_record_le {k : Nat} {ms : List (String × Json)} (h : ∀ m ∈ ms, m.2.height ≤ k) :
    (record ms).height ≤ k + 1 := by
  rw [record, height]
  refine Nat.succ_le_succ (memberHeights_le ?_)
  intro m hm
  obtain ⟨n, hn, rfl⟩ := List.mem_map.1 hm
  exact h n hn

end Json

open Json (Plain Origin)

/-! ## Identities -/

namespace JobId

lemma length_hyphenate (n : Nat) (ns : List Nat) (cs : List Char)
    (h : cs.length = (n :: ns).sum) :
    (hyphenate (n :: ns) cs).length = cs.length + ns.length := by
  induction ns generalizing n cs with
  | nil => rfl
  | cons m ns ih =>
    rw [List.sum_cons] at h
    have htail := ih m (cs.drop n) (by rw [List.length_drop]; omega)
    simp only [hyphenate, List.length_append, List.length_cons, htail, List.length_take,
      List.length_drop]
    omega

/-- Grouped digits are found again where the groups use them up. -/
lemma unhyphenate_hyphenate (n : Nat) (ns : List Nat) (cs : List Char)
    (h : cs.length = (n :: ns).sum) :
    unhyphenate (n :: ns) (hyphenate (n :: ns) cs) = some cs := by
  induction ns generalizing n cs with
  | nil =>
    have : cs.length = n := by simpa using h
    simp [hyphenate, unhyphenate, this]
  | cons m ns ih =>
    rw [List.sum_cons] at h
    have htake : (cs.take n).length = n := by rw [List.length_take]; omega
    have htail := ih m (cs.drop n) (by rw [List.length_drop]; omega)
    have hdrop : ∀ ds, (cs.take n ++ ds).drop n = ds := fun ds => List.drop_left' htake
    have hfront : ∀ ds, (cs.take n ++ ds).take n = cs.take n := fun ds => List.take_left' htake
    simp only [hyphenate, unhyphenate, hdrop, hfront, htail, Option.map_some,
      List.take_append_drop]

/-- The text of an identity denotes that identity. -/
theorem ofText?_text (id : JobId) : ofText? id.text = some id := by
  have hlen : (Text.digits 16 32 id.bits.toNat).length = 32 := Text.length_digits 16 32 _
  have hwritten : id.write.length = 36 := by
    rw [write, groups, length_hyphenate _ _ _ hlen, hlen]
    rfl
  have hdigits : digitsIn id.write = some (Text.digits 16 32 id.bits.toNat) := by
    rw [digitsIn, if_neg (by omega), if_pos hwritten]
    exact unhyphenate_hyphenate _ _ _ hlen
  have hbits : id.bits.toNat % 16 ^ 32 = id.bits.toNat := Nat.mod_eq_of_lt id.bits.isLt
  simp only [ofText?, text, String.toList_ofList, hdigits, Option.bind_eq_bind, Option.bind_some,
    Text.ofHex_digits, hbits, ofNat, BitVec.ofNat_toNat, BitVec.setWidth_eq]

lemma ofJson_toJson (id : JobId) : ofJson id.toJson = some id := by
  rw [toJson, ofJson, Json.asString, Option.bind_some, ofText?_text]

lemma plain_toJson (id : JobId) : Plain id.toJson := .str _

end JobId

/-! ## Names -/

namespace KillCommand

lemma ofJson_toJson (origin : Origin) (c : KillCommand) : ofJson origin c.toJson = some c := by
  cases c <;> rfl

lemma plain_toJson (c : KillCommand) : Plain c.toJson := .str _

end KillCommand

namespace TaskStatus

lemma ofJson_toJson (origin : Origin) (s : TaskStatus) : ofJson origin s.toJson = some s := by
  cases s <;> rfl

lemma plain_toJson (s : TaskStatus) : Plain s.toJson := .str _

end TaskStatus

/-! ## Exits and states -/

lemma exitCodeOfJson_toJson (c : Int32) : exitCodeOfJson (exitCodeToJson c) = some c := by
  have hrange : Int32.minValue.toInt ≤ c.toInt ∧ c.toInt ≤ Int32.maxValue.toInt :=
    ⟨c.le_toInt, c.toInt_le⟩
  simp only [exitCodeOfJson, exitCodeToJson, Json.asInt, Option.bind_eq_bind, Option.bind_some,
    if_pos hrange, Int32.ofInt_toInt]

lemma plain_exitCodeToJson (c : Int32) : Plain (exitCodeToJson c) := by
  have hlow := c.le_toInt
  have hhigh := c.toInt_lt
  rw [exitCodeToJson]
  refine .int ?_ ?_ <;> simp only [UInt64.size] <;> omega

namespace Exit

lemma plain_toJson (e : Exit) : Plain e.toJson := by
  cases e <;> refine .record ?_ <;>
    simp [Plain.str, Plain.ofOption, plain_exitCodeToJson, KillCommand.plain_toJson]

lemma height_toJson_le (e : Exit) : e.toJson.height ≤ 1 := by
  have hcode : ∀ o, (Json.ofOption exitCodeToJson o).height = 0 := by rintro (_ | c) <;> rfl
  have htext : ∀ o, (Json.ofOption Json.str o).height = 0 := by rintro (_ | s) <;> rfl
  cases e <;> refine Json.height_record_le ?_ <;>
    simp [Json.height, hcode, htext, KillCommand.toJson]

lemma ofJson_toJson (origin : Origin) (e : Exit) : ofJson origin e.toJson = some e := by
  have hcode : ∀ o, Json.optional exitCodeOfJson (some (.ofOption exitCodeToJson o)) = some o :=
    fun _ => Json.optional_ofOption (by simp [exitCodeToJson]) fun c _ => exitCodeOfJson_toJson c
  cases e <;>
    simp [ofJson, toJson, Json.tagged_record, Json.fields_record, tags, List.idxOf?_cons, ofParts,
      Json.noFields_record, Json.required_some, Json.asString, hcode, Json.optional_text,
      KillCommand.ofJson_toJson]

lemma ofDocument_toJson (e : Exit) : ofDocument e.toJson = some e := by
  have hheight : e.toJson.height ≤ Json.depthLimit :=
    Nat.le_trans e.height_toJson_le (by decide)
  rw [ofDocument, if_pos ⟨e.plain_toJson.keepable, hheight⟩, ofJson_toJson]

end Exit

namespace JobState

lemma plain_toJson (s : JobState) : Plain s.toJson := by
  cases s <;> refine .record ?_ <;> simp [Plain.str, Exit.plain_toJson]

lemma height_toJson_le (s : JobState) : s.toJson.height ≤ 2 := by
  have hexit := Exit.height_toJson_le
  cases s <;> refine Json.height_record_le ?_ <;> simp [Json.height, hexit]

/-- A state is read back wherever a document may hold one. -/
lemma ofJson_toJson (depth : Nat) (hdepth : depth + 2 ≤ Json.depthLimit) (s : JobState) :
    ofJson depth s.toJson = some s := by
  have hheight := s.height_toJson_le
  rw [ofJson, if_pos ⟨s.plain_toJson.keepable, by omega⟩]
  cases s <;>
    simp [toJson, Json.tagged_record, Json.fields_record, tags, List.idxOf?_cons, ofParts,
      Json.noFields_record, Json.required_some, Exit.ofJson_toJson]

end JobState

/-! ## Snapshots and events -/

namespace Timestamp

lemma ofJson_toJson {t : Timestamp} (regular : t.IsRegular) : ofJson t.toJson = some t := by
  rw [toJson, ofJson, Json.asString, Option.bind_some, ofText?_text regular]

lemma isRegular_of_ofJson {j : Json} {t : Timestamp} (read : ofJson j = some t) : t.IsRegular := by
  obtain ⟨s, -, read⟩ := Option.bind_eq_some_iff.mp read
  exact isRegular_of_ofText? read

lemma plain_toJson (t : Timestamp) : Plain t.toJson := .str _

end Timestamp

namespace Occupancy

lemma plain_toJson (c : Occupancy) : Plain c.toJson := by
  refine .record ?_
  simp [Plain.str, Plain.bool, Plain.ofOption, JobId.plain_toJson, Timestamp.plain_toJson]

/-- The job was started at a regular point in time. -/
def IsRegular (c : Occupancy) : Prop := ∀ t ∈ c.startedAt, t.IsRegular

lemma ofJson_toJson {c : Occupancy} (regular : c.IsRegular) : ofJson c.toJson = some c := by
  have hstarted : Json.optional Timestamp.ofJson (some (.ofOption Timestamp.toJson c.startedAt)) =
      some c.startedAt :=
    Json.optional_ofOption (by simp [Timestamp.toJson])
      fun t ht => Timestamp.ofJson_toJson (regular t ht)
  simp [ofJson, toJson, Json.fields_record, Json.required_some, JobId.ofJson_toJson,
    Json.asString, Json.asBool, hstarted]

lemma isRegular_of_ofJson {j : Json} {c : Occupancy} (read : ofJson j = some c) : c.IsRegular := by
  simp only [ofJson, Option.bind_eq_bind, Option.bind_eq_some_iff] at read
  obtain ⟨fields, -, read⟩ := read
  split at read
  next =>
    simp only [Option.bind_eq_some_iff, Option.some.injEq] at read
    obtain ⟨id, -, label, -, started, found, stopping, -, rfl⟩ := read
    intro t ht
    obtain ⟨k, hk⟩ := Json.read_of_optional found t ht
    exact Timestamp.isRegular_of_ofJson hk
  next => simp at read

end Occupancy

namespace Snapshot

lemma plain_toJson (s : Snapshot) : Plain s.toJson := by
  have hqueued : Plain (.arr (s.queued.map JobId.toJson)) := .arr (by simp [JobId.plain_toJson])
  refine .record ?_
  simp [Plain.bool, Plain.ofOption, Occupancy.plain_toJson, hqueued]

/-- The job in the slot was started at a regular point in time. -/
def IsRegular (s : Snapshot) : Prop := ∀ c ∈ s.current, c.IsRegular

lemma ofJson_toJson {s : Snapshot} (regular : s.IsRegular) : ofJson s.toJson = some s := by
  have hcurrent : Json.optional Occupancy.ofJson (some (.ofOption Occupancy.toJson s.current)) =
      some s.current :=
    Json.optional_ofOption (by simp [Occupancy.toJson, Json.record])
      fun c hc => Occupancy.ofJson_toJson (regular c hc)
  simp [ofJson, toJson, Json.fields_record, Json.required_some, Json.asBool, hcurrent,
    Json.asList_map JobId.ofJson_toJson]

lemma isRegular_of_ofJson {j : Json} {s : Snapshot} (read : ofJson j = some s) : s.IsRegular := by
  simp only [ofJson, Option.bind_eq_bind, Option.bind_eq_some_iff] at read
  obtain ⟨fields, -, read⟩ := read
  split at read
  next =>
    simp only [Option.bind_eq_some_iff, Option.some.injEq] at read
    obtain ⟨alive, -, current, found, queued, -, rfl⟩ := read
    intro c hc
    obtain ⟨k, hk⟩ := Json.read_of_optional found c hc
    exact Occupancy.isRegular_of_ofJson hk
  next => simp at read

end Snapshot

namespace JobEvent

lemma millisOfJson_int (n : UInt64) : millisOfJson (.int n.toNat) = some n := by
  simp [millisOfJson, Json.asInt]

lemma plain_toJson (e : JobEvent) : Plain e.toJson := by
  have hruntime : ∀ n : UInt64, Plain (.int n.toNat) := by
    intro n
    have := n.toNat_lt
    refine .int ?_ ?_ <;> simp only [UInt64.size] <;> omega
  refine .record ?_
  simp [Plain.str, Plain.ofOption, hruntime, Timestamp.plain_toJson, JobId.plain_toJson,
    JobState.plain_toJson, TaskStatus.plain_toJson]

/-- The event has a regular point in time. -/
def IsRegular (e : JobEvent) : Prop := e.timestamp.IsRegular

lemma ofJson_toJson {e : JobEvent} (regular : e.IsRegular) : ofJson e.toJson = some e := by
  have hruntime : Json.optional millisOfJson
      (some (.ofOption (fun n : UInt64 => .int n.toNat) e.runtimeMillis)) = some e.runtimeMillis :=
    Json.optional_ofOption (by simp) fun n _ => millisOfJson_int n
  have htime : Timestamp.ofJson e.timestamp.toJson = some e.timestamp :=
    Timestamp.ofJson_toJson regular
  simp [ofJson, toJson, Json.fields_record, Json.required_some, htime, JobId.ofJson_toJson,
    Json.asString, JobState.ofJson_toJson 1 (by decide), TaskStatus.ofJson_toJson, hruntime]

lemma isRegular_of_ofJson {j : Json} {e : JobEvent} (read : ofJson j = some e) : e.IsRegular := by
  simp only [ofJson, Option.bind_eq_bind, Option.bind_eq_some_iff] at read
  obtain ⟨fields, -, read⟩ := read
  split at read
  next =>
    simp only [Option.bind_eq_some_iff, Option.some.injEq] at read
    obtain ⟨timestamp, found, id, -, label, -, state, -, status, -, runtime, -, rfl⟩ := read
    obtain ⟨k, -, hk⟩ := Option.bind_eq_some_iff.mp found
    exact Timestamp.isRegular_of_ofJson hk
  next => simp at read

end JobEvent

/-! ## Formats -/

/-- How the values of a kind are written as JSON and read from it. -/
structure Format (α : Type) where
  toJson : α → Json
  ofJson : Json → Option α

namespace Format

variable {α : Type} (F : Format α)

/-- The compact text of a value. -/
def write (a : α) : String := (F.toJson a).text

/-- The value that a text denotes. -/
def read (s : String) : Option α := (Json.parse s).bind F.ofJson

/-- An accepted text, written again from the value it denotes. -/
def rewrite (s : String) : Option String := (F.read s).map F.write

/-- The text of a value denotes that value just if it satisfies `P`, and an accepted text that was
written again stays as it is. -/
structure FaithfulOn (P : α → Prop) : Prop where
  read_write_iff : ∀ a, F.read (F.write a) = some a ↔ P a
  rewrite_rewrite : ∀ s t, F.rewrite s = some t → F.rewrite t = some t

/-- The text of every value denotes that value, and an accepted text that was written again stays as
it is. -/
def Faithful : Prop := F.FaithfulOn fun _ => True

lemma faithfulOn_of_plain {P : α → Prop} {toJson : α → Json} {ofJson : Json → Option α}
    (hplain : ∀ a, Plain (toJson a)) (hjson : ∀ {a}, P a → ofJson (toJson a) = some a)
    (hread : ∀ {j a}, ofJson j = some a → P a) : (Format.mk toJson ofJson).FaithfulOn P := by
  have written : ∀ {a}, P a → (Format.mk toJson ofJson).read (write ⟨toJson, ofJson⟩ a) = some a := by
    intro a ha
    rw [read, write, (hplain a).parse_text, Option.bind_some]
    exact hjson ha
  have denoted : ∀ {s a}, (Format.mk toJson ofJson).read s = some a → P a := by
    intro s a hs
    obtain ⟨j, -, hj⟩ := Option.bind_eq_some_iff.mp hs
    exact hread hj
  refine ⟨fun a => ⟨denoted, written⟩, ?_⟩
  intro s t hst
  obtain ⟨a, hs, rfl⟩ := Option.map_eq_some_iff.1 hst
  rw [rewrite, written (denoted hs), Option.map_some]

lemma faithful_of_plain {toJson : α → Json} {ofJson : Json → Option α}
    (hplain : ∀ a, Plain (toJson a)) (hjson : ∀ a, ofJson (toJson a) = some a) :
    (Format.mk toJson ofJson).Faithful :=
  faithfulOn_of_plain hplain (fun {a} _ => hjson a) fun _ => trivial

end Format

/-- Identities in JSON. -/
def JobId.format : Format JobId := ⟨JobId.toJson, JobId.ofJson⟩

/-- Kill commands in JSON. -/
def KillCommand.format : Format KillCommand := ⟨KillCommand.toJson, KillCommand.ofJson .document⟩

/-- Task statuses in JSON. -/
def TaskStatus.format : Format TaskStatus := ⟨TaskStatus.toJson, TaskStatus.ofJson .document⟩

/-- Exits in JSON. -/
def Exit.format : Format Exit := ⟨Exit.toJson, Exit.ofDocument⟩

/-- States in JSON. -/
def JobState.format : Format JobState := ⟨JobState.toJson, JobState.ofJson 0⟩

/-- Current jobs in JSON. -/
def Occupancy.format : Format Occupancy := ⟨Occupancy.toJson, Occupancy.ofJson⟩

/-- Snapshots in JSON. -/
def Snapshot.format : Format Snapshot := ⟨Snapshot.toJson, Snapshot.ofJson⟩

/-- Events of jobs in JSON. -/
def JobEvent.format : Format JobEvent := ⟨JobEvent.toJson, JobEvent.ofJson⟩

lemma JobEvent.faithfulOn : JobEvent.format.FaithfulOn JobEvent.IsRegular :=
  Format.faithfulOn_of_plain plain_toJson ofJson_toJson isRegular_of_ofJson

/-- Whatever the identity, the code, the text and the run time, and whichever optional fields are
there, a value is read back from its text, if it holds no leap second within a minute, and only
then; no time that is taken from a clock does. With any format an accepted text that was written
again stays as it is. -/
theorem formats_faithful :
    JobId.format.Faithful ∧ KillCommand.format.Faithful ∧ TaskStatus.format.Faithful ∧
      Exit.format.Faithful ∧ JobState.format.Faithful ∧
      Occupancy.format.FaithfulOn Occupancy.IsRegular ∧
      Snapshot.format.FaithfulOn Snapshot.IsRegular ∧
      JobEvent.format.FaithfulOn JobEvent.IsRegular ∧ ∀ n, (Timestamp.ofNanos n).IsRegular := by
  refine ⟨?_, ?_, ?_, ?_, ?_, ?_, ?_, ?_, Timestamp.isRegular_ofNanos⟩
  · exact Format.faithful_of_plain JobId.plain_toJson JobId.ofJson_toJson
  · exact Format.faithful_of_plain KillCommand.plain_toJson (KillCommand.ofJson_toJson .document)
  · exact Format.faithful_of_plain TaskStatus.plain_toJson (TaskStatus.ofJson_toJson .document)
  · exact Format.faithful_of_plain Exit.plain_toJson Exit.ofDocument_toJson
  · exact Format.faithful_of_plain JobState.plain_toJson (JobState.ofJson_toJson 0 (by decide))
  · exact Format.faithfulOn_of_plain Occupancy.plain_toJson Occupancy.ofJson_toJson
      Occupancy.isRegular_of_ofJson
  · exact Format.faithfulOn_of_plain Snapshot.plain_toJson Snapshot.ofJson_toJson
      Snapshot.isRegular_of_ofJson
  · exact JobEvent.faithfulOn

/-- Thirty seconds after half past twelve, with a leap second there and then. -/
def Timestamp.halfMinute : Timestamp :=
  ⟨⟨2016, 12, 31, by decide, by decide, by decide⟩, 12, 30, 30, 1500000000, by decide, by decide,
    by decide, by decide⟩

namespace JobEvent

/-- A job starts at the given time. -/
def startedAt (t : Timestamp) : JobEvent := ⟨t, .ofNat 7, "scan", .running, .running, none⟩

/-- The event in that leap second is not read back from its text, which denotes the event half a
second after the second that follows. -/
theorem reread_halfMinute :
    let e := startedAt .halfMinute
    let later := startedAt (Timestamp.halfMinute.shifted (by decide))
    format.read (format.write e) ≠ some e ∧ format.read (format.write e) = some later ∧
      (later.timestamp.second, later.timestamp.nano) = (31, 500000000) := by
  intro e later
  have within : Timestamp.halfMinute.second < 59 := by decide
  have written : format.write e = format.write later := by
    have text : e.timestamp.text = later.timestamp.text :=
      Timestamp.text_eq_shifted (by decide) within
    simp only [Format.write, format, toJson, Timestamp.toJson, text]
    rfl
  have irregular : ¬e.IsRegular := fun regular => absurd (regular (by decide)) (by decide)
  have regular : later.IsRegular := Timestamp.isRegular_shifted within
  refine ⟨fun read => irregular ((faithfulOn.read_write_iff e).mp read), ?_, rfl⟩
  rw [written]
  exact (faithfulOn.read_write_iff later).mpr regular

end JobEvent
end SerialJobs
