import SerialJobs.Proofs.Discipline.Course
import SerialJobs.Proofs.Oversight

/-!
# How long failed status checks are borne

Without a job timeout, what the status checks have said decides how long a job is looked at: until
it reports an exit, or is given up, because of an error that is not transient or because as many
checks as the limit says have failed in a row. Signals that were not delivered do not matter.
`Borne` says of all calls on a job that they have led to neither; `borne_iff_watches` says that this
is so exactly as long as the job has the slot without a termination under way, and what the next
check leads to.

The manager keeps a counter, and `GivesUp` looks back over a row of checks. The two are tied together
by `streak`, the number of checks that have failed in a row by now (`tallied_tally`).
-/

namespace SerialJobs

/-! ## Rows of failed checks -/

/-- The call failed. -/
def Outcome.Fails {α : Type} (x : Outcome α) : Prop := ∃ f, x.guarded = .error f

instance {α : Type} (x : Outcome α) : Decidable x.Fails :=
  match h : x.guarded with
  | .ok _ => .isFalse fun ⟨_, hf⟩ => by cases h.symm.trans hf
  | .error f => .isTrue ⟨f, h⟩

/-- How many status checks have failed in a row by now. -/
def streak (xs : List (Outcome (Option Exit))) : Nat :=
  (xs.reverse.takeWhile fun x => x.Fails).length

/-- After the last of the status checks `xs` the job is given up for its error `f`: the error is not
transient, or as many checks as the limit says have failed in a row. -/
def GivesUp (limit : Nat) (xs : List (Outcome (Option Exit))) (f : JobError) : Prop :=
  (∃ x, xs.getLast? = some x ∧ x.guarded = .error f) ∧
    (f.isTransient = false ∨ ∃ row, row <:+ xs ∧ row.length = limit ∧ ∀ x ∈ row, x.Fails)

section Rows

variable {limit k : Nat} {xs : List (Outcome (Option Exit))} {x : Outcome (Option Exit)}
  {f : JobError}

lemma streak_append_of_fails (h : x.Fails) : streak (xs ++ [x]) = streak xs + 1 := by
  simp [streak, h]

lemma streak_append_of_not_fails (h : ¬x.Fails) : streak (xs ++ [x]) = 0 := by
  simp [streak, h]

/-- The last checks have all failed. -/
lemma le_streak_iff :
    k ≤ streak xs ↔ ∃ row, row <:+ xs ∧ row.length = k ∧ ∀ x ∈ row, x.Fails := by
  induction xs using List.reverseRecOn generalizing k with
  | nil => simp [streak, eq_comm]
  | append_singleton xs x ih =>
    cases k with
    | zero => exact iff_of_true (Nat.zero_le _) ⟨[], List.nil_suffix, rfl, by simp⟩
    | succ k =>
      by_cases hx : x.Fails
      · rw [streak_append_of_fails hx, Nat.add_le_add_iff_right, ih]
        constructor
        · rintro ⟨row, suffix, rfl, fails⟩
          refine ⟨row ++ [x], ?_, by simp, ?_⟩
          · exact List.suffix_concat_iff.mpr (.inr ⟨row, rfl, suffix⟩)
          · exact List.forall_mem_append.mpr ⟨fails, List.forall_mem_singleton.mpr hx⟩
        · rintro ⟨row, suffix, length, fails⟩
          rcases List.suffix_concat_iff.mp suffix with rfl | ⟨row, rfl, inner⟩
          · simp at length
          · refine ⟨row, inner, by simpa using length, ?_⟩
            exact (List.forall_mem_append.mp fails).1
      · rw [streak_append_of_not_fails hx]
        refine iff_of_false (by simp) ?_
        rintro ⟨row, suffix, length, fails⟩
        rcases List.suffix_concat_iff.mp suffix with rfl | ⟨row, rfl, inner⟩
        · simp at length
        · exact hx (fails x (by simp))

/-- Whether the job is given up after one more check. -/
lemma givesUp_append_iff :
    GivesUp limit (xs ++ [x]) f ↔
      x.guarded = .error f ∧ (f.isTransient = false ∨ limit ≤ streak xs + 1) := by
  rw [GivesUp, ← le_streak_iff]
  simp only [List.getLast?_append, List.getLast?_singleton, Option.some_or, Option.some.injEq,
    exists_eq_left']
  refine and_congr_right fun hf => ?_
  rw [streak_append_of_fails ⟨f, hf⟩]

lemma not_givesUp_nil : ¬GivesUp limit [] f := by simp [GivesUp]

/-- The tally of the checks: the failed ones in a row if the job was never given up. -/
inductive Tallied (limit : Nat) (xs : List (Outcome (Option Exit))) : Tally → Prop
  | counting (never : ∀ l f, l <+: xs → ¬GivesUp limit l f) : Tallied limit xs (.counting (streak xs))
  | givenUp {l : List (Outcome (Option Exit))} {f : JobError} (before : l <+: xs)
      (gives : GivesUp limit l f) : Tallied limit xs (.givenUp f)

/-- One more check. -/
lemma Tallied.next {k : Tally} (h : Tallied limit xs k) :
    Tallied limit (xs ++ [x]) (k.next limit (.tryExit x)) := by
  cases h with
  | givenUp before gives => exact .givenUp (before.trans (List.prefix_append ..)) gives
  | counting never =>
    have never_of : (∀ f, ¬GivesUp limit (xs ++ [x]) f) →
        ∀ l f, l <+: xs ++ [x] → ¬GivesUp limit l f := by
      intro last l f before
      rcases List.prefix_concat_iff.mp before with rfl | before
      · exact last f
      · exact never l f before
    cases hx : x.guarded with
    | ok a =>
      have succeeds : ¬x.Fails := by
        rintro ⟨f, hf⟩
        cases hx.symm.trans hf
      have row : streak (xs ++ [x]) = 0 := streak_append_of_not_fails succeeds
      simp only [Tally.next, hx, ← row]
      exact .counting (never_of fun f gives => succeeds ⟨f, (givesUp_append_iff.mp gives).1⟩)
    | error f =>
      simp only [Tally.next, hx]
      split
      next h =>
        refine .givenUp (List.prefix_refl _) (givesUp_append_iff.mpr ⟨hx, ?_⟩)
        simpa only [Bool.or_eq_true, Bool.not_eq_true', decide_eq_true_eq] using h
      next h =>
        simp only [Bool.or_eq_true, Bool.not_eq_true', decide_eq_true_eq] at h
        have row : streak (xs ++ [x]) = streak xs + 1 := streak_append_of_fails ⟨f, hx⟩
        rw [← row]
        refine .counting (never_of fun g gives => h ?_)
        obtain ⟨hg, last⟩ := givesUp_append_iff.mp gives
        obtain rfl : f = g := Except.error.inj (hx.symm.trans hg)
        exact last

end Rows

/-! ## The checks among the calls -/

/-- The call, if it is one on the job of the given number. -/
def Event.exchange? (n : Nat) : Event → Option Exchange
  | .call t x => if t.number = n then some x else none
  | _ => none

/-- What a status check has said. -/
def Exchange.status? : Exchange → Option (Outcome (Option Exit))
  | .tryExit x => some x
  | _ => none

/-- What the status checks among the calls have said. -/
def statuses (cs : List Exchange) : List (Outcome (Option Exit)) := cs.filterMap Exchange.status?

lemma mem_statuses {cs : List Exchange} {x : Outcome (Option Exit)} :
    x ∈ statuses cs ↔ .tryExit x ∈ cs := by
  rw [statuses, List.mem_filterMap]
  constructor
  · rintro ⟨y, hy, eq⟩
    cases y <;> simp_all [Exchange.status?]
  · exact fun h => ⟨_, h, rfl⟩

/-- The tally goes by the status checks. -/
theorem tallied_tally (limit : Nat) (cs : List Exchange) :
    Tallied limit (statuses cs) (tally limit cs) := by
  induction cs using List.reverseRecOn with
  | nil =>
    refine .counting fun l f before => ?_
    rw [List.prefix_nil.mp before]
    exact not_givesUp_nil
  | append_singleton cs y ih =>
    rw [tally_append_singleton]
    cases y with
    | tryExit x =>
      have split : statuses (cs ++ [.tryExit x]) = statuses cs ++ [x] := by
        simp [statuses, Exchange.status?]
      rw [split]
      exact ih.next
    | _ =>
      -- other calls are neither checks nor counted
      simp only [statuses, List.filterMap_append, List.filterMap_cons, Exchange.status?,
        List.filterMap_nil, List.append_nil]
      cases h : tally limit cs <;> simpa only [h, Tally.next, statuses] using ih

/-- The calls on a job have led neither to a reported exit nor to its being given up, nor was a
signal delivered, nor has a stop waited for it. -/
structure Borne (limit : Nat) (cs : List Exchange) : Prop where
  started : .start (.ok ()) ∈ cs
  undelivered : Undelivered cs
  unawaited : ∀ w, .wait w ∉ cs
  present : ∀ e, .ok (some e) ∉ statuses cs
  patient : ∀ xs f, xs <+: statuses cs → ¬GivesUp limit xs f

/-- The dealings that have led to a docket without a termination. -/
lemma Dealt.borne {limit : Nat} {l : List Dealing} {d : Docket} (h : Dealt limit l d)
    (unstopped : d.stop = none) :
    Borne limit (calls l) ∧ d.errors = streak (statuses (calls l)) := by
  have tallied := tallied_tally limit (calls l)
  rw [(h.running unstopped).2] at tallied
  generalize hk : Tally.counting d.errors = k at tallied
  cases tallied with
  | givenUp => cases hk
  | counting never =>
    refine ⟨⟨h.started, h.undelivered.mpr (Dealt.not_delivered unstopped), h.last, ?_, never⟩, ?_⟩
    · exact fun e he => h.present e (mem_statuses.mp he)
    · exact Tally.counting.inj hk

/-! ## Nothing else ends it -/

section InTime

variable {J E : Type} {s : Setup J E} {t : Ticket} {d d' : Docket} {es : List Event}

/-- Without a job timeout no job is overdue. -/
lemma Heed.inTime (unlimited : s.config.jobTimeout = none) (h : Heed s t d es d') :
    ∀ e ∈ es, e.tellsOverdue = false := by
  cases h with
  | overdue h limited => simp [unlimited] at limited
  | unconfirmed delivered remark alive =>
    exact List.forall_mem_cons.mpr ⟨remark.not_tellsOverdue, by simp [Event.tellsOverdue]⟩
  | _ => simp [Event.tellsOverdue]

lemma Tended.inTime (unlimited : s.config.jobTimeout = none) (h : Tended s t d es d') :
    ∀ e ∈ es, e.tellsOverdue = false := by
  induction h with
  | refl => simp
  | step past last ih => exact List.forall_mem_append.mpr ⟨last.inTime unlimited, ih⟩

lemma Exited.inTime (unlimited : s.config.jobTimeout = none) {x e : Exit}
    (h : Exited s t d x e es) : ∀ e ∈ es, e.tellsOverdue = false := by
  cases h with
  | intro remarks hr tended yields =>
    exact List.forall_mem_append.mpr ⟨fun e he => (hr e he).not_tellsOverdue,
      List.forall_mem_cons.mpr ⟨rfl, tended.inTime unlimited⟩⟩

lemma Manager.LastSignal.inTime {o : Occupant J} {x : Outcome Unit} {e : Exit}
    (h : Manager.LastSignal o x es e) : ∀ a ∈ es, a.tellsOverdue = false := by
  cases h <;> simp [Event.tellsOverdue]

/-- A start tells of no job that is overdue. -/
lemma inTime_start {tr : Transition} {x : Outcome Unit} (told : ∀ e ∈ es, e.IsRemark) :
    ∀ e ∈ .moved tr :: es ++ [.call t (.start x)], e.tellsOverdue = false := by
  refine List.forall_mem_cons.mpr ⟨rfl, List.forall_mem_append.mpr ⟨?_, ?_⟩⟩
  · exact fun e he => (told e he).not_tellsOverdue
  · exact List.forall_mem_singleton.mpr rfl

/-- A dealing is overdue only where that was told. -/
lemma inTime_dealingsFrom {n : Nat} (h : ∀ e ∈ es, e.tellsOverdue = false) :
    ∀ y ∈ dealingsFrom n es, y.overdue = false := by
  induction es with
  | nil => simp [dealingsFrom]
  | cons e es ih =>
    have rest := ih fun x hx => h x (List.mem_cons_of_mem e hx)
    cases e with
    | call u x =>
      have head : es.head?.any Event.tellsOverdue = false := by
        cases es with
        | nil => rfl
        | cons e' es => exact h e' (by simp)
      simp only [dealingsFrom]
      split_ifs
      · exact List.forall_mem_cons.mpr ⟨head, rest⟩
      · exact rest
    | _ => exact rest

end InTime

namespace Manager

variable {J E : Type} {s : Setup J E} {m m' : Manager J E} {n : Nat}

/-- No job was ever found overdue. -/
def InTime (m : Manager J E) : Prop := ∀ e ∈ m.past, e.tellsOverdue = false

lemma InTime.add (h : m.InTime) (es : List Event) (past : m'.past = es ++ m.past)
    (new : ∀ e ∈ es, e.tellsOverdue = false) : m'.InTime := by
  rw [InTime, past]
  exact List.forall_mem_append.mpr ⟨new, h⟩

lemma InTime.depart (h : m.InTime) {o : Occupant J} {w : Option WaitOutcome} {e : Exit}
    (departed : Departed s m o w e m') : m'.InTime := by
  obtain ⟨told, es, remarks, past, last, hTold, hRemarks⟩ := departed.past
  refine h.add _ past fun x hx => ?_
  simp only [List.mem_append] at hx
  rcases hx with ((hx | hx) | hx) | hx
  · exact (hTold x hx).not_tellsOverdue
  · obtain ⟨y, rfl⟩ := eq_of_mem_waitCall hx
    rfl
  · exact last.inTime x hx
  · exact (hRemarks x hx).not_tellsOverdue

/-- Without a job timeout no job is ever found overdue. -/
lemma abiding_inTime (unlimited : s.config.jobTimeout = none) :
    Abiding s fun _ (m : Manager J E) => m.InTime where
  lasting _ :=
    { happen := fun h news => h.add [_] rfl
        (List.forall_mem_singleton.mpr news.not_tellsOverdue)
      advance := by
        intro m m' t h step
        cases step with
        | rest es slot queue handles past told =>
          exact h.add _ past fun e he => (told e he).not_tellsOverdue
        | started es free head slot queue handles past told =>
          exact h.add _ (past.trans (List.append_cons ..)) (inTime_start told)
        | startFailed es free head slot queue handles past failed told =>
          exact h.add _ (past.trans (List.append_cons ..)) (inTime_start told)
        | kept held next slot queue handles past attends tended =>
          exact h.add _ past (tended.inTime unlimited)
        | released held slot queue handles past attends exited yielded =>
          exact h.add (_ :: _) past
            (List.forall_mem_cons.mpr ⟨rfl, yielded.inTime unlimited⟩) }
  pass h := h
  register _ h := h.add [_] rfl (by simp [Event.tellsOverdue])
  enqueue h := h
  depart h departed := h.depart departed
  finish h departed := (h.depart departed).add [_] rfl (by simp [Event.tellsOverdue])
  drain h := h

/-! ## The counter -/

/-- A 32-bit counter can be raised up to its greatest value. -/
lemma toNat_succ_of_lt {k : Nat} (h : k + 1 < UInt32.size) : (UInt32.ofNat k + 1).toNat = k + 1 := by
  have small : k < UInt32.size := Nat.lt_of_succ_lt h
  rw [UInt32.toNat_add, UInt32.toNat_ofNat_of_lt' small]
  exact Nat.mod_eq_of_lt h

/-- The counter of failed checks in a row does not exceed the limit, and stays below it as long as
no termination is under way. -/
def Counted (limit : Nat) (m : Manager J E) : Prop :=
  ∀ o, m.slot = some o → o.statusErrors ≤ limit ∧ (o.stop = none → o.statusErrors < limit)

lemma Counted.free (limit : Nat) (free : m.slot = none) : m.Counted limit := by
  intro o held
  simp [free] at held

/-- A termination that begins stops the counter. -/
lemma Next.counted {o : Occupant J} {p : Option PendingStop} {k : Nat} (next : Next s o k p)
    (positive : 0 < s.config.statusErrorLimit.toNat)
    (below : o.statusErrors ≤ s.config.statusErrorLimit.toNat)
    (unstopped : o.stop = none → o.statusErrors < s.config.statusErrorLimit.toNat) :
    k ≤ s.config.statusErrorLimit.toNat ∧ (p = none → k < s.config.statusErrorLimit.toNat) := by
  cases next with
  | running h => omega
  | erring h hlt => omega
  | spared h => exact ⟨below, fun _ => unstopped h⟩
  | overdue h b => exact ⟨Nat.zero_le _, by simp⟩
  | unreadable h reason b => exact ⟨unstopped h, by simp⟩
  | killed h c => exact ⟨below, by simp⟩
  | pursued h b hb => exact ⟨below, by simp⟩

lemma abiding_counted (positive : 0 < s.config.statusErrorLimit.toNat) :
    Abiding s fun _ (m : Manager J E) => m.Counted s.config.statusErrorLimit.toNat where
  lasting _ :=
    { happen := fun h _ => h
      advance := by
        intro m m' t h step
        cases step with
        | rest es slot queue handles past told => exact fun o held => h o (slot ▸ held)
        | started es free head slot queue handles past told =>
          intro o held
          obtain rfl := Option.some.inj (slot.symm.trans held)
          exact ⟨Nat.zero_le _, fun _ => positive⟩
        | startFailed es free head slot queue handles past failed told => exact .free _ slot
        | kept held next slot queue handles past attends tended =>
          intro o held'
          obtain rfl := Option.some.inj (slot.symm.trans held')
          obtain ⟨below, unstopped⟩ := h _ held
          exact next.counted positive below unstopped
        | released held slot queue handles past attends exited yielded => exact .free _ slot }
  pass h := h
  register _ h := h
  enqueue h := h
  depart _ departed := .free _ departed.slot
  finish _ departed := .free _ departed.slot
  drain h := h

/-! ## Every job that is looked at -/

/-- The job of the submission has the slot, and no termination is under way. -/
def Watches (m : Manager J E) (n : Nat) : Prop :=
  ∃ o, m.slot = some o ∧ o.ticket.number = n ∧ o.stop = none

/-- All calls on the job, in order. -/
lemma calls_dealings (m : Manager J E) (n : Nat) :
    calls (m.dealings n) = m.history.filterMap (Event.exchange? n) := by
  have from_eq : ∀ es : List Event,
      calls (dealingsFrom n es) = es.filterMap (Event.exchange? n) := by
    intro es
    induction es with
    | nil => rfl
    | cons e es ih =>
      cases e with
      | call u x =>
        simp only [dealingsFrom, List.filterMap_cons, Event.exchange?]
        split_ifs
        · exact congrArg (x :: ·) ih
        · exact ih
      | _ => exact ih
  exact from_eq m.past.reverse

lemma mem_calls_of_past {t : Ticket} {x : Exchange} (h : .call t x ∈ m.past) :
    x ∈ calls (m.dealings t.number) := by
  rw [calls_dealings, List.mem_filterMap]
  exact ⟨_, List.mem_reverse.mpr h, by simp [Event.exchange?]⟩

/-- The calls that count are those that are not signals in vain. -/
lemma callsOn_eq_filter (m : Manager J E) (n : Nat) :
    m.callsOn n = (calls (m.dealings n)).filter fun x => ¬x.IsVain := by
  rw [calls_dealings, List.filter_filterMap, callsOn, callsIn]
  congr
  funext e
  cases e with
  | call t x =>
    by_cases ht : t.number = n
    · by_cases hx : x.IsVain <;> simp [Event.exchange?, Event.callOn?, Option.filter, ht, hx]
    · simp [Event.exchange?, Event.callOn?, ht]
  | _ => rfl

/-- The calls on a job that has started and was neither sent a signal that was delivered nor waited
for account for its end: it has reported an exit. -/
lemma Accounted.reported (h : Accounted s [] m) {e : Exit} (hn : m.state? n = some (.finished e))
    (started : .start (.ok ()) ∈ calls (m.dealings n)) (undelivered : Undelivered (calls (m.dealings n)))
    (unawaited : ∀ w, .wait w ∉ calls (m.dealings n)) :
    .ok (some e) ∈ statuses (calls (m.dealings n)) := by
  have attributed := h.finished n e hn
  simp only [callsOn_eq_filter] at attributed
  have last := attributed.exited (by simpa [Exchange.IsVain] using started)
    (fun c hc => undelivered c (List.mem_of_mem_filter hc)) ?_
  · exact mem_statuses.mpr (List.mem_of_mem_filter (List.mem_of_getLast? last))
  · rintro ⟨w, hw⟩
    exact unawaited w (List.mem_of_mem_filter hw)

/-- What becomes of the job at its next status check, which says `x` after the checks `xs`: the tick
of the iteration, and the manager after it. -/
inductive Looked (limit : Nat) (xs : List (Outcome (Option Exit))) (x : Outcome (Option Exit))
    (o : Occupant J) (m : Manager J E) : Tick → Manager J E → Prop
  | running {m' : Manager J E} (reads : x = .ok none) (watches : m'.Watches o.ticket.number) :
      Looked limit xs x o m (.stillRunning o.ticket.id) m'
  | erring {f : JobError} {m' : Manager J E} (failed : x.guarded = .error f)
      (bears : ¬GivesUp limit (xs ++ [x]) f) (watches : m'.Watches o.ticket.number) :
      Looked limit xs x o m (.statusError o.ticket.id) m'
  | exited {e : Exit} {m' : Manager J E} (reads : x = .ok (some e))
      (state : m'.state? o.ticket.number = some (.finished e)) :
      Looked limit xs x o m (.finished o.ticket.id) m'
  | givenUp {f : JobError} {k : Tick} {m' : Manager J E} (gives : GivesUp limit (xs ++ [x]) f)
      (ending : Ending o (.unresponsive f.message) m k m') : Looked limit xs x o m k m'

section Looks

variable {o : Occupant J} {out : List Nat} {env : E} {rs : List (Request J E)}

/-- The row of checks goes on with the one of the next iteration. -/
lemma statuses_work (held : m.slot = some o) (unstopped : o.stop = none) :
    statuses (calls (m.dealings o.ticket.number)) ++ [m.status s o] <+:
      statuses (calls ((m.work s).2.dealings o.ticket.number)) := by
  have history : m.history ++ [.call o.ticket (.tryExit (m.status s o))] <+:
      (m.work s).2.history := by
    simpa [Manager.history] using List.reverse_prefix.mpr (looks_work held unstopped)
  have looks := (history.filterMap (Event.exchange? o.ticket.number)).filterMap Exchange.status?
  simpa [calls_dealings, statuses, Event.exchange?, Exchange.status?] using looks

/-- Where there is no job timeout, the counter decides, and it counts the row of failed checks. -/
lemma looked_of_turned {k : Tick} (turned : Turned s o m k m') (unstopped : o.stop = none)
    (unlimited : s.config.jobTimeout = none)
    (dealt : Dealt s.config.statusErrorLimit.toNat (m.dealings o.ticket.number) o.docket) :
    Looked s.config.statusErrorLimit.toNat (statuses (calls (m.dealings o.ticket.number)))
      (m.status s o) o m k m' := by
  have errors : o.statusErrors = streak (statuses (calls (m.dealings o.ticket.number))) :=
    (dealt.borne unstopped).2
  cases turned with
  | running reads early slot => exact .running reads ⟨_, slot, rfl, unstopped⟩
  | @erring j f _ failed transient below slot =>
    refine .erring failed ?_ ⟨_, slot, rfl, unstopped⟩
    rw [givesUp_append_iff, ← errors]
    rintro ⟨-, fatal | reached⟩
    · simp [transient] at fatal
    · omega
  | exited reads state => exact .exited reads state
  | overdue reads late ending =>
    have limited := late.limited
    simp [unlimited] at limited
  | unreadable failed last ending =>
    exact .givenUp (givesUp_append_iff.mpr ⟨failed, errors ▸ last⟩) ending

/-- A job that is looked at has had nothing happen to it that would end that. -/
lemma borne_of_watches (disciplined : Disciplined s [] m) (h : m.Watches n) :
    Borne s.config.statusErrorLimit.toNat (calls (m.dealings n)) := by
  obtain ⟨o, held, rfl, unstopped⟩ := h
  exact ((disciplined.held o held).borne unstopped).1

/-- Where a job has the slot and nothing has happened to it that would end that, no termination is
under way. -/
lemma unstopped_of_borne {limit : Nat} {l : List Dealing} {d : Docket} (h : Dealt limit l d)
    (inTime : ∀ y ∈ l, y.overdue = false) (borne : Borne limit (calls l)) : d.stop = none := by
  rcases hp : d.stop with _ | p
  · rfl
  · exfalso
    have before : p.signalled = false := by
      rw [Bool.eq_false_iff]
      exact fun delivered => h.undelivered.mp borne.undelivered ⟨p, hp, delivered⟩
    rcases (h.pending p hp before).2 with ⟨y, hy, overdue⟩ | ⟨f, givenUp⟩
    · simp [inTime y hy] at overdue
    · have tallied := tallied_tally limit (calls l)
      rw [givenUp] at tallied
      cases tallied with
      | givenUp before gives => exact borne.patient _ _ before gives

/-- Whatever the state of its handle, a job to which nothing has happened that would end that has
the slot and is looked at. -/
lemma watches_of_borne (valid : s.config.fault? = none) (unlimited : s.config.jobTimeout = none)
    (borne : Borne s.config.statusErrorLimit.toNat
      (calls ((after s (.fresh env) rs).dealings n))) : (after s (.fresh env) rs).Watches n := by
  obtain ⟨disciplined, -⟩ := since_after s env rs
  obtain ⟨out, represented, forsaken⟩ := (located_after valid env rs).represented
  have accounted := accounted_after s env rs
  have inTime : (after s (.fresh env) rs).InTime :=
    (abiding_inTime unlimited).after (P := fun _ m => m.InTime) (by simp [InTime, fresh]) rs
  generalize after s (.fresh env) rs = m at *
  have met : ¬∀ st, m.state? n = some st → st = .queued := by
    intro queued
    have started := borne.started
    rw [disciplined.unmet n queued] at started
    cases started
  rcases hst : m.state? n with _ | st
  · exact absurd (by simp [hst]) met
  · cases st with
    | queued => exact absurd (by simp [hst]) met
    | running =>
      rcases mem_busy_iff.mp ((represented.placed.running_iff n).mp hst) with occupies | taken
      · obtain ⟨o, held, rfl⟩ := Option.map_eq_some_iff.mp occupies
        refine ⟨o, held, rfl, unstopped_of_borne (disciplined.held o held) ?_ borne⟩
        exact inTime_dealingsFrom fun e he => inTime e (List.mem_reverse.mp he)
      · obtain ⟨t, p, hp, rfl⟩ := forsaken n taken
        exact absurd (mem_calls_of_past hp) (borne.unawaited _)
    | finished e =>
      exact absurd (accounted.reported hst borne.started borne.undelivered borne.unawaited)
        (borne.present e)

end Looks

/-- Without a job timeout, after any requests, a job is looked at exactly as long as it has started,
no signal was delivered to it, no stop has waited for it, and its status checks have neither
reported an exit nor given cause to give it up. The next iteration keeps it so if the check says
that it is running or fails without such a cause; it finishes the job if the check reports an exit,
and otherwise begins a termination with the signal of the timeout. The counter of failed checks
does not exceed the limit, so that it never overflows. -/
theorem borne_iff_watches (valid : s.config.fault? = none) (unlimited : s.config.jobTimeout = none)
    (env : E) (rs : List (Request J E)) :
    let limit := s.config.statusErrorLimit.toNat
    let m := after s (.fresh env) rs
    (∀ n, m.Watches n ↔ Borne limit (calls (m.dealings n))) ∧
    ∀ o, m.slot = some o → o.statusErrors ≤ limit ∧ (o.stop = none →
      let xs := statuses (calls (m.dealings o.ticket.number))
      Looked limit xs (m.status s o) o m (m.work s).1 (m.work s).2 ∧
        xs ++ [m.status s o] <+: statuses (calls ((m.work s).2.dealings o.ticket.number)) ∧
        o.statusErrors = streak xs ∧
        (UInt32.ofNat o.statusErrors + 1).toNat = o.statusErrors + 1 ∧
        o.statusErrors + 1 ≤ limit) := by
  intro limit m
  obtain ⟨disciplined, -⟩ := since_after s env rs
  have counted : m.Counted limit :=
    (abiding_counted (Config.statusErrorLimit_pos valid)).after (P := fun _ m => m.Counted limit)
      (.free _ rfl) rs
  refine ⟨fun n => ⟨borne_of_watches disciplined, watches_of_borne valid unlimited⟩, ?_⟩
  intro o held
  obtain ⟨within, below⟩ := counted o held
  refine ⟨within, fun unstopped => ?_⟩
  obtain ⟨out, placed⟩ := disciplined.placed
  have dealt := disciplined.held o held
  refine ⟨?_, statuses_work held unstopped, (dealt.borne unstopped).2, ?_, below unstopped⟩
  · exact looked_of_turned (turned_work placed held unstopped) unstopped unlimited dealt
  · have bound : limit < UInt32.size := s.config.statusErrorLimit.toNat_lt
    exact toNat_succ_of_lt (Nat.lt_of_le_of_lt (below unstopped) bound)

/-- Two failed status checks in a row are one too many. -/
def impatient : Setup Worker Host := { Setup.bare with config := { statusErrorLimit := 2 } }

/-- A script whose status cannot be read, then can, and then cannot be read any more. No signal gets
through to it. -/
def flaky : Worker :=
  .script ⟨.ofNat 1, "scan", .always (.ok ()),
    ⟨.error (.statusUnavailable "busy"), [.ok none, .error (.statusUnavailable "gone")]⟩,
    .always (.error (.terminateFailed "deaf")), .always ⟨0, some (.ok .completed)⟩⟩

/-- The script is looked at three times, and killed in vain after the first look. -/
def threeLooks : List (Request Worker Host) :=
  [.submit flaky, .work, .work, .kill (.ofNat 1) .cancel, .work, .work]

/-- After `threeLooks` the script is still looked at; at the next look, the second in a row that
fails, it is given up. -/
theorem borne_iff_watches_threeLooks :
    impatient.config.fault? = none ∧ impatient.config.jobTimeout = none ∧
    let m := after impatient (.fresh {}) threeLooks
    m.Watches 0 ∧ Borne 2 (calls (m.dealings 0)) ∧
      ∃ o, m.slot = some o ∧ Ending o (.unresponsive "job status unavailable: gone") m
        (m.work impatient).1 (m.work impatient).2 := by
  have valid : impatient.config.fault? = none := by decide
  obtain ⟨watched, next⟩ := borne_iff_watches valid rfl {} threeLooks
  have slot : (after impatient (.fresh {}) threeLooks).slot.map
      (fun o => (o.ticket.number, o.stop, status impatient o (after impatient (.fresh {})
        threeLooks))) = some (0, none, .error (.statusUnavailable "gone")) :=
    of_decide_eq_true (by cbv)
  have looks : statuses (calls ((after impatient (.fresh {}) threeLooks).dealings 0)) =
      [.error (.statusUnavailable "busy"), .ok none, .error (.statusUnavailable "gone")] :=
    of_decide_eq_true (by cbv)
  obtain ⟨o, held, eq⟩ := Option.map_eq_some_iff.mp slot
  obtain ⟨number, unstopped, gone⟩ : _ ∧ _ ∧ _ := by simpa using eq
  have watches : (after impatient (.fresh {}) threeLooks).Watches 0 := ⟨o, held, number, unstopped⟩
  obtain ⟨looked, -⟩ := (next o held).2 unstopped
  refine ⟨valid, rfl, watches, (watched 0).mp watches, o, held, ?_⟩
  have gives : GivesUp 2 ([.error (.statusUnavailable "busy"), .ok none,
      .error (.statusUnavailable "gone")] ++ [.error (.statusUnavailable "gone")])
      (.statusUnavailable "gone") := givesUp_append_iff.mpr ⟨rfl, .inr (by decide)⟩
  rw [number, looks, gone] at looked
  generalize (work impatient (after impatient (.fresh {}) threeLooks)).1 = k at looked ⊢
  cases looked with
  | running reads watches => cases reads
  | erring failed bears watches =>
    cases failed
    exact absurd gives bears
  | exited reads state => cases reads
  | givenUp gives' ending =>
    obtain ⟨h, -⟩ := givesUp_append_iff.mp gives'
    cases h
    exact ending

end Manager
end SerialJobs
