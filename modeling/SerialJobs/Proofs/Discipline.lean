import SerialJobs.Proofs.Attribution

/-!
# Which calls may follow which

The calls on a job obey an order. `Allowed` says when a call may be made after those before: the
start comes first and only once, nothing follows a start that failed, a reported exit or a wait, no
signal follows one that was delivered, and a job that is doomed gets signals of the timeout, and at
most one other, which is the last. A job is doomed once it was found overdue or was given up for its
failed status checks. The first of these does not show in the calls alone, so a `Dealing` is a call
together with whether the job was found overdue on account of it.

`Follows` strings allowed calls together. While a job has the slot, the dealings with it and its
docket go together (`Dealt`), call by call.
-/

namespace SerialJobs

/-! ## Dealings -/

/-- The event tells that a job is overdue. -/
def Event.tellsOverdue : Event → Bool
  | .noted (.overdue ..) => true
  | _ => false

/-- A call on a job, and whether the job was found overdue on account of it. -/
structure Dealing where
  call : Exchange
  overdue : Bool
deriving DecidableEq, Repr

/-- The dealings with the job of the given number among the given events, the earliest of which
comes first. That a job is overdue is told right after the call that has shown it. -/
def dealingsFrom (n : Nat) : List Event → List Dealing
  | [] => []
  | .call t x :: es =>
    if t.number = n then ⟨x, es.head?.any Event.tellsOverdue⟩ :: dealingsFrom n es
    else dealingsFrom n es
  | _ :: es => dealingsFrom n es

/-- The dealings with the job of the given number among the given events, the latest of which comes
first. The earliest dealing comes first. -/
def dealingsIn (n : Nat) (es : List Event) : List Dealing := dealingsFrom n es.reverse

/-- The calls among the dealings. -/
def calls (l : List Dealing) : List Exchange := l.map (·.call)

@[simp] lemma calls_append (l l' : List Dealing) : calls (l ++ l') = calls l ++ calls l' :=
  List.map_append

@[simp] lemma calls_singleton (y : Dealing) : calls [y] = [y.call] := rfl

/-- The earliest of the events, the latest of which comes first, does not tell that a job is
overdue. -/
def Afresh (es : List Event) : Prop := es.getLast?.any Event.tellsOverdue = false

section DealingsIn

variable {n : Nat} {t : Ticket} {es l : List Event}

lemma Event.IsRemark.not_tellsOverdue {e : Event} (h : e.IsRemark) : e.tellsOverdue = false := by
  cases e with
  | noted d =>
    cases d with
    | overdue i label timeout => exact absurd h id
    | _ => rfl
  | _ => rfl

lemma Event.IsNews.not_tellsOverdue {e : Event} (h : e.IsNews) : e.tellsOverdue = false := by
  cases e with
  | noted d =>
    cases d with
    | overdue i label timeout => exact absurd h id
    | _ => rfl
  | _ => rfl

lemma afresh_of_forall (h : ∀ e ∈ es, e.tellsOverdue = false) : Afresh es := by
  unfold Afresh
  cases hl : es.getLast? with
  | none => rfl
  | some e => exact h e (List.mem_of_getLast? hl)

lemma afresh_of_remarks (h : ∀ e ∈ es, e.IsRemark) : Afresh es :=
  afresh_of_forall fun e he => (h e he).not_tellsOverdue

/-- Events that begin with a call begin afresh. -/
lemma afresh_append_call (x : Exchange) : Afresh (es ++ [.call t x]) := by
  simp [Afresh, Event.tellsOverdue]

lemma Afresh.append (h : Afresh es) (hl : Afresh l) : Afresh (l ++ es) := by
  unfold Afresh at *
  rw [List.getLast?_append]
  cases hs : es.getLast? with
  | none => exact hl
  | some e => simpa [hs] using h

lemma dealingsFrom_append (h : Afresh l) :
    dealingsFrom n (es ++ l.reverse) = dealingsFrom n es ++ dealingsFrom n l.reverse := by
  induction es with
  | nil => rfl
  | cons e es ih =>
    -- what a call has shown is told before anything that begins afresh
    have head : (es ++ l.reverse).head?.any Event.tellsOverdue =
        es.head?.any Event.tellsOverdue := by
      cases es with
      | nil => simpa [List.head?_reverse, Afresh] using h
      | cons e' es => rfl
    cases e with
    | call u x =>
      simp only [List.cons_append, dealingsFrom, head, ih]
      split_ifs <;> rfl
    | _ => simpa only [List.cons_append, dealingsFrom] using ih

@[simp] lemma dealingsIn_nil : dealingsIn n [] = [] := rfl

lemma dealingsIn_append (h : Afresh l) :
    dealingsIn n (l ++ es) = dealingsIn n es ++ dealingsIn n l := by
  rw [dealingsIn, List.reverse_append, dealingsFrom_append h]
  rfl

/-- Events without a call on the job. -/
lemma dealingsIn_eq_nil (h : ∀ u x, .call u x ∈ es → u.number ≠ n) : dealingsIn n es = [] := by
  have from_nil : ∀ es : List Event, (∀ u x, .call u x ∈ es → u.number ≠ n) →
      dealingsFrom n es = [] := by
    intro es h
    induction es with
    | nil => rfl
    | cons e es ih =>
      have rest := ih fun u x hu => h u x (List.mem_cons_of_mem e hu)
      cases e with
      | call u x => simp only [dealingsFrom, if_neg (h u x List.mem_cons_self), rest]
      | _ => exact rest
  exact from_nil es.reverse fun u x hu => h u x (List.mem_reverse.mp hu)

lemma dealingsIn_of_told (h : ∀ e ∈ es, e.IsTold) : dealingsIn n es = [] :=
  dealingsIn_eq_nil fun _ _ hu => absurd (h _ hu) id

lemma dealingsIn_of_remarks (h : ∀ e ∈ es, e.IsRemark) : dealingsIn n es = [] :=
  dealingsIn_of_told fun e he => (h e he).isTold

lemma dealingsIn_of_attends (h : ∀ e ∈ es, e.Attends t) (hne : n ≠ t.number) :
    dealingsIn n es = [] := by
  refine dealingsIn_eq_nil ?_
  rintro u x hu rfl
  exact hne (congrArg Ticket.number ((h _ hu).ticket_eq rfl))

/-- A call, and what is told after it. -/
lemma dealingsIn_call {x : Exchange} (told : ∀ e ∈ es, e.IsTold) (fresh : Afresh es) :
    dealingsIn n (es ++ [.call t x]) = if t.number = n then [⟨x, false⟩] else [] := by
  have overdue : es.getLast?.any Event.tellsOverdue = false := fresh
  have rest : dealingsFrom n es.reverse = [] := dealingsIn_of_told told
  simp [dealingsIn, dealingsFrom, overdue, rest]

lemma dealingsIn_waitCall (t : Ticket) (w : Option WaitOutcome) :
    dealingsIn n (Manager.waitCall t w) =
      if t.number = n then (w.map fun x => ⟨.wait x, false⟩).toList else [] := by
  cases w with
  | none => simp [Manager.waitCall]
  | some x =>
    have nobody : ∀ e ∈ ([] : List Event), e.IsTold := by simp
    exact dealingsIn_call (x := .wait x) nobody rfl

end DealingsIn

/-! ## Which calls are allowed -/

/-- The job was found overdue, or it was given up for its failed status checks. -/
def Doomed (limit : Nat) (l : List Dealing) : Prop :=
  (∃ y ∈ l, y.overdue = true) ∨ ∃ e, tally limit (calls l) = .givenUp e

/-- A job that was doomed already was sent another signal than that of a timeout. -/
def Overruled (limit : Nat) (l : List Dealing) : Prop :=
  ∃ a c x o b, l = a ++ ⟨.terminate c x, o⟩ :: b ∧ Doomed limit a ∧ c ≠ .timeout

/-- What the manager is doing when it calls a job. -/
inductive Occasion
  /-- It serves a submission, an iteration or a kill. -/
  | service
  | stop
  /-- It ends. -/
  | drop
deriving DecidableEq, Repr

/-- The job has started, and neither has its exit been reported nor was it waited for. -/
structure Ongoing (l : List Dealing) : Prop where
  started : .start (.ok ()) ∈ calls l
  present : ∀ e, .tryExit (.ok (some e)) ∉ calls l
  last : ∀ x, .wait x ∉ calls l

/-- On the given occasion the call `x` may be made on a job that the dealings were had with. -/
structure Allowed (limit : Nat) (occasion : Occasion) (l : List Dealing) (x : Exchange) : Prop where
  /-- The start comes first, and only once. -/
  first : (∃ o, x = .start o) ↔ l = []
  /-- Nothing follows a start that failed, a reported exit or a wait. -/
  ongoing : l ≠ [] → Ongoing l
  /-- Only a stop waits. -/
  waits : ∀ o, x = .wait o → occasion = .stop
  /-- No signal follows one that was delivered. -/
  undelivered : ∀ c o, x = .terminate c o → Undelivered (calls l)
  /-- A doomed job is sent the signal of a timeout, unless a stop or the end of the manager shuts it
  down. -/
  doomed : ∀ c o, x = .terminate c o → Doomed limit l →
    c = .timeout ∨ c = .shutdown ∧ occasion ≠ .service
  /-- That is the last signal then. -/
  once : ∀ c o, x = .terminate c o → ¬ Overruled limit l

/-- The dealings `l'` come of `l` by calls that were allowed one after the other. -/
inductive Follows (limit : Nat) (occasion : Occasion) (l : List Dealing) : List Dealing → Prop
  | refl : Follows limit occasion l l
  | snoc {l' : List Dealing} {y : Dealing} (past : Follows limit occasion l l')
      (allowed : Allowed limit occasion l' y.call) : Follows limit occasion l (l' ++ [y])

section Follows

variable {limit : Nat} {occasion : Occasion} {l l' l'' : List Dealing} {x : Exchange}

lemma Follows.trans (h : Follows limit occasion l l') (h' : Follows limit occasion l' l'') :
    Follows limit occasion l l'' := by
  induction h' with
  | refl => exact h
  | snoc past allowed ih => exact ih.snoc allowed

lemma Follows.single {y : Dealing} (h : Allowed limit occasion l y.call) :
    Follows limit occasion l (l ++ [y]) :=
  Follows.refl.snoc h

/-- What serves a request is allowed on any other occasion. -/
lemma Allowed.of_service (h : Allowed limit .service l x) (occasion : Occasion) :
    Allowed limit occasion l x where
  first := h.first
  ongoing := h.ongoing
  waits o ho := absurd (h.waits o ho) (by simp)
  undelivered := h.undelivered
  doomed c o ho hl := .inl ((h.doomed c o ho hl).resolve_right (by simp))
  once := h.once

lemma Follows.of_service (h : Follows limit .service l l') (occasion : Occasion) :
    Follows limit occasion l l' := by
  induction h with
  | refl => exact .refl
  | snoc past allowed ih => exact ih.snoc (allowed.of_service occasion)

/-- The first call is a start. -/
lemma allowed_start (limit : Nat) (occasion : Occasion) (o : Outcome Unit) :
    Allowed limit occasion [] (.start o) where
  first := by simp
  ongoing h := absurd rfl h
  waits := by simp
  undelivered := by simp
  doomed := by simp
  once := by simp

end Follows

section Steps

variable {limit : Nat} {occasion : Occasion} {l : List Dealing} {y : Dealing}

lemma Doomed.append (h : Doomed limit l) (c : KillCommand) (o : Outcome Unit) (b : Bool) :
    Doomed limit (l ++ [⟨.terminate c o, b⟩]) := by
  rcases h with ⟨y, hy, overdue⟩ | ⟨e, givenUp⟩
  · exact .inl ⟨y, List.mem_append_left _ hy, overdue⟩
  · refine .inr ⟨e, ?_⟩
    rw [calls_append, calls_singleton, tally_append_singleton, givenUp]
    rfl

/-- What overrules is the last dealing or one before. -/
lemma overruled_append_singleton :
    Overruled limit (l ++ [y]) ↔
      Overruled limit l ∨ Doomed limit l ∧ ∃ c o, y.call = .terminate c o ∧ c ≠ .timeout := by
  constructor
  · rintro ⟨a, c, x, o, b, eq, doomed, hc⟩
    rcases History.append_eq_split eq with ⟨b', rfl, -⟩ | ⟨a', hy, rfl⟩
    · exact .inl ⟨a, c, x, o, b', rfl, doomed, hc⟩
    · obtain ⟨rfl, rfl, -⟩ := History.eq_of_append_cons_eq_singleton hy.symm
      rw [List.append_nil] at doomed
      exact .inr ⟨doomed, c, x, rfl, hc⟩
  · rintro (⟨a, c, x, o, b, rfl, doomed, hc⟩ | ⟨doomed, c, x, hy, hc⟩)
    · exact ⟨a, c, x, o, b ++ [y], by simp, doomed, hc⟩
    · obtain ⟨call, o⟩ := y
      obtain rfl : call = .terminate c x := hy
      exact ⟨l, c, x, o, [], rfl, doomed, hc⟩

namespace Ongoing

variable (h : Ongoing l)

include h

lemma ne_nil : l ≠ [] := by
  rintro rfl
  simpa [calls] using h.started

lemma check {x : Outcome (Option Exit)} (alive : ∀ e, x ≠ .ok (some e)) (b : Bool) :
    Ongoing (l ++ [⟨.tryExit x, b⟩]) where
  started := by simp [h.started]
  present e := by simpa [h.present e] using (alive e).symm
  last o := by simp [h.last o]

lemma signal (c : KillCommand) (x : Outcome Unit) (b : Bool) :
    Ongoing (l ++ [⟨.terminate c x, b⟩]) where
  started := by simp [h.started]
  present e := by simp [h.present e]
  last o := by simp [h.last o]

/-- A status check is allowed. -/
lemma allowed_check (x : Outcome (Option Exit)) : Allowed limit occasion l (.tryExit x) where
  first := by simp [h.ne_nil]
  ongoing _ := h
  waits := by simp
  undelivered := by simp
  doomed := by simp
  once := by simp

/-- A stop may wait. -/
lemma allowed_wait (x : WaitOutcome) : Allowed limit .stop l (.wait x) where
  first := by simp [h.ne_nil]
  ongoing _ := h
  waits := by simp
  undelivered := by simp
  doomed := by simp
  once := by simp

lemma allowed_signal {c : KillCommand} (undelivered : Undelivered (calls l))
    (doomed : Doomed limit l → c = .timeout ∨ c = .shutdown ∧ occasion ≠ .service)
    (once : ¬ Overruled limit l) (x : Outcome Unit) :
    Allowed limit occasion l (.terminate c x) where
  first := by simp [h.ne_nil]
  ongoing _ := h
  waits := by simp
  undelivered _ _ _ := undelivered
  doomed := by
    rintro c' x' ⟨⟩
    exact doomed
  once _ _ _ := once

end Ongoing

end Steps

/-! ## While a job has the slot -/

/-- The dealings with the job have led to the docket. -/
structure Dealt (limit : Nat) (l : List Dealing) (d : Docket) : Prop extends Ongoing l where
  undelivered : Undelivered (calls l) ↔ ¬ d.Delivered
  running : d.stop = none →
    (∀ y ∈ l, y.overdue = false) ∧ tally limit (calls l) = .counting d.errors
  pending : ∀ p, d.stop = some p → p.signalled = false → p.command = .timeout ∧ Doomed limit l
  once : ¬ Overruled limit l

namespace Dealt

variable {J E : Type} {s : Setup J E} {t : Ticket} {limit : Nat} {l : List Dealing} {d d' : Docket}

lemma start (limit : Nat) : Dealt limit [⟨.start (.ok ()), false⟩] ⟨0, none⟩ where
  started := by simp
  present := by simp
  last := by simp
  undelivered := by simp [Undelivered, Docket.Delivered]
  running _ := ⟨by simp, rfl⟩
  pending := by simp
  once := by
    rintro ⟨a, c, x, o, b, eq, -⟩
    simp [List.cons_eq_append_iff] at eq

/-- A job that is running and not being terminated is not doomed. -/
lemma not_doomed (h : Dealt limit l d) (hd : d.stop = none) : ¬ Doomed limit l := by
  obtain ⟨inTime, counting⟩ := h.running hd
  rintro (⟨y, hy, overdue⟩ | ⟨e, givenUp⟩)
  · simp [inTime y hy] at overdue
  · simp [counting] at givenUp

/-- A termination is pending exactly if the job is doomed and no signal was delivered. -/
lemma pending_iff (h : Dealt limit l d) :
    (∃ p, d.stop = some p ∧ p.signalled = false) ↔ Doomed limit l ∧ Undelivered (calls l) := by
  rw [h.undelivered]
  constructor
  · rintro ⟨p, hp, before⟩
    refine ⟨(h.pending p hp before).2, ?_⟩
    rintro ⟨q, hq, delivered⟩
    obtain rfl := Option.some.inj (hp.symm.trans hq)
    simp [before] at delivered
  · rintro ⟨doomed, hnot⟩
    rcases hp : d.stop with _ | p
    · exact absurd doomed (h.not_doomed hp)
    · refine ⟨p, rfl, ?_⟩
      rw [Bool.eq_false_iff]
      exact fun delivered => hnot ⟨p, hp, delivered⟩

/-- A check overrules nothing. -/
lemma once_check (h : Dealt limit l d) (x : Outcome (Option Exit)) (b : Bool) :
    ¬ Overruled limit (l ++ [⟨.tryExit x, b⟩]) := by
  rw [overruled_append_singleton]
  rintro (overruled | ⟨-, c, o, hy, -⟩)
  · exact h.once overruled
  · simp at hy

lemma undelivered_check (h : Dealt limit l d) (x : Outcome (Option Exit)) (b : Bool) :
    Undelivered (calls (l ++ [⟨.tryExit x, b⟩])) ↔ ¬ d.Delivered := by
  rw [← h.undelivered]
  simp [Undelivered]

lemma not_delivered (hd : d.stop = none) : ¬ d.Delivered := by
  rintro ⟨p, hp, -⟩
  simp [hd] at hp

/-- After the check the job stays as it was, with the failed checks counted. -/
lemma check (h : Dealt limit l d) (hd : d.stop = none) {x : Outcome (Option Exit)} {n : Nat}
    (alive : ∀ e, x ≠ .ok (some e))
    (counted : (Tally.counting d.errors).next limit (.tryExit x) = .counting n) :
    Dealt limit (l ++ [⟨.tryExit x, false⟩]) ⟨n, none⟩ where
  toOngoing := h.toOngoing.check alive false
  undelivered := (h.undelivered_check x false).trans (by simp [Docket.Delivered, hd])
  running _ := by
    obtain ⟨inTime, counting⟩ := h.running hd
    refine ⟨List.forall_mem_append.mpr ⟨inTime, by simp⟩, ?_⟩
    rw [calls_append, calls_singleton, tally_append_singleton, counting, counted]
  pending := by simp
  once := h.once_check x false

/-- After the check the manager wants to terminate the job. -/
lemma doom (h : Dealt limit l d) (hd : d.stop = none) {x : Outcome (Option Exit)}
    (alive : ∀ e, x ≠ .ok (some e)) {b : Bool} (n : Nat) (e : Exit)
    (doomed : Doomed limit (l ++ [⟨.tryExit x, b⟩])) :
    Dealt limit (l ++ [⟨.tryExit x, b⟩]) ⟨n, some ⟨.timeout, e, false⟩⟩ where
  toOngoing := h.toOngoing.check alive b
  undelivered := (h.undelivered_check x b).trans (by simp [Docket.Delivered, hd])
  running := by simp
  pending := by
    rintro p ⟨⟩ -
    exact ⟨rfl, doomed⟩
  once := h.once_check x b

/-- A signal of the termination that is pending, or begins with it, is allowed. -/
lemma pursue (h : Dealt limit l d) {p : PendingStop} (pursues : d.Pursues p)
    (before : p.signalled = false) :
    Undelivered (calls l) ∧ (Doomed limit l → p.command = .timeout) := by
  rcases pursues with hp | ⟨hd, -⟩
  · refine ⟨h.undelivered.mpr ?_, fun _ => (h.pending p hp before).1⟩
    rintro ⟨q, hq, delivered⟩
    obtain rfl := Option.some.inj (hp.symm.trans hq)
    simp [before] at delivered
  · exact ⟨h.undelivered.mpr (not_delivered hd), fun doomed => absurd doomed (h.not_doomed hd)⟩

/-- The signal of a timeout overrules nothing, and neither does one to a job that is not doomed. -/
lemma once_signal (h : Dealt limit l d) {c : KillCommand} (hc : Doomed limit l → c = .timeout)
    (x : Outcome Unit) (b : Bool) : ¬ Overruled limit (l ++ [⟨.terminate c x, b⟩]) := by
  rw [overruled_append_singleton]
  rintro (overruled | ⟨doomed, c', o, hy, hne⟩)
  · exact h.once overruled
  · obtain ⟨rfl, -⟩ : c = c' ∧ x = o := by simpa using hy
    exact hne (hc doomed)

/-- A signal is delivered. -/
lemma deliver (h : Dealt limit l d) {p : PendingStop} (pursues : d.Pursues p)
    (before : p.signalled = false) :
    Dealt limit (l ++ [⟨.terminate p.command (.ok ()), false⟩]) (d.deliver p) where
  toOngoing := h.toOngoing.signal p.command (.ok ()) false
  undelivered := by
    refine iff_of_false ?_ (not_not_intro (d.delivered_deliver p))
    exact fun none => none p.command (by simp)
  running := by simp [Docket.deliver]
  pending := by
    rintro q ⟨⟩ hq
    simp at hq
  once := h.once_signal (h.pursue pursues before).2 _ _

/-- A signal is not delivered. -/
lemma signalInVain (h : Dealt limit l d) {p : PendingStop} (pursues : d.Pursues p)
    (before : p.signalled = false) {x : Outcome Unit} {e : JobError}
    (failed : x.guarded = .error e) :
    Dealt limit (l ++ [⟨.terminate p.command x, false⟩]) d where
  toOngoing := h.toOngoing.signal p.command x false
  undelivered := by
    have hx : Outcome.ok () ≠ x := (Outcome.ne_ok_of_guarded failed ()).symm
    rw [← h.undelivered]
    simp [Undelivered, hx]
  running hd := by
    obtain ⟨inTime, counting⟩ := h.running hd
    refine ⟨List.forall_mem_append.mpr ⟨inTime, by simp⟩, ?_⟩
    rw [calls_append, calls_singleton, tally_append_singleton, counting]
    rfl
  pending q hq hs := by
    obtain ⟨command, doomed⟩ := h.pending q hq hs
    exact ⟨command, doomed.append _ _ _⟩
  once := h.once_signal (h.pursue pursues before).2 _ _

/-- After the signal is delivered only the exit is looked for. -/
lemma confirm (h : Dealt limit l d) (delivered : d.Delivered) {x : Outcome (Option Exit)}
    (alive : ∀ e, x ≠ .ok (some e)) : Dealt limit (l ++ [⟨.tryExit x, false⟩]) d where
  toOngoing := h.toOngoing.check alive false
  undelivered := h.undelivered_check x false
  running hd := absurd delivered (not_delivered hd)
  pending q hq hs := by
    obtain ⟨p, hp, signalled⟩ := delivered
    obtain rfl := Option.some.inj (hp.symm.trans hq)
    simp [signalled] at hs
  once := h.once_check x false

/-- One call on the job is allowed, and leads to the docket that it makes. -/
lemma heed {es : List Event} (h : Dealt s.config.statusErrorLimit.toNat l d)
    (step : Heed s t d es d') :
    ∃ y, dealingsIn t.number es = [y] ∧
      Allowed s.config.statusErrorLimit.toNat .service l y.call ∧
      Dealt s.config.statusErrorLimit.toNat (l ++ [y]) d' := by
  have noted : ∀ n x, (Event.noted n).IsRemark →
      dealingsIn t.number [.noted n, .call t x] = [⟨x, false⟩] := by
    intro n x remark
    have told : ∀ e ∈ [Event.noted n], e.IsTold := List.forall_mem_singleton.mpr remark.isTold
    have fresh : Afresh [.noted n] := afresh_of_remarks (List.forall_mem_singleton.mpr remark)
    simpa using dealingsIn_call (n := t.number) (t := t) (x := x) told fresh
  cases step with
  | running hd =>
    refine ⟨⟨.tryExit (.ok none), false⟩, ?_, h.toOngoing.allowed_check _, ?_⟩
    · simp [dealingsIn, dealingsFrom]
    · exact h.check hd (by simp) rfl
  | @erring x e hd failed transient below =>
    refine ⟨⟨.tryExit x, false⟩, noted _ _ trivial, h.toOngoing.allowed_check _, ?_⟩
    refine h.check hd (fun a => Outcome.ne_ok_of_guarded failed (some a)) ?_
    simp only [Tally.next, failed, transient]
    simpa using below
  | overdue hd =>
    refine ⟨⟨.tryExit (.ok none), true⟩, ?_, h.toOngoing.allowed_check _, ?_⟩
    · simp [dealingsIn, dealingsFrom, Event.tellsOverdue]
    · exact h.doom hd (by simp) 0 _ (.inl ⟨_, List.mem_append_right _ List.mem_cons_self, rfl⟩)
  | @unreadable x e hd failed last =>
    refine ⟨⟨.tryExit x, false⟩, noted _ _ trivial, h.toOngoing.allowed_check _, ?_⟩
    refine h.doom hd (fun a => Outcome.ne_ok_of_guarded failed (some a)) (d.errors + 1) _
      (.inr ⟨e, ?_⟩)
    simp only [calls_append, calls_singleton, tally_append_singleton, (h.running hd).2, Tally.next,
      failed]
    refine if_pos ?_
    simpa only [Bool.or_eq_true, Bool.not_eq_true', decide_eq_true_eq] using last
  | @delivered p pursues before =>
    obtain ⟨undelivered, command⟩ := h.pursue pursues before
    refine ⟨⟨.terminate p.command (.ok ()), false⟩, ?_, ?_, h.deliver pursues before⟩
    · simp [dealingsIn, dealingsFrom, Event.tellsOverdue]
    · exact h.toOngoing.allowed_signal undelivered (fun doomed => .inl (command doomed)) h.once _
  | @undelivered p x e pursues before failed =>
    obtain ⟨undelivered, command⟩ := h.pursue pursues before
    refine ⟨⟨.terminate p.command x, false⟩, noted _ _ trivial, ?_,
      h.signalInVain pursues before failed⟩
    exact h.toOngoing.allowed_signal undelivered (fun doomed => .inl (command doomed)) h.once _
  | @unconfirmed x n delivered remark alive =>
    exact ⟨⟨.tryExit x, false⟩, noted _ _ remark, h.toOngoing.allowed_check _,
      h.confirm delivered alive⟩

end Dealt

/-- Every call that is made begins afresh. -/
lemma Heed.afresh {J E : Type} {s : Setup J E} {t : Ticket} {d d' : Docket} {es : List Event}
    (h : Heed s t d es d') : Afresh es := by
  cases h <;> simp [Afresh, Event.tellsOverdue]

lemma Tended.afresh {J E : Type} {s : Setup J E} {t : Ticket} {d d' : Docket} {es : List Event}
    (h : Tended s t d es d') : Afresh es := by
  induction h with
  | refl => rfl
  | step past last ih => exact ih.append last.afresh

namespace Dealt

variable {J E : Type} {s : Setup J E} {t : Ticket} {limit : Nat} {l : List Dealing} {d d' : Docket}

/-- Calls on the job are allowed one after the other, and lead to the docket that they make. -/
theorem tend {es : List Event} (h : Dealt s.config.statusErrorLimit.toNat l d)
    (tended : Tended s t d es d') :
    Follows s.config.statusErrorLimit.toNat .service l (l ++ dealingsIn t.number es) ∧
      Dealt s.config.statusErrorLimit.toNat (l ++ dealingsIn t.number es) d' := by
  induction tended with
  | refl => simpa using ⟨.refl, h⟩
  | step past last ih =>
    obtain ⟨follows, dealt⟩ := ih
    obtain ⟨y, hy, allowed, next⟩ := dealt.heed last
    rw [dealingsIn_append last.afresh, ← List.append_assoc, hy]
    exact ⟨follows.snoc allowed, next⟩

/-- The last calls on a job that has reported an exit are allowed. -/
lemma exited {es : List Event} {x e : Exit} (h : Dealt s.config.statusErrorLimit.toNat l d)
    (yielded : Exited s t d x e es) :
    Afresh es ∧
      Follows s.config.statusErrorLimit.toNat .service l
        (l ++ dealingsIn t.number es) := by
  cases yielded with
  | @intro es d' remarks hr tended yields =>
    obtain ⟨follows, dealt⟩ := h.tend tended
    have fresh : Afresh (remarks ++ [.call t (.tryExit (.ok (some x)))]) := afresh_append_call _
    have told : ∀ r ∈ remarks, r.IsTold := fun r h => (hr r h).isTold
    have split : remarks ++ .call t (.tryExit (.ok (some x))) :: es =
        remarks ++ [.call t (.tryExit (.ok (some x)))] ++ es := List.append_cons ..
    rw [split]
    refine ⟨tended.afresh.append fresh, ?_⟩
    rw [dealingsIn_append fresh, dealingsIn_call told (afresh_of_remarks hr), if_pos rfl,
      ← List.append_assoc]
    exact follows.snoc (dealt.toOngoing.allowed_check _)

/-- The last signal to a job that was taken out of the slot is allowed, and so is a wait after it.
-/
lemma signalLast {J : Type} {o : Occupant J} {x : Outcome Unit} {es : List Event} {e : Exit}
    (h : Dealt limit l o.docket) (last : Manager.LastSignal o x es e) {occasion : Occasion}
    (hocc : occasion ≠ .service) :
    Follows limit occasion l (l ++ dealingsIn o.ticket.number es) ∧
      Ongoing (l ++ dealingsIn o.ticket.number es) := by
  have signal : ¬ o.docket.Delivered → Allowed limit occasion l (.terminate .shutdown x) :=
    fun hnot =>
      h.toOngoing.allowed_signal (h.undelivered.mpr hnot) (fun _ => .inr ⟨rfl, hocc⟩) h.once x
  cases last with
  | before hp delivered => simpa using ⟨.refl, h.toOngoing⟩
  | delivered hnot ok =>
    have dealt : dealingsIn o.ticket.number
        [.audited (.killed o.ticket.id o.ticket.label .shutdown),
          .call o.ticket (.terminate .shutdown x)] = [⟨.terminate .shutdown x, false⟩] := by
      simp [dealingsIn, dealingsFrom, Event.tellsOverdue]
    rw [dealt]
    exact ⟨.single (signal hnot), h.toOngoing.signal ..⟩
  | @inVain f hnot failed =>
    have dealt : dealingsIn o.ticket.number
        [.audited (.killed o.ticket.id o.ticket.label .shutdown),
          .noted (.signalFailed o.ticket.id none f), .call o.ticket (.terminate .shutdown x)] =
          [⟨.terminate .shutdown x, false⟩] := by
      simp [dealingsIn, dealingsFrom, Event.tellsOverdue]
    rw [dealt]
    exact ⟨.single (signal hnot), h.toOngoing.signal ..⟩

end Dealt

end SerialJobs
