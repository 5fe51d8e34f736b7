import SerialJobs.Proofs.Observation

/-!
# Panics are like errors

A job whose start, status check or signal panics is treated like one that returns the error of the
same message. A kind of jobs is `tamed` if it returns these errors in place of panicking. A manager
of tamed jobs does the same as the manager of the others, step by step: every function of the
manager commutes with `Manager.tamed`, which replaces the panics among the calls of the history and
leaves everything else as it is.

That is what an observer sees who takes every panic for its error. Only the calls on a job look at
an outcome, and what they make of it is the same for a panic and for its error
(`Outcome.guarded_tamed`); the sink is told the same, so that announcements do the same as well
(`Manager.announce_tamed`).
-/

namespace SerialJobs

variable {J E α : Type}

/-! ## Tamed jobs -/

/-- The outcome with a panic replaced by the error of the same message. -/
def Outcome.tamed : Outcome α → Outcome α
  | ok a => .ok a
  | error e => .error e
  | panic p => .error (.panicked p.message)

lemma Outcome.guarded_tamed (x : Outcome α) : x.tamed.guarded = x.guarded := by
  cases x <;> rfl

/-- The reply with its outcome tamed; the job and the surroundings are the same. -/
def Reply.tamed (r : Reply J E (Outcome α)) : Reply J E (Outcome α) :=
  { r with outcome := r.outcome.tamed }

/-- The kind of jobs whose starts, status checks and signals return an error where they panicked.
Waits are the same. -/
def JobKind.tamed (k : JobKind J E) : JobKind J E :=
  { k with
    start := fun j env => (k.start j env).tamed
    tryExit := fun j env => (k.tryExit j env).tamed
    terminate := fun c j env => (k.terminate c j env).tamed }

/-- The same manager, of tamed jobs. -/
def Setup.tamed (s : Setup J E) : Setup J E := { s with kind := s.kind.tamed }

@[simp] lemma Setup.config_tamed (s : Setup J E) : s.tamed.config = s.config := rfl
@[simp] lemma Setup.sink_tamed (s : Setup J E) : s.tamed.sink = s.sink := rfl

/-- The call with its outcome tamed. -/
def Exchange.tamed : Exchange → Exchange
  | .start x => .start x.tamed
  | .tryExit x => .tryExit x.tamed
  | .terminate c x => .terminate c x.tamed
  | .wait x => .wait x

/-- The event, where a call has its outcome tamed. -/
def Event.tamed : Event → Event
  | .call t x => .call t x.tamed
  | e => e

lemma Event.record?_tamed (e : Event) : e.tamed.record? = e.record? := by
  cases e <;> rfl

lemma Event.audit?_tamed (e : Event) : e.tamed.audit? = e.audit? := by
  cases e <;> rfl

namespace Manager

/-- The manager after the same history with tamed outcomes. -/
def tamed (m : Manager J E) : Manager J E := { m with past := m.past.map Event.tamed }

lemma history_tamed (m : Manager J E) : m.tamed.history = m.history.map Event.tamed := by
  simp [history, tamed]

lemma records_tamed (m : Manager J E) : m.tamed.records = m.records := by
  rw [records, history_tamed, List.filterMap_map]
  exact List.filterMap_congr fun e _ => e.record?_tamed

lemma audits_tamed (m : Manager J E) : m.tamed.audits = m.audits := by
  rw [audits, history_tamed, List.filterMap_map]
  exact List.filterMap_congr fun e _ => e.audit?_tamed

end Manager

/-- The same end of a locked section, with the manager tamed. -/
def Section.tamed (r : Section J E α) : Section J E α := { r with manager := r.manager.tamed }

/-! ## An observer who takes panics for errors -/

lemma Manager.seen_tamed : (seen (some ∘ Event.tamed) : Manager J E → Manager J E) = tamed := by
  funext m
  rw [seen, tamed, List.filterMap_eq_map]

lemma Section.seen_tamed (r : Section J E α) : r.seen (some ∘ Event.tamed) = r.tamed := by
  rw [Section.seen, Section.tamed, Manager.seen_tamed]

lemma Reply.matches_tamed {exchange : Outcome α → Exchange}
    (h : ∀ x, exchange x.tamed = (exchange x).tamed) (r : Reply J E (Outcome α)) :
    r.Matches (some ∘ Event.tamed) exchange r.tamed where
  job := rfl
  env := rfl
  guarded := r.outcome.guarded_tamed
  seen t := congrArg (fun x => some (Event.call t x)) (h r.outcome).symm

lemma Setup.observed_tamed (s : Setup J E) : Observed (some ∘ Event.tamed) s s.tamed where
  config := rfl
  ids := rfl
  labels := rfl
  now := rfl
  moment := rfl
  start j env := Reply.matches_tamed (fun _ => rfl) (s.kind.start j env)
  tryExit j env := Reply.matches_tamed (fun _ => rfl) (s.kind.tryExit j env)
  terminate c j env := Reply.matches_tamed (fun _ => rfl) (s.kind.terminate c j env)
  wait := rfl
  waited _ _ := rfl
  moved _ := rfl
  audited _ := rfl
  noted _ _ := rfl

namespace Manager

variable (s : Setup J E) (m : Manager J E)

/-! ## Announcements -/

lemma tell_tamed (t : Transition) : m.tamed.tell s.tamed t = (m.tell s t).map id tamed := by
  simp only [tell, Setup.sink_tamed]
  cases s.sink with
  | none => rfl
  | some sink =>
    simp only [records_tamed]
    rfl

lemma follow_tamed (r : Section J E α) (answer : Errand) :
    follow s.tamed r.tamed answer = (follow s r answer).map id tamed := by
  simp only [follow, Section.tamed]
  cases r.due with
  | none => rfl
  | some t =>
    exact congrArg (fun x : List Errand × Manager J E => (x.1 ++ [answer], x.2))
      (tell_tamed s r.manager t)

lemma perform_tamed (a : Act) : m.tamed.perform s.tamed a = (m.perform s a).map id tamed := by
  cases a with
  | work =>
    have ticked := s.observed_tamed.tickSection_seen m
    rw [seen_tamed, Section.seen_tamed] at ticked
    simp only [perform, ticked]
    exact follow_tamed s (m.tickSection s) _
  | kill id c =>
    have killed := s.observed_tamed.killSection_seen m id c
    rw [seen_tamed, Section.seen_tamed] at killed
    simp only [perform, killed]
    exact follow_tamed s (m.killSection s id c) _

lemma discharge_tamed (x : Errand) : m.tamed.discharge s.tamed x = (m.discharge s x).tamed := by
  cases x <;> rfl

/-- All errands, and those that come of them. -/
lemma run_tamed (errands : List Errand) :
    run s.tamed errands m.tamed = (run s errands m).tamed := by
  induction errands, m using run.induct s with
  | case1 m => rw [run, run]
  | case2 a errands m ih =>
    rw [run, run, perform_tamed]
    exact ih
  | case3 x errands m hne ih =>
    rw [run, run, discharge_tamed]
    · exact ih
    · exact hne
    · exact hne

lemma announce_tamed (t : Transition) : m.tamed.announce s.tamed t = (m.announce s t).tamed := by
  rw [announce, tell_tamed]
  exact run_tamed s (m.tell s t).2 (m.tell s t).1

lemma announceLast_tamed (t : Transition) :
    m.tamed.announceLast s.tamed t = (m.announceLast s t).tamed := by
  simp only [announceLast, Setup.sink_tamed]
  cases s.sink with
  | none => rfl
  | some sink =>
    simp only [records_tamed]
    cases (sink.react m.records t.record).panic <;> rfl

/-! ## Requests -/

lemma unnoticed_tamed : Unnoticed (some ∘ Event.tamed) s s.tamed where
  toObserved := s.observed_tamed
  announce m t := by simpa only [seen_tamed] using m.announce_tamed s t
  announceLast m t := by simpa only [seen_tamed] using m.announceLast_tamed s t

lemma drop_tamed : m.tamed.drop s.tamed = (m.drop s).tamed := by
  simpa only [seen_tamed] using (unnoticed_tamed s).drop_seen m

theorem after_tamed (rs : List (Request J E)) :
    m.tamed.after s.tamed rs = (m.after s rs).tamed := by
  simpa only [seen_tamed] using (unnoticed_tamed s).after_seen m rs

/-- Every request gets the same answer from a manager of tamed jobs. -/
theorem answers_tamed (rs : List (Request J E)) :
    answers s.tamed m.tamed rs = answers s m rs := by
  simpa only [seen_tamed] using (unnoticed_tamed s).answers_seen m rs

/-! ## What can be seen from outside -/

/-- What is to be seen of the two managers is the same, and so is their history except that in that
of `m'` the calls have tamed outcomes. -/
structure Indistinguishable (m m' : Manager J E) : Prop where
  env : m'.env = m.env
  slot : m'.slot = m.slot
  queue : m'.queue = m.queue
  handles : m'.handles = m.handles
  records : m'.records = m.records
  audits : m'.audits = m.audits
  history : m'.history = m.history.map Event.tamed

lemma indistinguishable_tamed : Indistinguishable m m.tamed :=
  ⟨rfl, rfl, rfl, rfl, m.records_tamed, m.audits_tamed, m.history_tamed⟩

/-- Only a stop can panic, and only with the panic of its wait. -/
lemma panic_of_serve {r : Request J E} {p : PanicPayload} (h : (m.serve s r).1 = .error p) :
    r = .stop ∧ ∃ o, m.slot = some o ∧ m.lastWait s o = .panic p := by
  by_cases hr : r = .stop
  · subst hr
    refine ⟨rfl, ?_⟩
    have halted := halted_stop s m
    simp only [serve] at h
    generalize (m.stop s).1 = x, (m.stop s).2 = m' at halted h
    cases halted with
    | idle free => cases h
    | ended departed ends announced => cases h
    | @broken o e q m' departed panics =>
      obtain rfl : q = p := Except.error.inj h
      exact ⟨o, departed.held, panics⟩
  · obtain ⟨a, ha⟩ := serve_completes s m hr
    rw [ha] at h
    cases h

/-- Jobs that panic when they are started, checked or signalled cannot be told from jobs that return
the error of the same message: after any requests, which have got the same answers, the two managers
are the same to everyone outside, and also after their end. No such panic gets through to a caller:
only the panic of a wait does. -/
theorem panic_like_error (s : Setup J E) (env : E) (rs : List (Request J E)) :
    let m := after s (.fresh env) rs
    let m' := after s.tamed (.fresh env) rs
    (answers s.tamed (.fresh env) rs = answers s (.fresh env) rs ∧ Indistinguishable m m' ∧
        Indistinguishable (m.drop s) (m'.drop s.tamed)) ∧
      ∀ r p, (m.serve s r).1 = .error p →
        r = .stop ∧ ∃ o, m.slot = some o ∧ m.lastWait s o = .panic p := by
  have tamed : after s.tamed (.fresh env) rs = (after s (.fresh env) rs).tamed :=
    after_tamed s (.fresh env) rs
  refine ⟨⟨answers_tamed s (.fresh env) rs, ?_, ?_⟩, fun r p => panic_of_serve s _⟩
  · rw [tamed]
    exact indistinguishable_tamed _
  · rw [tamed, drop_tamed]
    exact indistinguishable_tamed _

end Manager
end SerialJobs
