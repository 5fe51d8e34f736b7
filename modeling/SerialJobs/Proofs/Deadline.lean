import SerialJobs.Proofs.Kills
import SerialJobs.Proofs.Oversight

/-!
# How the job timeout is enforced

A status check that says running finds a job overdue once it has the age of the job timeout; a check
that fails puts that off. But failed checks in a row are counted, so it is not put off for long: of
the iterations that are made after the job's time (`Overtime`), the first ones may fail to read its
status, fewer than the limit says, and the next one settles the matter (`standing_of_overtime`).

Once a job was found overdue its termination stays what it is, whatever is requested, until the job
is finished (`Sentenced`). Only a stop whose wait panics, and which does not complete, can get in
between.
-/

namespace SerialJobs

/-! ## Terminations under way -/

section Stop

variable {J E : Type} {s : Setup J E} {t : Ticket} {d d' : Docket} {p : PendingStop}
  {es : List Event}

/-- A call on the job does not change the termination under way, but may deliver its signal. -/
lemma Heed.keeps_stop (h : Heed s t d es d') (hp : d.stop = some p) :
    ∃ b, d'.stop = some { p with signalled := b } := by
  cases h with
  | running h => simp [hp] at h
  | erring h => simp [hp] at h
  | overdue h => simp [hp] at h
  | unreadable h => simp [hp] at h
  | @delivered q pursues before =>
    rcases pursues with hq | ⟨hd, -⟩
    · obtain rfl := Option.some.inj (hp.symm.trans hq)
      exact ⟨true, rfl⟩
    · simp [hp] at hd
  | undelivered pursues before failed => exact ⟨p.signalled, hp⟩
  | unconfirmed delivered remark alive => exact ⟨p.signalled, hp⟩

lemma Tended.keeps_stop (h : Tended s t d es d') (hp : d.stop = some p) :
    ∃ b, d'.stop = some { p with signalled := b } := by
  induction h with
  | refl => exact ⟨p.signalled, hp⟩
  | step past last ih =>
    obtain ⟨b, hb⟩ := ih
    obtain ⟨b', hb'⟩ := last.keeps_stop hb
    exact ⟨b', hb'⟩

/-- A job with a termination under way is given the exit of that. -/
lemma Exited.exit_eq {x e : Exit} (h : Exited s t d x e es) (hp : d.stop = some p) :
    e = p.exit := by
  cases h with
  | intro remarks hr tended yields =>
    obtain ⟨b, hb⟩ := tended.keeps_stop hp
    rcases yields with ⟨none, -⟩ | ⟨q, hq, -, rfl⟩
    · simp [hb] at none
    · rw [← Option.some.inj (hb.symm.trans hq)]

/-- The last signal shuts the job down, unless the signal of its termination was delivered. -/
lemma Manager.LastSignal.exit_eq {o : Occupant J} {x : Outcome Unit} {e : Exit}
    (h : Manager.LastSignal o x es e) (hp : o.stop = some p) :
    e = p.exit ∨ e = .killed .shutdown := by
  cases h with
  | before hq delivered => exact .inl (congrArg _ (Option.some.inj (hq.symm.trans hp)))
  | delivered hnot ok => exact .inr rfl
  | inVain hnot failed => exact .inr rfl

end Stop

namespace Manager

variable {J E : Type} {s : Setup J E} {m m' : Manager J E} {n : Nat}

/-- The job of the submission was found overdue: it has the slot and its termination is under way,
or it is finished with the exit of that, unless a stop has shut it down. -/
inductive Sentenced (n : Nat) (m : Manager J E) : Prop
  | pending {o : Occupant J} {b : Bool} (held : m.slot = some o) (number : o.ticket.number = n)
      (stop : o.stop = some ⟨.timeout, .killed .timeout, b⟩)
  | finished {e : Exit} (state : m.state? n = some (.finished e))
      (exit : e = .killed .timeout ∨ e = .killed .shutdown)

namespace Sentenced

variable {arriving : List (Waiting J)} {out : List Nat}

/-- The slot keeps its job, and a finished submission stays so. -/
lemma quiet (h : Sentenced n m) (slot : m'.slot = m.slot)
    (states : ∀ e, m.state? n = some (.finished e) → m'.state? n = some (.finished e)) :
    Sentenced n m' := by
  cases h with
  | pending held number stop => exact .pending (slot.trans held) number stop
  | finished state exit => exact .finished (states _ state) exit

/-- A locked section does not change the termination. -/
lemma advance (h : Sentenced n m) (placed : Placed m arriving out) {d : Option Transition}
    (step : Advance s m d m') : Sentenced n m' := by
  cases h with
  | finished state exit => exact .finished (placed.finished_of_advance step state) exit
  | @pending o b held number stop =>
    have states := placed.state?_advance step
    cases step with
    | rest es slot queue handles past told => exact .pending (slot.trans held) number stop
    | started es free head slot queue handles past told => simp [free] at held
    | startFailed es free head slot queue handles past failed told => simp [free] at held
    | kept held' next slot queue handles past attends tended =>
      obtain rfl := Option.some.inj (held'.symm.trans held)
      obtain ⟨b', hb⟩ := tended.keeps_stop stop
      exact .pending slot number hb
    | released held' slot queue handles past attends exited yielded =>
      obtain rfl := Option.some.inj (held'.symm.trans held)
      refine .finished ?_ (.inl (yielded.exit_eq stop))
      rw [states, ← number]
      exact Function.update_self ..

/-- A job that was taken out of the slot is finished. -/
lemma finish {o : Occupant J} {w : Option WaitOutcome} {e : Exit} (h : Sentenced n m)
    (placed : Placed m [] out) (departed : Departed s m o w e m') :
    Sentenced n (m'.finish s o e).2 := by
  have running := placed.running departed.held
  have states : (m'.finish s o e).2.state? =
      Function.update m.state? o.ticket.number (some (.finished e)) := by
    rw [← state?_congr departed.handles] at running ⊢
    exact state?_of_modify running rfl
  cases h with
  | pending held number stop =>
    obtain rfl := Option.some.inj (departed.held.symm.trans held)
    obtain ⟨told, es, remarks, past, last, -⟩ := departed.past
    refine .finished (e := e) ?_ (last.exit_eq stop)
    rw [states, ← number]
    exact Function.update_self ..
  | finished state exit =>
    have hne : n ≠ o.ticket.number := by
      rintro rfl
      simp [running] at state
    refine .finished ?_ exit
    rw [states, Function.update_of_ne hne]
    exact state

end Sentenced

/-- No request but a stop changes the termination. -/
lemma admitting_sentenced (s : Setup J E) (n : Nat) (out : List Nat) :
    Admitting s fun arriving (m : Manager J E) => Placed m arriving out ∧ Sentenced n m where
  lasting arriving :=
    { happen := fun ⟨placed, h⟩ _ =>
        ⟨placed.congr ⟨rfl, rfl, rfl⟩, h.quiet rfl fun _ he => he⟩
      advance := fun ⟨placed, h⟩ step => ⟨placed.advance step, h.advance placed step⟩ }
  pass := fun ⟨placed, h⟩ => ⟨placed.congr ⟨rfl, rfl, rfl⟩, h.quiet rfl fun _ he => he⟩
  register := by
    rintro m j ⟨placed, h⟩
    refine ⟨placed.register j rfl, h.quiet rfl fun e he => ?_⟩
    have known : n ≠ m.handles.length := by
      rintro rfl
      simp [state?_eq_none_iff.mpr (Nat.le_refl _)] at he
    rw [state?_of_append (h := .fresh (m.nextTicket s j).id (m.nextTicket s j).label (m.now s)) rfl,
      Function.update_of_ne known]
    exact he
  enqueue := fun ⟨placed, h⟩ =>
    ⟨Placed.enqueue (a := []) placed, h.quiet rfl fun _ he => he⟩

/-- A stop finishes the job with the exit of its termination, or shuts it down. -/
lemma Sentenced.stop {out : List Nat} (h : Sentenced n m) (placed : Placed m [] out)
    {r : Report J} (completes : (m.stop s).1 = .ok r) : Sentenced n (m.stop s).2 := by
  have halted := halted_stop s m
  generalize (m.stop s).1 = x, (m.stop s).2 = m' at halted completes
  cases halted with
  | idle free => exact h.quiet rfl fun _ he => he
  | @ended o x e m₁ m₂ departed ends announced =>
    obtain ⟨-, told⟩ := ((admitting_sentenced s n out).lasting []).announce
      ⟨Placed.finish (a := []) (departed.placed placed) e, h.finish placed departed⟩
      (m₁.finish s o e).1
    rw [← announced] at told
    exact told.quiet rfl fun _ he => he
  | broken departed panics => cases completes

/-- Whatever is requested of the manager, and completes, the termination stays what it is. -/
theorem Sentenced.served {out : List Nat} (h : Sentenced n m) (placed : Placed m [] out)
    {rs : List (Request J E)} {as : List (Answer J)} (served : Served s m rs as m') :
    Sentenced n m' := by
  have kept := served.keeps (P := fun _ m => (∃ out, Placed m [] out) ∧ Sentenced n m)
    ⟨⟨out, placed⟩, h⟩ ?_
  · exact kept.2
  · rintro - m₁ r a m₂ ⟨⟨out, placed⟩, h⟩ last
    obtain rfl : (m₁.serve s r).2 = m₂ := congrArg Prod.snd last
    refine ⟨(abiding_placed s).serve ⟨out, placed⟩ r, ?_⟩
    by_cases hr : r = .stop
    · subst hr
      obtain ⟨report, completes⟩ : ∃ report, (m₁.stop s).1 = .ok report := by
        rcases hs : (m₁.stop s).1 with p | report
        · simp [serve, hs, Except.map] at last
        · exact ⟨report, rfl⟩
      exact h.stop placed completes
    · exact ((admitting_sentenced s n out).serve ⟨placed, h⟩ hr).2

/-! ## Iterations after the job's time -/

/-- Iterations at the job with the ticket `t`, with their ticks, such that every look at it finds
that it has the age of the job timeout. In between there may be kills that are not delivered, and
the surroundings may turn into any others. -/
inductive Overtime (s : Setup J E) (t : Ticket) (m : Manager J E) : List Tick → Manager J E → Prop
  | refl : Overtime s t m [] m
  | work {ks : List Tick} {m' : Manager J E} {o : Occupant J} (past : Overtime s t m ks m')
      (held : m'.slot = some o) (own : o.ticket = t) (late : o.stop = none → m'.Late s o) :
      Overtime s t m (ks ++ [(m'.work s).1]) (m'.work s).2
  | kill {ks : List Tick} {m' : Manager J E} (past : Overtime s t m ks m') (id : JobId)
      (c : KillCommand) (vain : (m'.kill s id c).1 = false) : Overtime s t m ks (m'.kill s id c).2
  | pass {ks : List Tick} {m' : Manager J E} (past : Overtime s t m ks m') (env : E) :
      Overtime s t m ks { m' with env := env }

/-- The tick tells that the job was found overdue, is being terminated, or is finished. -/
def Settles (t : Ticket) (k : Tick) : Prop :=
  k = .timedOut t.id ∨ k = .stopping t.id ∨ k = .finished t.id

/-- The job is finished, or it has the slot and is being terminated. -/
def Settled (t : Ticket) (m : Manager J E) : Prop :=
  (∃ o, m.slot = some o ∧ o.ticket = t ∧ o.stop.isSome) ∨
    ∃ e, m.state? t.number = some (.finished e)

/-- Where iterations after the job's time have led, with the given ticks: all of them have failed to
read its status, and added to the failed checks `c` before them; or the matter is settled, and fewer
than the limit have failed. -/
inductive Standing (limit c : Nat) (t : Ticket) : List Tick → Manager J E → Prop
  | watched {ks : List Tick} {m : Manager J E} {o : Occupant J} (held : m.slot = some o)
      (own : o.ticket = t) (docket : o.docket = ⟨c + ks.length, none⟩)
      (few : c + ks.length < limit) (errors : ∀ k ∈ ks, k = .statusError t.id) :
      Standing limit c t ks m
  | settled {ks : List Tick} {m : Manager J E} (settled : m.Settled t)
      (few : c + ks.count (.statusError t.id) < limit)
      (ticks : ∀ k ∈ ks, k = .statusError t.id ∨ Settles t k) : Standing limit c t ks m

section Standing

variable {limit c : Nat} {t : Ticket} {o : Occupant J} {ks : List Tick} {k : Tick}

/-- The job in the slot, where its ticket and its docket stay. -/
lemma held_of_map_eq (slot : m'.slot.map (fun o => (o.ticket, o.docket)) =
    m.slot.map fun o => (o.ticket, o.docket)) (held : m.slot = some o) :
    ∃ o', m'.slot = some o' ∧ o'.ticket = o.ticket ∧ o'.docket = o.docket := by
  rw [held, Option.map_some] at slot
  obtain ⟨o', held', eq⟩ := Option.map_eq_some_iff.mp slot
  exact ⟨o', held', (Prod.mk.inj eq).1, (Prod.mk.inj eq).2⟩

/-- Neither a kill that is not delivered nor the surroundings change anything. -/
lemma Standing.quiet (h : Standing limit c t ks m)
    (slot : m'.slot.map (fun o => (o.ticket, o.docket)) =
      m.slot.map fun o => (o.ticket, o.docket)) (handles : m'.handles = m.handles) :
    Standing limit c t ks m' := by
  cases h with
  | watched held own docket few errors =>
    obtain ⟨o', held', ticket, same⟩ := held_of_map_eq slot held
    exact .watched held' (ticket.trans own) (same.trans docket) few errors
  | settled settled few ticks =>
    refine .settled ?_ few ticks
    rcases settled with ⟨o, held, own, stop⟩ | ⟨e, state⟩
    · obtain ⟨o', held', ticket, same⟩ := held_of_map_eq slot held
      have stops : o'.stop = o.stop := congrArg Docket.stop same
      exact .inl ⟨o', held', ticket.trans own, stops ▸ stop⟩
    · exact .inr ⟨e, by rw [state?_congr handles]; exact state⟩

/-- A termination that the manager begins settles the matter. -/
lemma Ending.settled {e : Exit} (h : Ending o e m k m') :
    m'.Settled o.ticket ∧ (k = .stopping o.ticket.id ∨ k = .finished o.ticket.id) := by
  cases h with
  | pending presses slot => exact ⟨.inl ⟨_, slot, rfl, rfl⟩, .inl rfl⟩
  | finished presses state => exact ⟨.inr ⟨e, state⟩, .inr rfl⟩

/-- A tick that tells of no failed check does not count. -/
lemma Standing.settle (few : c + ks.count (.statusError t.id) < limit)
    (ticks : ∀ k ∈ ks, k = .statusError t.id ∨ Settles t k) (settled : m'.Settled t)
    (tick : Settles t k) : Standing limit c t (ks ++ [k]) m' := by
  refine .settled settled ?_ ?_
  · have other : k ≠ .statusError t.id := by
      rintro rfl
      simp [Settles] at tick
    rwa [List.count_append, List.count_singleton, if_neg (by simpa using other), Nat.add_zero]
  · exact List.forall_mem_append.mpr ⟨ticks, List.forall_mem_singleton.mpr (.inr tick)⟩

/-- One more iteration settles the matter, or adds to the failed checks. -/
lemma Standing.turn (docket : o.docket = ⟨c + ks.length, none⟩)
    (few : c + ks.length < s.config.statusErrorLimit.toNat)
    (errors : ∀ k ∈ ks, k = .statusError o.ticket.id) (late : m.Late s o)
    (turned : Turned s o m k m') :
    Standing s.config.statusErrorLimit.toNat c o.ticket (ks ++ [k]) m' := by
  have settle (settled : m'.Settled o.ticket) (tick : Settles o.ticket k) :
      Standing s.config.statusErrorLimit.toNat c o.ticket (ks ++ [k]) m' :=
    .settle (Nat.lt_of_le_of_lt (Nat.add_le_add_left List.count_le_length c) few)
      (fun k hk => .inl (errors k hk)) settled tick
  cases turned with
  | running reads early slot => exact absurd late early
  | erring failed transient below slot =>
    have counted : o.statusErrors = c + ks.length := congrArg Docket.errors docket
    have unstopped : o.stop = none := congrArg Docket.stop docket
    refine .watched slot rfl ?_ ?_ ?_
    · simp [Occupant.docket, unstopped, counted, Nat.add_assoc]
    · rw [List.length_append, List.length_singleton]
      omega
    · exact List.forall_mem_append.mpr ⟨errors, List.forall_mem_singleton.mpr rfl⟩
  | exited reads state => exact settle (.inr ⟨_, state⟩) (.inr (.inr rfl))
  | overdue reads late ending => exact settle ending.settled.1 (.inl rfl)
  | unreadable failed last ending => exact settle ending.settled.1 (.inr ending.settled.2)

/-- Iterations after the job's time. -/
theorem standing_of_overtime {out : List Nat} (placed : Placed m [] out) (held : m.slot = some o)
    (unstopped : o.stop = none)
    (few : o.statusErrors < s.config.statusErrorLimit.toNat)
    (overtime : Overtime s o.ticket m ks m') :
    Placed m' [] out ∧
      Standing s.config.statusErrorLimit.toNat o.statusErrors o.ticket ks m' := by
  have lasting := (admitting_placed s out).lasting []
  induction overtime with
  | refl => exact ⟨placed, .watched held rfl (by simp [Occupant.docket, unstopped]) few (by simp)⟩
  | @work ks m' o' past held' own late ih =>
    obtain ⟨placed', standing⟩ := ih
    refine ⟨lasting.work placed', ?_⟩
    cases standing with
    | watched held'' own' docket few errors =>
      obtain rfl := Option.some.inj (held''.symm.trans held')
      have unstopped' := congrArg Docket.stop docket
      rw [← own] at errors ⊢
      exact .turn docket few errors (late unstopped') (turned_work placed' held' unstopped')
    | settled settled few ticks =>
      rcases settled with ⟨o₁, held₁, -, stop⟩ | ⟨e, state⟩
      · obtain rfl := Option.some.inj (held₁.symm.trans held')
        obtain ⟨p, hp⟩ := Option.isSome_iff_exists.mp stop
        rw [← own] at few ticks ⊢
        rcases pursues_work placed' held' hp with ⟨tick, j, b, slot⟩ | ⟨tick, state⟩
        · exact .settle few ticks (.inl ⟨_, slot, rfl, rfl⟩) (.inr (.inl tick))
        · exact .settle few ticks (.inr ⟨_, state⟩) (.inr (.inr tick))
      · -- a finished job does not have the slot
        simp [← own, placed'.running held'] at state
  | @kill ks m' past id c vain ih =>
    obtain ⟨placed', standing⟩ := ih
    have grounds := sameGrounds_kill vain
    exact ⟨lasting.kill placed' id c, standing.quiet grounds.slot grounds.handles⟩
  | pass past env ih => exact ⟨ih.1.congr ⟨rfl, rfl, rfl⟩, ih.2.quiet rfl rfl⟩

end Standing

/-! ## Every overdue job -/

section Limited

variable {limit : Duration} {o : Occupant J}

lemma late_iff (limited : s.config.jobTimeout = some limit) :
    m.Late s o ↔ limit.toNanos ≤ m.checkedAge s o := by
  simp [Late, limited]

/-- Where the clock does not run back during a status check, a job that has the age of the job
timeout before the check has it after the check. -/
lemma late_of_age (limited : s.config.jobTimeout = some limit)
    (steady : ∀ j env, s.kind.now env ≤ s.kind.now (s.kind.tryExit j env).env)
    (due : limit.toNanos ≤ m.age s o) : m.Late s o :=
  (late_iff limited).mpr (Nat.le_trans due (Nat.sub_le_sub_right (steady o.job m.env) o.started))

/-- A job is found overdue exactly if its status says running and it has the age of the job timeout.
-/
lemma Turned.timedOut_iff {k : Tick} (turned : Turned s o m k m') {i : JobId} :
    k = .timedOut i ↔ i = o.ticket.id ∧ m.status s o = .ok none ∧ m.Late s o := by
  cases turned with
  | running reads early slot => simp [early]
  | @erring j f _ failed transient below slot =>
    simp [Outcome.ne_ok_of_guarded failed]
  | exited reads state => simp [reads]
  | overdue reads late ending => simp [reads, late, eq_comm]
  | unreadable failed last ending =>
    have tick := ending.settled.2
    refine iff_of_false ?_ fun h => Outcome.ne_ok_of_guarded failed _ h.2.1
    rintro rfl
    simp at tick

/-- A job whose status check reports an exit is finished with that. -/
lemma Turned.exited_of {k : Tick} (turned : Turned s o m k m') {e : Exit}
    (reads : m.status s o = .ok (some e)) :
    k = .finished o.ticket.id ∧ m'.state? o.ticket.number = some (.finished e) := by
  cases turned with
  | running reads' early slot => cases reads.symm.trans reads'
  | erring failed transient below slot => exact absurd reads (Outcome.ne_ok_of_guarded failed _)
  | exited reads' state =>
    cases reads.symm.trans reads'
    exact ⟨rfl, state⟩
  | overdue reads' late ending => cases reads.symm.trans reads'
  | unreadable failed last ending => exact absurd reads (Outcome.ne_ok_of_guarded failed _)

/-- A job that was found overdue has its sentence. -/
lemma Turned.sentenced {i : JobId} (turned : Turned s o m (.timedOut i) m') :
    Sentenced o.ticket.number m' := by
  cases turned with
  | overdue reads late ending =>
    cases ending with
    | pending presses slot => exact .pending slot rfl rfl
    | finished presses state => exact .finished state (.inl rfl)
  | unreadable failed last ending => simpa using ending.settled.2

end Limited

/-- After any requests, for a job that has the slot and is not being terminated: of the iterations
that are made once it has the age of the job timeout none finds it still running, and fewer than the
limit fail to read its status, so that by as many iterations as the limit says it is being
terminated or finished. An iteration whose check reports an exit finishes the job with that exit; it
is found overdue exactly if the check says running and it has the age of the job timeout. From then
on its termination stays the same until it is finished, whatever requests complete. -/
theorem timeout_enforced (valid : s.config.fault? = none) {limit : Duration}
    (limited : s.config.jobTimeout = some limit) (env : E) (rs : List (Request J E))
    {o : Occupant J} (held : (after s (.fresh env) rs).slot = some o) (unstopped : o.stop = none) :
    let m := after s (.fresh env) rs
    let bound := s.config.statusErrorLimit.toNat
    (∀ ks m', Overtime s o.ticket m ks m' →
      (∀ k ∈ ks, k = .statusError o.ticket.id ∨ k = .timedOut o.ticket.id ∨
        k = .stopping o.ticket.id ∨ k = .finished o.ticket.id) ∧
      ks.count (.statusError o.ticket.id) ≤ bound - 1 ∧
      (bound ≤ ks.length → m'.Settled o.ticket)) ∧
    ((∀ j e, s.kind.now e ≤ s.kind.now (s.kind.tryExit j e).env) →
      ∀ (m' : Manager J E) o', limit.toNanos ≤ m'.age s o' → m'.Late s o') ∧
    (∀ e, m.status s o = .ok (some e) → (m.work s).1 = .finished o.ticket.id ∧
      (m.work s).2.state? o.ticket.number = some (.finished e)) ∧
    (∀ i, (m.work s).1 = .timedOut i ↔
      i = o.ticket.id ∧ m.status s o = .ok none ∧ limit.toNanos ≤ m.checkedAge s o) ∧
    ∀ i, (m.work s).1 = .timedOut i →
      ∀ rs' as m', Served s (m.work s).2 rs' as m' → Sentenced o.ticket.number m' := by
  intro m bound
  obtain ⟨out, represented, -⟩ := (located_after valid env rs).represented
  have placed := represented.placed
  have turned := turned_work (s := s) placed held unstopped
  refine ⟨?_, fun steady _ _ => late_of_age limited steady, fun e => turned.exited_of, ?_, ?_⟩
  · intro ks m' overtime
    have few := (represented.sound o held).errors unstopped
    obtain ⟨-, standing⟩ := standing_of_overtime placed held unstopped few overtime
    cases standing with
    | watched held' own docket few errors =>
      refine ⟨fun k hk => .inl (errors k hk), ?_, fun reached => by omega⟩
      have fewer : ks.count (.statusError o.ticket.id) ≤ ks.length := List.count_le_length
      omega
    | settled settled few ticks =>
      exact ⟨ticks, by omega, fun _ => settled⟩
  · intro i
    rw [← late_iff limited]
    exact turned.timedOut_iff
  · intro i tick rs' as m' served
    rw [tick] at turned
    exact turned.sentenced.served (((admitting_placed s out).lasting []).work placed) served

/-- Jobs may run for a nanosecond, and two failed status checks in a row are one too many. -/
def hurried : Setup Worker Host :=
  { Setup.bare with config := { jobTimeout := some (.ofNanos 1), statusErrorLimit := 2 } }

/-- A script whose status cannot be read at first, and which no signal gets through to at first. -/
def tardy : Worker :=
  .script ⟨.ofNat 1, "scan", .always (.ok ()),
    ⟨.error (.statusUnavailable "busy"), [.ok none]⟩, ⟨.error (.terminateFailed "deaf"), [.ok ()]⟩,
    .always ⟨0, some (.ok .completed)⟩⟩

/-- Past its time, a script is looked at, killed in vain, and looked at again. By the second look
it is being terminated. -/
theorem timeout_enforced_tardy :
    let m := after hurried (.fresh {}) [.submit tardy, .work]
    hurried.config.fault? = none ∧ hurried.config.jobTimeout = some (.ofNanos 1) ∧
      ∃ o ks m', m.slot = some o ∧ o.stop = none ∧ Overtime hurried o.ticket m ks m' ∧
        ks.length = 2 ∧ ks.count (.statusError o.ticket.id) ≤ 1 ∧ m'.Settled o.ticket := by
  have valid : hurried.config.fault? = none := by decide
  have limited : hurried.config.jobTimeout = some (.ofNanos 1) := rfl
  have first : (after hurried (.fresh {}) [.submit tardy, .work]).slot.map (fun o => (o.ticket,
      o.stop, decide (1 ≤ checkedAge hurried o (after hurried (.fresh {}) [.submit tardy, .work])))) =
      some (⟨0, .ofNat 1, "scan"⟩, none, true) := of_decide_eq_true (by cbv)
  have vain : ((after hurried (.fresh {}) [.submit tardy, .work, .work]).kill hurried (.ofNat 1)
      .cancel).1 = false := of_decide_eq_true (by cbv)
  have second : (after hurried (.fresh {}) [.submit tardy, .work, .work,
      .kill (.ofNat 1) .cancel]).slot.map (fun o => (o.ticket, decide (1 ≤ checkedAge hurried o
        (after hurried (.fresh {}) [.submit tardy, .work, .work, .kill (.ofNat 1) .cancel])))) =
      some (⟨0, .ofNat 1, "scan"⟩, true) := of_decide_eq_true (by cbv)
  obtain ⟨o, held, eq⟩ := Option.map_eq_some_iff.mp first
  obtain ⟨ticket, unstopped, due⟩ : _ ∧ _ ∧ _ := by simpa using eq
  obtain ⟨o₂, held₂, eq₂⟩ := Option.map_eq_some_iff.mp second
  obtain ⟨ticket₂, due₂⟩ : _ ∧ _ := by simpa using eq₂
  have overtime := (((Overtime.refl (s := hurried) (t := o.ticket)).work held rfl
    fun _ => (late_iff limited).mpr due).kill (.ofNat 1) .cancel vain).work held₂
    (ticket₂.trans ticket.symm) fun _ => (late_iff limited).mpr due₂
  obtain ⟨enforced, -⟩ := timeout_enforced valid limited {} [.submit tardy, .work] held unstopped
  obtain ⟨-, few, settled⟩ := enforced _ _ overtime
  exact ⟨valid, limited, o, _, _, held, unstopped, overtime, rfl, few, settled (Nat.le_refl 2)⟩

end Manager
end SerialJobs
