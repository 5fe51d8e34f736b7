import SerialJobs.Proofs.Departure

/-!
# A manager with nothing to do is as good as new

A manager whose slot and queue are empty differs from a fresh one in what it has behind it: the
handles of submissions that are over, and its history. `Manager.resume` puts that behind a fresh
manager and all that has become of it since, whose submissions get later numbers then. Whatever the
jobs and the sink do, every request does the same to the manager that goes on as to the fresh one
(`Manager.serve_resume`), as long as the sink of the fresh one knows what the sink was told before
(`Setup.since`).

There is one lemma for each function of the manager, named after it.
-/

namespace SerialJobs

variable {J E α : Type}

/-- The same setup, with a sink that was told of these records before. -/
def Setup.since (s : Setup J E) (past : List Record) : Setup J E :=
  { s with sink := s.sink.map fun k => ⟨fun rs r => k.react (past ++ rs) r⟩ }

/-! ## Later numbers -/

/-- The ticket of a submission that came after `n` others. -/
def Ticket.later (n : Nat) (t : Ticket) : Ticket := { t with number := t.number + n }

/-- The transition of a submission that came after `n` others. -/
def Transition.later (n : Nat) (t : Transition) : Transition := { t with ticket := t.ticket.later n }

/-- The same event, after `n` other submissions. -/
def Event.later (n : Nat) : Event → Event
  | call t x => .call (t.later n) x
  | moved t => .moved (t.later n)
  | e => e

/-- The job in the slot, submitted after `n` others. -/
def Occupant.later (n : Nat) (o : Occupant J) : Occupant J := { o with ticket := o.ticket.later n }

/-- The queued job, submitted after `n` others. -/
def Waiting.later (n : Nat) (w : Waiting J) : Waiting J := { w with ticket := w.ticket.later n }

/-- The same errand, after `n` other submissions. -/
def Errand.later (n : Nat) : Errand → Errand
  | report t => .report (t.later n)
  | e => e

/-- The same report, after `n` other submissions. -/
def Report.later (n : Nat) (r : Report J) : Report J :=
  { r with drained := r.drained.map (·.later n) }

/-- The same answer, after `n` other submissions. -/
def Answer.later (n : Nat) : Answer J → Answer J
  | ticket t => .ticket (t.later n)
  | report r => .report (r.later n)
  | a => a

lemma Event.record?_later (n : Nat) (e : Event) : (e.later n).record? = e.record? := by
  cases e <;> rfl

namespace Manager

/-- The manager `m`, which was fresh once, with all that `old` has behind it. -/
def resume (old m : Manager J E) : Manager J E where
  env := m.env
  slot := m.slot.map (·.later old.handles.length)
  queue := m.queue.map (·.later old.handles.length)
  handles := old.handles ++ m.handles
  past := m.past.map (·.later old.handles.length) ++ old.past

end Manager

/-- The same end of a call, of the manager with all that `old` has behind it. -/
def Called.resume (old : Manager J E) (c : Called J E α) : Called J E α :=
  { c with manager := old.resume c.manager }

/-- The same end of a locked section, of the manager with all that `old` has behind it. -/
def Section.resume (old : Manager J E) (r : Section J E α) : Section J E α :=
  ⟨r.answer, r.due.map (·.later old.handles.length), old.resume r.manager⟩

namespace Manager

variable (s : Setup J E) (old m : Manager J E) (o : Occupant J) (p : PendingStop)

/-- A manager that has nothing to do has only just begun to go on. -/
lemma resume_fresh {m : Manager J E} (free : m.slot = none) (empty : m.queue = []) :
    m.resume (.fresh m.env) = m := by
  rcases m with ⟨env, slot, queue, handles, past⟩
  obtain rfl : slot = none := free
  obtain rfl : queue = [] := empty
  simp [resume, fresh]

/-- The handle after `l` is that with the number that it has beyond `l`. -/
lemma modify_append {α : Type} (l l' : List α) (n : Nat) (f : α → α) :
    (l ++ l').modify (n + l.length) f = l ++ l'.modify n f := by
  induction l with
  | nil => rfl
  | cons a l ih => simpa [← Nat.add_assoc] using ih

/-! ## News -/

@[simp] lemma note_resume (d : Diagnostic) :
    (old.resume m).note d = old.resume (m.note d) := rfl

@[simp] lemma audit_resume (e : AuditEvent) :
    (old.resume m).audit e = old.resume (m.audit e) := rfl

lemma records_resume : (old.resume m).records = old.records ++ m.records := by
  simp [records, history, resume, List.filterMap_map, Event.record?_later]

lemma enter_resume (n : Nat) (t : Transition) :
    (old.resume m).enter n (t.later old.handles.length) = old.resume (m.enter n t) := by
  simp [enter, resume, Transition.later, Ticket.later, modify_append, Event.later]

lemma startedAt_resume (t : Ticket) :
    (old.resume m).startedAt (t.later old.handles.length) = m.startedAt t := by
  simp [startedAt, resume, Ticket.later, List.getElem?_append_right]

lemma view_resume : (old.resume m).view = m.view := by
  simp [view, currentId, queuedIds, resume, Occupant.later, Waiting.later, Ticket.later,
    Function.comp_def]

lemma snapshot_resume (alive : Bool) : (old.resume m).snapshot alive = m.snapshot alive := by
  have occupancy : (old.resume m).occupancy = m.occupancy := by
    rcases held : m.slot with _ | o
    · simp [Manager.occupancy, resume, held]
    · simp only [Manager.occupancy, resume, held, Option.map_some, Occupant.later]
      exact congrArg some (congrArg (fun x => (⟨_, _, Option.map _ x, _⟩ : Occupancy))
        (old.startedAt_resume m o.ticket))
  have queued : (old.resume m).queuedIds = m.queuedIds := congrArg View.queued (old.view_resume m)
  simp only [snapshot, occupancy, queued]

/-! ## Calls on a job -/

lemma callStart_resume (t : Ticket) (j : J) :
    (old.resume m).callStart s (t.later old.handles.length) j =
      (m.callStart (s.since old.records) t j).resume old := rfl

lemma callTryExit_resume (t : Ticket) (j : J) :
    (old.resume m).callTryExit s (t.later old.handles.length) j =
      (m.callTryExit (s.since old.records) t j).resume old := rfl

lemma callTerminate_resume (t : Ticket) (c : KillCommand) (j : J) :
    (old.resume m).callTerminate s (t.later old.handles.length) c j =
      (m.callTerminate (s.since old.records) t c j).resume old := rfl

/-! ## Locked sections -/

lemma finish_resume (e : Exit) :
    (old.resume m).finish s (o.later old.handles.length) e =
      (m.finish (s.since old.records) o e).map (·.later old.handles.length) old.resume := by
  have entered := old.enter_resume m (m.now s)
    ⟨o.ticket, .finished e, some (.ofNanos (m.age s o))⟩
  exact Prod.ext rfl entered

lemma release_resume (e : Exit) :
    (old.resume m).release s (o.later old.handles.length) e =
      (m.release (s.since old.records) o e).map (·.later old.handles.length) old.resume :=
  finish_resume s old { m with slot := none } o e

lemma confirmExit_resume :
    (old.resume m).confirmExit s (o.later old.handles.length) =
      (m.confirmExit (s.since old.records) o).map id old.resume := by
  have called := callTryExit_resume s old m o.ticket o.job
  simp only [confirmExit]
  rw [Occupant.later, called]
  rcases m.callTryExit (s.since old.records) o.ticket o.job with ⟨e | _ | x, j, m'⟩ <;> rfl

lemma pursue_resume :
    (old.resume m).pursue s (o.later old.handles.length) p =
      (m.pursue (s.since old.records) o p).map id old.resume := by
  have called := callTerminate_resume s old m o.ticket p.command o.job
  simp only [pursue]
  split
  · exact confirmExit_resume s old m o
  · rw [Occupant.later, called]
    rcases m.callTerminate (s.since old.records) o.ticket p.command o.job with ⟨e | ⟨⟩, j, m'⟩
    · rfl
    · exact confirmExit_resume s old
        (m'.audit (.killed o.ticket.id o.ticket.label p.command)) { o with job := j }

lemma pursueStop_resume :
    (old.resume m).pursueStop s (o.later old.handles.length) p =
      (m.pursueStop (s.since old.records) o p).map
        (Option.map (·.later old.handles.length)) old.resume := by
  simp only [pursueStop, pursue_resume]
  rcases m.pursue (s.since old.records) o p with ⟨j | j | j, m'⟩
  · rfl
  · rfl
  · have released := release_resume s old m' { o with job := j } p.exit
    simp only [Prod.map, id]
    rw [Occupant.later] at released ⊢
    rw [released]
    rfl

lemma startHead_resume (w : Waiting J) :
    (old.resume m).startHead s (w.later old.handles.length) =
      (m.startHead (s.since old.records) w).resume old := by
  have called := callStart_resume s old m w.ticket w.job
  have waiting : (old.resume m).queue.length = m.queue.length := List.length_map ..
  simp only [startHead, waiting]
  rw [Waiting.later, called]
  rcases m.callStart (s.since old.records) w.ticket w.job with ⟨e | ⟨⟩, j, m'⟩
  · have entered := old.enter_resume (m'.note (.startFailed w.ticket.id w.ticket.label e))
      (m'.now s) ⟨w.ticket, .finished (.startFailed e.message), none⟩
    exact congrArg (Section.mk _ _) entered
  · have entered := old.enter_resume
      (m'.note (.jobStarted w.ticket.id w.ticket.label m.queue.length)) (m'.now s)
      ⟨w.ticket, .running, none⟩
    let o : Occupant J := ⟨w.ticket.later old.handles.length, j, m'.now s, 0, none⟩
    exact congrArg (fun r => Section.mk (Tick.started w.ticket.id)
      (some ⟨o.ticket, .running, none⟩) (keep o r)) entered

lemma check_resume :
    (old.resume m).check s (o.later old.handles.length) =
      (m.check (s.since old.records) o).map id
        (Prod.map (·.later old.handles.length) old.resume) := by
  have called : (old.resume m).callTryExit s (o.later old.handles.length).ticket
      (o.later old.handles.length).job =
        (m.callTryExit (s.since old.records) o.ticket o.job).resume old := rfl
  have errors : (o.later old.handles.length).statusErrors = o.statusErrors := rfl
  have config : (s.since old.records).config = s.config := rfl
  simp only [check, called, errors, config]
  rcases m.callTryExit (s.since old.records) o.ticket o.job with ⟨e | _ | x, j, m'⟩
  · simp only [Called.resume]
    split <;> rfl
  · rfl
  · rfl

/-- A section that ends with a termination gone on with, and answers by what is left of it. -/
lemma section_resume {α : Type} (answer : Bool → α) {r r' : Option Transition × Manager J E}
    (h : r' = r.map (Option.map (·.later old.handles.length)) old.resume) :
    Section.mk (answer r'.1.isSome) r'.1 r'.2 =
      (Section.mk (answer r.1.isSome) r.1 r.2).resume old := by
  rw [h]
  simp [Section.resume]

/-- A section that ends with a job that leaves the slot. -/
lemma released_resume {α : Type} (answer : α) {r r' : Transition × Manager J E}
    (h : r' = r.map (·.later old.handles.length) old.resume) :
    Section.mk answer (some r'.1) r'.2 = (Section.mk answer (some r.1) r.2).resume old := by
  rw [h]
  rfl

lemma superviseRunning_resume :
    (old.resume m).superviseRunning s (o.later old.handles.length) =
      (m.superviseRunning (s.since old.records) o).resume old := by
  simp only [superviseRunning, check_resume]
  rcases m.check (s.since old.records) o with ⟨x, o', m'⟩
  cases x with
  | running => rfl
  | statusError => rfl
  | exited e =>
    let told := m'.note (.jobFinished o.ticket.id o'.ticket.label e (.ofNanos (m'.age s o')))
    exact old.released_resume (Tick.finished o.ticket.id) (release_resume s old told o' e)
  | overdue =>
    let told := m'.note (.overdue o.ticket.id o'.ticket.label s.config.jobTimeout)
    exact old.section_resume (fun _ => Tick.timedOut o.ticket.id)
      (pursueStop_resume s old told o' ⟨.timeout, .killed .timeout, false⟩)
  | unreadable e =>
    let told := m'.note (.unreadable o.ticket.id o'.ticket.label o'.statusErrors e)
    exact old.section_resume
      (fun left => if left then Tick.finished o.ticket.id else .stopping o.ticket.id)
      (pursueStop_resume s old told o' ⟨.timeout, .unresponsive e.message, false⟩)

lemma supervise_resume :
    (old.resume m).supervise s (o.later old.handles.length) =
      (m.supervise (s.since old.records) o).resume old := by
  have same : (o.later old.handles.length).stop = o.stop := rfl
  unfold supervise
  rw [same]
  split
  · exact superviseRunning_resume s old m o
  next p _ =>
    exact old.section_resume
      (fun left => if left then Tick.finished o.ticket.id else .stopping o.ticket.id)
      (pursueStop_resume s old m o p)

lemma tickSection_resume :
    (old.resume m).tickSection s = (m.tickSection (s.since old.records)).resume old := by
  rcases m with ⟨env, _ | o, _ | ⟨w, ws⟩, handles, past⟩
  · rfl
  · exact startHead_resume s old ⟨env, none, ws, handles, past⟩ w
  · exact supervise_resume s old ⟨env, some o, [], handles, past⟩ o
  · exact supervise_resume s old ⟨env, some o, w :: ws, handles, past⟩ o

lemma killOccupant_resume (c : KillCommand) :
    (old.resume m).killOccupant s (o.later old.handles.length) c =
      (m.killOccupant (s.since old.records) o c).resume old := by
  have same : (o.later old.handles.length).stop = o.stop := rfl
  simp only [killOccupant, same, pursue_resume]
  rcases m.pursue (s.since old.records) o (o.stop.getD ⟨c, .killed c, false⟩) with
    ⟨j | j | j, m'⟩
  · rfl
  · rfl
  · exact old.released_resume true (release_resume s old m' { o with job := j } _)

lemma killSection_resume (i : JobId) (c : KillCommand) :
    (old.resume m).killSection s i c = (m.killSection (s.since old.records) i c).resume old := by
  rcases m with ⟨env, _ | o, queue, handles, past⟩
  · rfl
  · have same : (o.later old.handles.length).ticket.id = o.ticket.id := rfl
    simp only [killSection, resume, Option.map_some, same]
    split
    · exact killOccupant_resume s old ⟨env, some o, queue, handles, past⟩ o c
    · rfl

/-! ## Announcements -/

lemma tell_resume (t : Transition) :
    (old.resume m).tell s (t.later old.handles.length) =
      (m.tell (s.since old.records) t).map (List.map (·.later old.handles.length))
        old.resume := by
  simp only [tell]
  rcases hs : s.sink with _ | k
  · simp only [Setup.since, hs]
    rfl
  · have record : (t.later old.handles.length).record = t.record := rfl
    simp only [Setup.since, hs, Option.map_some, record, records_resume, view_resume]
    rcases k.react (old.records ++ m.records) t.record with ⟨acts, _ | p⟩ <;>
      simp [Errand.later, Function.comp_def] <;> rfl

lemma follow_resume {α : Type} (r : Section J E α) {x : Errand}
    (same : x.later old.handles.length = x) :
    follow s (r.resume old) x = (follow (s.since old.records) r x).map
      (List.map (·.later old.handles.length)) old.resume := by
  rcases r with ⟨a, _ | t, m'⟩
  · simp [follow, Section.resume, same]
  · simp [follow, Section.resume, tell_resume, same]

lemma perform_resume (a : Act) :
    (old.resume m).perform s a = (m.perform (s.since old.records) a).map
      (List.map (·.later old.handles.length)) old.resume := by
  cases a with
  | work =>
    simp only [perform, tickSection_resume]
    exact follow_resume s old _ rfl
  | kill i c =>
    simp only [perform, killSection_resume]
    exact follow_resume s old _ rfl

lemma discharge_resume (e : Errand) :
    (old.resume m).discharge s (e.later old.handles.length) =
      old.resume (m.discharge (s.since old.records) e) := by
  cases e <;> rfl

lemma run_resume (es : List Errand) :
    run s (es.map (·.later old.handles.length)) (old.resume m) =
      old.resume (run (s.since old.records) es m) := by
  induction es, m using run.induct (s.since old.records) with
  | case1 m => simp [run]
  | case2 a es m ih =>
    have same : (Errand.act a).later old.handles.length = .act a := rfl
    rw [run, List.map_cons, same, run, perform_resume]
    simpa using ih
  | case3 e es m hne ih =>
    rw [List.map_cons, run, run, discharge_resume, ih]
    · exact hne
    · intro a ha
      cases e <;> simp [Errand.later] at ha
      exact hne _ rfl

lemma announce_resume (t : Transition) :
    (old.resume m).announce s (t.later old.handles.length) =
      old.resume (m.announce (s.since old.records) t) := by
  simp only [announce, tell_resume]
  exact run_resume s old _ _

lemma announceDue_resume {α : Type} (r : Section J E α) :
    announceDue s (r.resume old) = old.resume (announceDue (s.since old.records) r) := by
  rcases r with ⟨a, _ | t, m'⟩
  · rfl
  · exact announce_resume s old m' t

lemma announceLast_resume (t : Transition) :
    (old.resume m).announceLast s (t.later old.handles.length) =
      old.resume (m.announceLast (s.since old.records) t) := by
  simp only [announceLast]
  rcases hs : s.sink with _ | k
  · simp only [Setup.since, hs]
    rfl
  · have record : (t.later old.handles.length).record = t.record := rfl
    simp only [Setup.since, hs, Option.map_some, record, records_resume]
    rcases (k.react (old.records ++ m.records) t.record).panic with _ | p <;> rfl

/-! ## Requests -/

lemma register_resume (t : Ticket) :
    (old.resume m).register s (t.later old.handles.length) =
      old.resume (m.register (s.since old.records) t) := by
  simp only [register, resume, List.append_assoc]
  rfl

lemma enqueue_resume (w : Waiting J) :
    (old.resume m).enqueue (w.later old.handles.length) = old.resume (m.enqueue w) := by
  simp [enqueue, resume]

lemma submit_resume (j : J) :
    (old.resume m).submit s j =
      (m.submit (s.since old.records) j).map (·.later old.handles.length) old.resume := by
  have ticket : (old.resume m).nextTicket s j =
      (m.nextTicket (s.since old.records) j).later old.handles.length := by
    simp [nextTicket, resume, Ticket.later, Setup.since, Nat.add_comm]
  have announced (m : Manager J E) (t : Ticket) :
      (old.resume m).announce s ⟨t.later old.handles.length, .queued, none⟩ =
        old.resume (m.announce (s.since old.records) ⟨t, .queued, none⟩) :=
    announce_resume s old m ⟨t, .queued, none⟩
  have enqueued (m : Manager J E) (t : Ticket) :
      (old.resume m).enqueue ⟨t.later old.handles.length, j⟩ = old.resume (m.enqueue ⟨t, j⟩) :=
    old.enqueue_resume m ⟨t, j⟩
  have waiting (m : Manager J E) : (old.resume m).queue.length = m.queue.length :=
    List.length_map ..
  simp only [submit, ticket, register_resume, announced, enqueued, waiting]
  rfl

lemma work_resume :
    (old.resume m).work s = (m.work (s.since old.records)).map id old.resume := by
  simp only [work, tickSection_resume, announceDue_resume]
  rfl

lemma kill_resume (i : JobId) (c : KillCommand) :
    (old.resume m).kill s i c = (m.kill (s.since old.records) i c).map id old.resume := by
  simp only [kill, killSection_resume, announceDue_resume]
  rfl

lemma iterate_resume (l : Loop) :
    Service.iterate s l (old.resume m) =
      (Service.iterate (s.since old.records) l m).map id old.resume := by
  have worked : ({ old.resume m with env := s.kind.moment (old.resume m).env } :
      Manager J E).work s =
        (({ m with env := s.kind.moment m.env } : Manager J E).work (s.since old.records)).map id
          old.resume :=
    work_resume s old { m with env := s.kind.moment m.env }
  have clock (m : Manager J E) : (old.resume m).now s = m.now (s.since old.records) := rfl
  have config : (s.since old.records).config = s.config := rfl
  have moment : (s.since old.records).kind = s.kind := rfl
  simp only [Service.iterate, worked, clock, config, moment]
  rcases ({ m with env := s.kind.moment m.env } : Manager J E).work (s.since old.records) with
    ⟨k, m'⟩
  simp only [Prod.map_apply, id, clock, snapshot_resume, audit_resume]
  -- a look at the condition itself would have the kernel compute nanoseconds
  by_cases due : s.config.heartbeatInterval.toNanos ≤
      m'.now (s.since old.records) - l.lastBeat.getD (m.now (s.since old.records))
  · simp only [if_pos due]
    rfl
  · simp only [if_neg due]
    rfl

/-! ## The end of a manager -/

lemma signalLast_resume :
    (old.resume m).signalLast s (o.later old.handles.length) =
      (m.signalLast (s.since old.records) o).map id (Prod.map id old.resume) := by
  have same : (o.later old.handles.length).stop = o.stop := rfl
  have called : (old.resume m).callTerminate s (o.later old.handles.length).ticket .shutdown
      (o.later old.handles.length).job =
        (m.callTerminate (s.since old.records) o.ticket .shutdown o.job).resume old := rfl
  unfold signalLast
  rw [same]
  split
  · rfl
  · simp only [called]
    rcases m.callTerminate (s.since old.records) o.ticket .shutdown o.job with ⟨e | ⟨⟩, j, m'⟩ <;>
      rfl

lemma awaitExit_resume (t : Ticket) (j : J) :
    (old.resume m).awaitExit s (t.later old.handles.length) j =
      (m.awaitExit (s.since old.records) t j).map id old.resume := by
  have wait : s.kind.wait s.config.shutdownTimeout j (old.resume m).env =
      s.kind.wait s.config.shutdownTimeout j m.env := rfl
  have same : (s.since old.records).kind.wait (s.since old.records).config.shutdownTimeout j m.env =
      s.kind.wait s.config.shutdownTimeout j m.env := rfl
  simp only [awaitExit, wait, same]
  rcases s.kind.wait s.config.shutdownTimeout j m.env with ⟨x, j', env⟩
  cases x <;> rfl

lemma shutDown_resume :
    (old.resume m).shutDown s (o.later old.handles.length) =
      (m.shutDown (s.since old.records) o).map id old.resume := by
  simp only [shutDown, signalLast_resume]
  rcases m.signalLast (s.since old.records) o with ⟨e, j, m₁⟩
  have awaited : (old.resume m₁).awaitExit s (o.later old.handles.length).ticket j =
      (m₁.awaitExit (s.since old.records) o.ticket j).map id old.resume :=
    awaitExit_resume s old m₁ o.ticket j
  simp only [Prod.map, id, awaited]
  rcases m₁.awaitExit (s.since old.records) o.ticket j with ⟨p | ⟨⟩, m₂⟩
  · rfl
  · simp only [finish_resume, Prod.map, announce_resume]

lemma stop_resume :
    (old.resume m).stop s =
      (m.stop (s.since old.records)).map (Except.map (·.later old.handles.length)) old.resume := by
  have concluded (i : Option JobId) (m' : Manager J E) :
      (old.resume m').concludeStop i =
        (m'.concludeStop i).map (·.later old.handles.length) old.resume := by
    have waiting : (old.resume m').queue.length = m'.queue.length := List.length_map ..
    simp only [concludeStop, drain, waiting]
    rfl
  have vacated : (old.resume m).vacate =
      m.vacate.map (Option.map (·.later old.handles.length)) old.resume := rfl
  simp only [stop, vacated]
  rcases m.vacate with ⟨_ | o, m₁⟩
  · simp only [Prod.map, Option.map_none, concluded]
    rfl
  · simp only [Prod.map, Option.map_some, shutDown_resume]
    rcases m₁.shutDown (s.since old.records) o with ⟨p | ⟨⟩, m₂⟩
    · rfl
    · have same : (o.later old.handles.length).ticket.id = o.ticket.id := rfl
      simp only [Prod.map, id, same, concluded]
      rfl

lemma drop_resume : (old.resume m).drop s = old.resume (m.drop (s.since old.records)) := by
  have vacated : (old.resume m).vacate =
      m.vacate.map (Option.map (·.later old.handles.length)) old.resume := rfl
  simp only [drop, vacated]
  rcases m.vacate with ⟨_ | o, m₁⟩
  · rfl
  · have same : (o.later old.handles.length).ticket.id = o.ticket.id := rfl
    simp only [Prod.map, Option.map_some, same, note_resume, signalLast_resume]
    rcases (m₁.note (.dropped o.ticket.id)).signalLast (s.since old.records) o with ⟨e, j, m₂⟩
    simp only [Prod.map, id, finish_resume, announceLast_resume]
    rfl

/-- A request does the same to the manager that goes on as to the fresh one. -/
theorem serve_resume (r : Request J E) :
    (old.resume m).serve s r = (m.serve (s.since old.records) r).map
      (Except.map (·.later old.handles.length)) old.resume := by
  cases r with
  | submit j => simp only [serve, submit_resume]; rfl
  | work => simp only [serve, work_resume]; rfl
  | iterate l =>
    have iterated := iterate_resume s old m l
    -- without a name for it the kernel would run the iteration
    rcases hm : Service.iterate (s.since old.records) l m with ⟨l', m'⟩
    rw [hm] at iterated
    simp only [serve, iterated, hm]
    rfl
  | kill i c => simp only [serve, kill_resume]; rfl
  | stop =>
    simp only [serve, stop_resume]
    rcases m.stop (s.since old.records) with ⟨p | r, m'⟩ <;> rfl
  | pass env => rfl

end Manager
end SerialJobs
