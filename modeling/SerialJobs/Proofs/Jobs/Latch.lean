import SerialJobs.Proofs.Jobs.Puppets

/-!
# A job reports one exit

A job that has reported an exit has latched it: from then on every check and every wait reports the
same one, whatever is called in between and whatever becomes of the process, of the task or of the
clock. Routines and programs are over for good as well: they cannot be started, and there is nothing
left to terminate (`Worker.exit_latched`).

Where a job keeps the exit that it has reported, and what one call does to it, is a `Latch`. There is
one for each kind, and what holds of a row of calls is shown for all of them at once.
-/

namespace SerialJobs

variable {J E : Type}

namespace Exchange

/-- The exchange reports this exit, if it is one that can report an exit. -/
def Repeats (e : Exit) : Exchange → Prop
  | tryExit o => o = .ok (some e)
  | wait o => o = .exited e
  | _ => True

/-- The exchange is not a start that succeeds, nor a termination that fails. -/
def FindsOver : Exchange → Prop
  | start o => ∃ f, o = .error f
  | terminate _ o => o = .ok ()
  | _ => True

end Exchange

/-- How the jobs of a kind keep the exit that they have reported. -/
structure Latch (k : JobKind J E) where
  /-- The exit that a job has reported. -/
  exit : J → Option Exit
  /-- What every call keeps. -/
  Sound : J → Prop
  /-- What is true of every answer after the exit. -/
  Upholds : Exit → Exchange → Prop
  sound : ∀ {j}, Sound j → ∀ c e, Sound (k.call c j e).job
  reported : ∀ {j}, Sound j → ∀ c e x,
    (k.call c j e).outcome.exit? = some x → exit (k.call c j e).job = some x
  kept : ∀ {j x}, Sound j → exit j = some x → ∀ c e,
    exit (k.call c j e).job = some x ∧ Upholds x (k.call c j e).outcome

namespace Latch

variable {k : JobKind J E} (l : Latch k)

lemma upholds {j : J} {x : Exit} (sound : l.Sound j) (latched : l.exit j = some x)
    (cs : List (JobCall × E)) : ∀ y ∈ k.exchanges j cs, l.Upholds x y := by
  induction cs generalizing j with
  | nil => simp [JobKind.exchanges]
  | cons c cs ih =>
    obtain ⟨latched', upheld⟩ := l.kept sound latched c.1 c.2
    simp only [JobKind.exchanges, List.mem_cons, forall_eq_or_imp]
    exact ⟨upheld, ih (l.sound sound c.1 c.2) latched'⟩

lemma pairwise {j : J} (sound : l.Sound j) (cs : List (JobCall × E)) :
    (k.exchanges j cs).Pairwise fun x y => ∀ e, x.exit? = some e → l.Upholds e y := by
  induction cs generalizing j with
  | nil => exact .nil
  | cons c cs ih =>
    have sound' := l.sound sound c.1 c.2
    refine .cons ?_ (ih sound')
    intro y later e reports
    exact l.upholds sound' (l.reported sound c.1 c.2 e reports) cs y later

end Latch

/-! ## Puppets -/

namespace Puppet

variable {p q : Puppet} {h h' : Host} {e : Exit}

lemma Begun.finished {r : Reply Puppet Host (Outcome Unit)} (begun : Begun p h r) :
    r.job.finished = p.finished := by
  cases begun <;> rfl

lemma Ended.latched {c : KillCommand} {r : Reply Puppet Host (Outcome Unit)} (ended : Ended c p h r)
    (finished : p.finished = some e) : r.job.finished = some e := by
  cases ended with
  | finishes delivers ready unfinished => simp [unfinished] at finished
  | _ => exact finished

lemma Checked.latched {r : Reply Puppet Host (Outcome (Option Exit))} (checked : Checked p h r)
    (reports : r.outcome = .ok (some e)) : r.job.finished = some e := by
  cases checked with
  | known finished =>
    cases reports
    exact finished
  | quiet unfinished silent => exact absurd reports (silent e)
  | finishes =>
    cases reports
    rfl

lemma Checked.repeats {r : Reply Puppet Host (Outcome (Option Exit))} (checked : Checked p h r)
    (finished : p.finished = some e) : r.outcome = .ok (some e) ∧ r.job = p := by
  cases checked with
  | known finished' =>
    obtain rfl := Option.some.inj (finished'.symm.trans finished)
    exact ⟨rfl, rfl⟩
  | quiet unfinished => simp [unfinished] at finished
  | finishes unfinished => simp [unfinished] at finished

lemma look_eq_exited {x y : Puppet × Host} (looked : look x = (some (.exited e), y)) :
    (x.1.tryExit x.2).outcome = .ok (some e) ∧ (x.1.tryExit x.2).job = y.1 := by
  obtain ⟨seen, rfl⟩ := Prod.mk.inj looked
  refine ⟨?_, rfl⟩
  rcases o : (x.1.tryExit x.2).outcome with (_ | e') | f | p
  · simp [o] at seen
  · simpa [o] using seen
  · cases f <;> simp [o] at seen
  · simp [o] at seen

lemma finished_of_looked {x : Puppet × Host} {r : Option WaitOutcome × Puppet × Host}
    (looked : Stage.Looked look Undisturbed x r) (reports : r.1 = some (.exited e)) :
    r.2.1.finished = some e := by
  induction looked with
  | seen looked =>
    cases reports
    obtain ⟨answer, job⟩ := look_eq_exited looked
    rw [← job]
    exact (checked_tryExit _ _).latched answer
  | last => simp at reports
  | again looked passes rest ih => exact ih reports

/-- Who waits for a puppet that has finished sees at once with what. -/
lemma looked_of_finished {x : Puppet × Host} {r : Option WaitOutcome × Puppet × Host}
    (looked : Stage.Looked look Undisturbed x r) (finished : x.1.finished = some e) :
    r.1 = some (.exited e) ∧ r.2.1 = x.1 := by
  obtain ⟨answer, job⟩ := (checked_tryExit x.1 x.2).repeats finished
  have sees : look x = (some (.exited e), (x.1.tryExit x.2).job, (x.1.tryExit x.2).env) := by
    simp only [look, answer]
  cases looked with
  | seen looked =>
    cases sees.symm.trans looked
    exact ⟨rfl, job⟩
  | last looked => simp [sees] at looked
  | again looked => simp [sees] at looked

lemma finished_of_wait (limit : Duration) (reports : (p.wait limit h).outcome = .exited e) :
    (p.wait limit h).job.finished = some e := by
  obtain ⟨seen, answer, looked⟩ := p.looked_wait h limit
  have sees : seen = some (.exited e) := by
    cases seen with
    | none => simp [reports] at answer
    | some o => simpa [reports] using answer.symm
  have finished := finished_of_looked looked sees
  exact finished

lemma wait_of_finished (limit : Duration) (finished : p.finished = some e) :
    (p.wait limit h).outcome = .exited e ∧ (p.wait limit h).job = p := by
  obtain ⟨seen, answer, looked⟩ := p.looked_wait h limit
  obtain ⟨sees, job⟩ := looked_of_finished looked finished
  obtain rfl : seen = some (.exited e) := sees
  exact ⟨answer, job⟩

/-- A puppet keeps the exit that it has finished with. -/
def latch : Latch kind where
  exit := finished
  Sound _ := True
  Upholds := Exchange.Repeats
  sound _ _ _ := trivial
  reported := by
    intro p _ c h x reports
    cases c with
    | start => cases reports
    | tryExit => exact (checked_tryExit p h).latched (Exchange.exit?_tryExit.mp reports)
    | terminate c => cases reports
    | wait limit => exact finished_of_wait limit (Exchange.exit?_wait.mp reports)
  kept := by
    intro p x _ finished c h
    cases c with
    | start => exact ⟨(begun_start p h).finished.trans finished, trivial⟩
    | tryExit =>
      obtain ⟨answer, job⟩ := (checked_tryExit p h).repeats finished
      exact ⟨(congrArg Puppet.finished job).trans finished, answer⟩
    | terminate c => exact ⟨(ended_terminate p h c).latched finished, trivial⟩
    | wait limit =>
      obtain ⟨answer, job⟩ := wait_of_finished limit finished
      exact ⟨(congrArg Puppet.finished job).trans finished, answer⟩

end Puppet

/-! ## Routines and programs -/

section Final

variable (exit : J → Option Exit) (Sound : J → Prop)

/-- What a check or a wait finds out, and the job after it. -/
inductive Reading (j : J) : Option Exit → J → Prop
  | known {e : Exit} (known : exit j = some e) : Reading j (some e) j
  | nothing (unknown : exit j = none) : Reading j none j
  | settled {e : Exit} {j' : J} (unknown : exit j = none) (settled : exit j' = some e)
      (sound : Sound j → Sound j') : Reading j (some e) j'

/-- The jobs of a kind are over for good once they have been found to have exited. -/
structure Final (k : JobKind J E) : Prop where
  start : ∀ {j}, Sound j → ∀ e, Sound (k.start j e).job ∧
    ∀ x, exit j = some x → exit (k.start j e).job = some x ∧ ∃ f, (k.start j e).outcome = .error f
  tryExit : ∀ j e, ∃ seen, Reading exit Sound j seen (k.tryExit j e).job ∧
    ∀ x, (k.tryExit j e).outcome = .ok (some x) ↔ seen = some x
  terminate : ∀ {j}, Sound j → ∀ c e, Sound (k.terminate c j e).job ∧
    ∀ x, exit j = some x →
      exit (k.terminate c j e).job = some x ∧ (k.terminate c j e).outcome = .ok ()
  wait : ∀ limit j e, ∃ seen, Reading exit Sound j seen (k.wait limit j e).job ∧
    ∀ x, (k.wait limit j e).outcome = .exited x ↔ seen = some x

variable {exit Sound} {j j' : J} {seen : Option Exit} {e : Exit}

lemma Reading.latched (reading : Reading exit Sound j (some e) j') : exit j' = some e := by
  cases reading with
  | known known => exact known
  | settled unknown settled => exact settled

lemma Reading.repeats (reading : Reading exit Sound j seen j') (known : exit j = some e) :
    seen = some e ∧ exit j' = some e := by
  cases reading with
  | known known' => exact ⟨known'.symm.trans known, known⟩
  | nothing unknown => simp [unknown] at known
  | settled unknown => simp [unknown] at known

lemma Reading.sound (reading : Reading exit Sound j seen j') (sound : Sound j) : Sound j' := by
  cases reading with
  | settled unknown settled sound' => exact sound' sound
  | _ => exact sound

/-- Such jobs have latched their exit. -/
def Final.latch {k : JobKind J E} (final : Final exit Sound k) : Latch k where
  exit := exit
  Sound := Sound
  Upholds e x := x.Repeats e ∧ x.FindsOver
  sound := by
    intro j sound c e
    cases c with
    | start => exact (final.start sound e).1
    | tryExit =>
      obtain ⟨seen, reading, -⟩ := final.tryExit j e
      exact reading.sound sound
    | terminate c => exact (final.terminate sound c e).1
    | wait limit =>
      obtain ⟨seen, reading, -⟩ := final.wait limit j e
      exact reading.sound sound
  reported := by
    intro j _ c e x reports
    cases c with
    | start => cases reports
    | tryExit =>
      obtain ⟨seen, reading, answer⟩ := final.tryExit j e
      obtain rfl := (answer x).mp (Exchange.exit?_tryExit.mp reports)
      exact reading.latched
    | terminate c => cases reports
    | wait limit =>
      obtain ⟨seen, reading, answer⟩ := final.wait limit j e
      obtain rfl := (answer x).mp (Exchange.exit?_wait.mp reports)
      exact reading.latched
  kept := by
    intro j x sound known c e
    cases c with
    | start =>
      obtain ⟨known', refused⟩ := (final.start sound e).2 x known
      exact ⟨known', trivial, refused⟩
    | tryExit =>
      obtain ⟨seen, reading, answer⟩ := final.tryExit j e
      obtain ⟨sees, known'⟩ := reading.repeats known
      exact ⟨known', (answer x).mpr sees, trivial⟩
    | terminate c =>
      obtain ⟨known', closed⟩ := (final.terminate sound c e).2 x known
      exact ⟨known', trivial, closed⟩
    | wait limit =>
      obtain ⟨seen, reading, answer⟩ := final.wait limit j e
      obtain ⟨sees, known'⟩ := reading.repeats known
      exact ⟨known', (answer x).mpr sees, trivial⟩

end Final

namespace Routine

/-- No call was made on the routine. -/
structure IsNew (j : Routine) : Prop where
  plan : j.plan.isSome
  task : j.task = none
  killed : j.killed = none
  exit : j.exit = none

/-- A routine that has had a task has handed over its plan. -/
def Sound (j : Routine) : Prop := j.task.isSome ∨ j.exit.isSome → j.plan = none

lemma IsNew.sound {j : Routine} (new : j.IsNew) : j.Sound := by
  simp [Sound, new.task, new.exit]

/-- A task that has ended settles the exit. -/
lemma reading_conclude {j : Routine} (unknown : j.exit = none) {n : Nat} (task : j.task = some n)
    (t : TaskEnd) : Reading exit Sound j (some (j.conclude t).1) (j.conclude t).2 :=
  .settled unknown rfl fun sound _ => sound (.inl (by simp [task]))

/-- A routine cannot be started once its task has ended, whose exit it keeps. -/
lemma final : Final exit Sound kind where
  start := by
    intro j sound h
    constructor
    · simp only [kind, start]
      repeat' split
      · exact sound
      all_goals exact fun _ => rfl
    · intro x known
      have refused : j.start h = ⟨.error (alreadyStarted j.label), j, h⟩ := by
        simp only [start, sound (.inr (by simp [known]))]
      simp only [kind, refused]
      exact ⟨known, _, rfl⟩
  tryExit j h := by
    simp only [kind, tryExit]
    split
    next e n known => exact ⟨_, .known known, fun _ => by simp⟩
    next unknown _ => exact ⟨_, .nothing unknown, fun _ => by simp⟩
    next n unknown task =>
      split
      next => exact ⟨_, .nothing unknown, fun _ => by simp⟩
      next =>
        split
        next t _ => exact ⟨_, reading_conclude unknown task t, fun _ => by simp⟩
        next => exact ⟨_, .nothing unknown, fun _ => by simp⟩
  terminate := by
    intro j sound c h
    constructor
    · simp only [kind, terminate]
      split <;> exact sound
    · intro x known
      simp only [kind, terminate, known]
      exact ⟨trivial, trivial⟩
  wait limit j h := by
    simp only [kind, wait]
    split
    next e n known => exact ⟨_, .known known, fun _ => by simp⟩
    next unknown _ => exact ⟨_, .nothing unknown, fun _ => by simp⟩
    next n unknown task =>
      split
      next => exact ⟨_, .nothing unknown, fun _ => by simp⟩
      next t _ => exact ⟨_, reading_conclude unknown task t, fun _ => by simp⟩

end Routine

namespace Program

/-- No call was made on the program. -/
structure IsNew (p : Program) : Prop where
  child : p.child = none
  reaped : p.reaped = false
  killed : p.killed = none
  exit : p.exit = none

/-- A program that has an exit has had a process. -/
def Sound (p : Program) : Prop := p.exit.isSome → p.child.isSome

lemma IsNew.sound {p : Program} (new : p.IsNew) : p.Sound := by
  simp [Sound, new.exit]

/-- A process that has ended settles the exit. -/
lemma reading_conclude {p : Program} (unknown : p.exit = none) {child : Child}
    (started : p.child = some child) (s : ExitStatus) :
    Reading exit Sound p (some (p.conclude s).1) (p.conclude s).2 :=
  .settled unknown rfl fun _ _ => by simp [conclude, started]

/-- A program cannot be started once its process has ended, whose exit it keeps. -/
lemma final : Final exit Sound kind where
  start := by
    intro p sound h
    constructor
    · simp only [kind, start]
      split
      · exact sound
      · split
        · exact fun _ => rfl
        · exact sound
        · exact sound
    · intro x known
      have running : p.child.isSome := sound (by simp [known])
      simp only [kind, start, running, if_true]
      exact ⟨known, _, rfl⟩
  tryExit p h := by
    simp only [kind, tryExit]
    split
    next e n known => exact ⟨_, .known known, fun _ => by simp⟩
    next unknown _ => exact ⟨_, .nothing unknown, fun _ => by simp⟩
    next child unknown started =>
      split
      next => exact ⟨_, .nothing unknown, fun _ => by simp⟩
      next => exact ⟨_, .nothing unknown, fun _ => by simp⟩
      next s _ => exact ⟨_, reading_conclude unknown started s, fun _ => by simp⟩
  terminate := by
    intro p sound c h
    constructor
    · simp only [kind, terminate]
      split
      next => exact sound
      next => exact sound
      next child unknown started =>
        -- no process, no exit: there is nothing that the new fields could break
        have alive : ¬p.exit.isSome := by simp [unknown]
        repeat' split
        all_goals exact fun known => absurd known alive
    · intro x known
      simp only [kind, terminate, known]
      exact ⟨trivial, trivial⟩
  wait limit p h := by
    simp only [kind, wait]
    split
    next e n known => exact ⟨_, .known known, fun _ => by simp⟩
    next unknown _ => exact ⟨_, .nothing unknown, fun _ => by simp⟩
    next child unknown started =>
      split
      next => exact ⟨_, .nothing unknown, fun _ => by simp⟩
      next => exact ⟨_, .nothing unknown, fun _ => by simp⟩
      next s _ => exact ⟨_, reading_conclude unknown started s, fun _ => by simp⟩

end Program

/-! ## Workers -/

namespace Worker

/-- No call was made on the worker, which is of a kind that looks after itself. -/
inductive IsNew : Worker → Prop
  | puppet {p : Puppet} (new : p.IsNew) : IsNew (.puppet p)
  | routine {j : Routine} (new : j.IsNew) : IsNew (.routine j)
  | program {p : Program} (new : p.IsNew) : IsNew (.program p)

/-- Whatever calls are made on a worker and whatever becomes of the host in between: once a check or
a wait has reported an exit, every later one reports this exit. Unless the worker is a puppet, every
later start fails and every later termination succeeds. -/
theorem exit_latched {w : Worker} (new : w.IsNew) (calls : List (JobCall × Host)) :
    (kind.exchanges w calls).Pairwise fun x y => ∀ e, x.exit? = some e →
      y.Repeats e ∧ ((∀ p, w ≠ .puppet p) → y.FindsOver) := by
  cases new with
  | @puppet p new =>
    rw [exchanges_puppet]
    refine (Puppet.latch.pairwise trivial _).imp fun upholds e reports => ?_
    exact ⟨upholds e reports, fun other => absurd rfl (other p)⟩
  | routine new =>
    rw [exchanges_routine]
    refine (Routine.final.latch.pairwise new.sound _).imp fun upholds e reports => ?_
    exact ⟨(upholds e reports).1, fun _ => (upholds e reports).2⟩
  | program new =>
    rw [exchanges_program]
    refine (Program.final.latch.pairwise new.sound _).imp fun upholds e reports => ?_
    exact ⟨(upholds e reports).1, fun _ => (upholds e reports).2⟩

/-- A routine that never ends by itself. -/
def idler : Worker := .routine ⟨.ofNat 1, "idle", some (.task .pending), none, none, none⟩

/-- It is cancelled, and asked again and again what has become of it. -/
def inquiries : List (JobCall × Host) :=
  let running : Host := { tasks := [{ work := .pending }] }
  let gone : Host := { tasks := [{ work := .pending, ended := some .cancelled }] }
  [(.start, {}), (.terminate .pause, running), (.terminate .cancel, running), (.tryExit, gone),
    (.terminate .timeout, gone), (.start, {}), (.tryExit, {}), (.wait (.ofNanos 0), {})]

/-- A program. -/
def scanner : Worker := .program { id := .ofNat 2, label := "scan", command := { program := "scan" } }

/-- A host on which every program can be spawned, and looks as given. -/
def hosting (status : Except SystemError (Option ExitStatus)) : Host :=
  { system := { spawn := fun _ _ _ => .ok, status := fun _ _ => status } }

/-- A host on which no process can be killed. -/
def shielding : Host := { system := { kill := fun _ _ => .error { message := "not permitted" } } }

/-- It is started in vain and then for good. After a look and a kill that fail it is found to have
ended with a code, and the system tells another story from then on. -/
def visits : List (JobCall × Host) :=
  [(.start, {}), (.start, hosting (.ok none)), (.tryExit, hosting (.ok none)),
    (.tryExit, hosting (.error { message := "interrupted" })), (.terminate .cancel, shielding),
    (.tryExit, hosting (.ok (some (.code 3)))), (.terminate .cancel, shielding),
    (.start, hosting (.ok none)), (.tryExit, hosting (.ok (some .signal))),
    (.wait (.ofNanos 0), hosting (.error { message := "no such process" }))]

/-- A puppet that has finished as soon as it is started. -/
def sprinter : Worker :=
  .puppet ⟨.ofNat 3, "sprint", .runFor .zero, .completed, 0, false, 0, 0, false, 0, none, none, none⟩

/-- It finishes, and is terminated and started again. -/
def laps : List (JobCall × Host) :=
  [.tryExit, .start, .tryExit, .terminate .cancel, .start, .tryExit].map (·, {})

/-- A worker of each kind reports an exit, and again the same one whatever comes after. -/
theorem exit_latched_of_each_kind :
    (∀ x ∈ [(idler, inquiries), (scanner, visits), (sprinter, laps)], x.1.IsNew ∧
      (kind.exchanges x.1 x.2).Pairwise fun y z => ∀ e, y.exit? = some e →
        z.Repeats e ∧ ((∀ p, x.1 ≠ .puppet p) → z.FindsOver)) ∧
    kind.exchanges idler inquiries =
      [.start (.ok ()), .terminate .pause (.ok ()), .terminate .cancel (.ok ()),
        .tryExit (.ok (some (.killed .cancel))), .terminate .timeout (.ok ()),
        .start (.error (Routine.alreadyStarted "idle")), .tryExit (.ok (some (.killed .cancel))),
        .wait (.exited (.killed .cancel))] ∧
    kind.exchanges scanner visits =
      [.start (.error (.spawnFailed "scan" { message := "" })), .start (.ok ()),
        .tryExit (.ok none), .tryExit (.error (.system { message := "interrupted" })),
        .terminate .cancel (.error (.terminateFailed "not permitted")),
        .tryExit (.ok (some (.failed (some 3) none))), .terminate .cancel (.ok ()),
        .start (.error (.internal "job 'scan' already started")),
        .tryExit (.ok (some (.failed (some 3) none))), .wait (.exited (.failed (some 3) none))] ∧
    kind.exchanges sprinter laps =
      [.tryExit (.error .notStarted), .start (.ok ()), .tryExit (.ok (some .completed)),
        .terminate .cancel (.ok ()), .start (.ok ()), .tryExit (.ok (some .completed))] := by
  have idle : idler.IsNew := .routine ⟨rfl, rfl, rfl, rfl⟩
  have scan : scanner.IsNew := .program ⟨rfl, rfl, rfl, rfl⟩
  have sprint : sprinter.IsNew := .puppet ⟨rfl, rfl, rfl⟩
  refine ⟨?_, of_decide_eq_true (by cbv), of_decide_eq_true (by cbv), of_decide_eq_true (by cbv)⟩
  simp only [List.forall_mem_cons]
  exact ⟨⟨idle, exit_latched idle inquiries⟩, ⟨scan, exit_latched scan visits⟩,
    ⟨sprint, exit_latched sprint laps⟩, List.forall_mem_nil _⟩

end Worker
end SerialJobs
