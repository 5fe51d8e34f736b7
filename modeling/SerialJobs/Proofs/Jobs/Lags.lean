import SerialJobs.Proofs.Jobs.Latch

/-!
# A killed puppet finishes on schedule

A puppet that was started and then terminated is condemned: whatever it would have done by itself no
longer matters. It is found running by as many status checks as its kill lag says, and the next call
on it, another check or another termination, finishes it with the last command that was delivered
by then (`Puppet.finishes_on_schedule`). For somebody who waits the schedule is the same, and
nothing that is called afterwards changes the exit.
-/

namespace SerialJobs

/-- The call is a status check or a termination. -/
inductive JobCall.Presses : JobCall → Prop
  | tryExit : Presses .tryExit
  | terminate (c : KillCommand) : Presses (.terminate c)

/-! ## Counting status checks -/

section Count

variable {E : Type} {e : E} {d : JobCall}

/-- The number of status checks among the calls. -/
def statusChecks (cs : List (JobCall × E)) : Nat := (cs.map Prod.fst).count .tryExit

/-- Some call comes after so many status checks. -/
def comesAfter (checks : Nat) (cs : List (JobCall × E)) : Bool :=
  !cs.isEmpty && checks ≤ statusChecks cs.dropLast

lemma statusChecks_tryExit (cs : List (JobCall × E)) :
    statusChecks ((.tryExit, e) :: cs) = statusChecks cs + 1 := by
  simp [statusChecks]

lemma statusChecks_of_ne (other : d ≠ .tryExit) (cs : List (JobCall × E)) :
    statusChecks ((d, e) :: cs) = statusChecks cs := by
  simp [statusChecks, other]

lemma comesAfter_zero (x : JobCall × E) (cs : List (JobCall × E)) :
    comesAfter 0 (x :: cs) = true := by
  simp [comesAfter]

lemma comesAfter_tryExit (n : Nat) (cs : List (JobCall × E)) :
    comesAfter (n + 1) ((.tryExit, e) :: cs) = comesAfter n cs := by
  cases cs with
  | nil => rfl
  | cons x cs => simp [comesAfter, statusChecks_tryExit]

lemma comesAfter_of_ne (other : d ≠ .tryExit) {n : Nat} (positive : n ≠ 0)
    (cs : List (JobCall × E)) : comesAfter n ((d, e) :: cs) = comesAfter n cs := by
  cases cs with
  | nil => simp [comesAfter, statusChecks, positive]
  | cons x cs => simp [comesAfter, statusChecks_of_ne other]

end Count

/-! ## What becomes of a puppet that is terminated -/

namespace Puppet

/-- The answers to the calls up to the one with which the puppet finishes. -/
def untilFinished : Puppet → List (JobCall × Host) → List Exchange
  | _, [] => []
  | p, (c, h) :: cs =>
    if p.finished.isSome then []
    else (kind.call c p h).outcome :: untilFinished (kind.call c p h).job cs

/-- The last command delivered to the puppet while it had not finished. -/
def lastWord (p : Puppet) (cs : List (JobCall × Host)) : Option KillCommand :=
  ((p.untilFinished cs).filterMap Exchange.delivered?).getLast?

/-- The answers to the status checks. -/
def checks (p : Puppet) (cs : List (JobCall × Host)) : List (Outcome (Option Exit)) :=
  (kind.exchanges p cs).filterMap Exchange.checked?

/-- What the status checks come to if so many of them find the puppet running before one finds it
killed. -/
def schedule (lag checks : Nat) (c : KillCommand) : List (Outcome (Option Exit)) :=
  List.replicate (min lag checks) (.ok none) ++
    List.replicate (checks - lag) (.ok (some (.killed c)))

/-- How many status checks the probe of the puppet has counted. -/
def counted (p : Puppet) (h : Host) : Option Nat := h.probes[p.probe]?.map (·.statusChecks)

/-- The puppet obeys the command on schedule while such calls are made. -/
structure Obeys (p : Puppet) (c : KillCommand) (cs : List (JobCall × Host)) : Prop where
  checks : p.checks cs = schedule p.killLag (statusChecks cs) c
  /-- It finishes with the first call that comes after enough status checks. -/
  finished : (kind.after p cs).finished =
    if comesAfter p.killLag cs then some (.killed c) else none

/-- A termination was delivered to the puppet, and it will notice. -/
structure Condemned (p : Puppet) (c : KillCommand) : Prop where
  started : p.startedAt.isSome
  unfinished : p.finished = none
  killed : p.killed = some c
  delivers : p.terminateFailures = 0

variable {p : Puppet} {c : KillCommand} {h : Host} {e : Exit}

/-! ## One call -/

namespace Condemned

variable (condemned : p.Condemned c)

include condemned

lemma tryExit_of_lag (lags : 0 < p.killLag) :
    (p.tryExit h).outcome = .ok none ∧ (p.tryExit h).job = { p with killLag := p.killLag - 1 } := by
  obtain ⟨t, started⟩ := Option.isSome_iff_exists.mp condemned.started
  simp [tryExit, started, condemned.unfinished, condemned.killed, lags]

lemma tryExit_of_no_lag (due : p.killLag = 0) :
    (p.tryExit h).outcome = .ok (some (.killed c)) ∧
      (p.tryExit h).job.finished = some (.killed c) := by
  obtain ⟨t, started⟩ := Option.isSome_iff_exists.mp condemned.started
  simp [tryExit, started, condemned.unfinished, condemned.killed, due, finish]

lemma lag (k : Nat) : ({ p with killLag := k } : Puppet).Condemned c :=
  ⟨condemned.started, condemned.unfinished, condemned.killed, condemned.delivers⟩

end Condemned

/-- A termination that is delivered condemns the puppet, unless it finishes it. -/
lemma condemned_of_terminate (started : p.startedAt.isSome) (unfinished : p.finished = none)
    (delivered : (p.terminate c h).outcome = .ok ()) :
    if p.killLag = 0 then (p.terminate c h).job.finished = some (.killed c)
    else (p.terminate c h).job.Condemned c ∧ (p.terminate c h).job.killLag = p.killLag := by
  have ended := ended_terminate p h c
  generalize p.terminate c h = r at ended delivered
  cases ended with
  | failed => simp at delivered
  | noted delivers lags =>
    rw [if_neg (by omega)]
    exact ⟨⟨started, unfinished, rfl, delivers⟩, rfl⟩
  | known delivers ready finished => simp [unfinished] at finished
  | finishes delivers ready => rw [if_pos ready]

lemma terminate_of_delivers (delivers : p.terminateFailures = 0) :
    (p.terminate c h).outcome = .ok () := by
  have ended := ended_terminate p h c
  generalize p.terminate c h = r at ended
  cases ended with
  | failed fails => omega
  | _ => rfl

/-! ## A row of calls -/

lemma untilFinished_of_finished (finished : p.finished = some e) (cs : List (JobCall × Host)) :
    p.untilFinished cs = [] := by
  cases cs with
  | nil => rfl
  | cons x cs => simp [untilFinished, finished]

lemma checks_tryExit (cs : List (JobCall × Host)) :
    p.checks ((.tryExit, h) :: cs) = (p.tryExit h).outcome :: (p.tryExit h).job.checks cs := rfl

lemma checks_of_ne {d : JobCall} (other : d ≠ .tryExit) (cs : List (JobCall × Host)) :
    p.checks ((d, h) :: cs) = (kind.call d p h).job.checks cs := by
  cases d with
  | tryExit => exact absurd rfl other
  | _ => rfl

lemma after_of_finished (finished : p.finished = some e) (cs : List (JobCall × Host)) :
    (kind.after p cs).finished = some e := by
  induction cs generalizing p with
  | nil => exact finished
  | cons x cs ih => exact ih (latch.kept trivial finished x.1 x.2).1

lemma checks_of_finished (finished : p.finished = some e) (cs : List (JobCall × Host)) :
    p.checks cs = List.replicate (statusChecks cs) (.ok (some e)) := by
  induction cs generalizing p with
  | nil => rfl
  | cons x cs ih =>
    obtain ⟨c, h⟩ := x
    obtain ⟨kept, repeats⟩ := latch.kept trivial finished c h
    by_cases check : c = .tryExit
    · subst check
      have answer : (p.tryExit h).outcome = .ok (some e) := repeats
      rw [checks_tryExit, answer, statusChecks_tryExit, List.replicate_succ]
      exact congrArg _ (ih kept)
    · rw [checks_of_ne check, statusChecks_of_ne check]
      exact ih kept

lemma lastWord_of_finished (finished : p.finished = some e) (cs : List (JobCall × Host)) :
    p.lastWord cs = none := by
  rw [lastWord, untilFinished_of_finished finished]
  rfl

lemma lastWord_tryExit (unfinished : p.finished = none) (cs : List (JobCall × Host)) :
    p.lastWord ((.tryExit, h) :: cs) = (p.tryExit h).job.lastWord cs := by
  simp only [lastWord, untilFinished, unfinished, Option.isSome_none, Bool.false_eq_true, if_false]
  rfl

lemma lastWord_terminate (unfinished : p.finished = none)
    (delivered : (p.terminate c h).outcome = .ok ()) (cs : List (JobCall × Host)) :
    p.lastWord ((.terminate c, h) :: cs) = some (((p.terminate c h).job.lastWord cs).getD c) := by
  have told : (kind.call (.terminate c) p h).outcome.delivered? = some c := by
    show (Exchange.terminate c (p.terminate c h).outcome).delivered? = some c
    rw [delivered]
    rfl
  simp only [lastWord, untilFinished, unfinished, Option.isSome_none, Bool.false_eq_true, if_false]
  rw [List.filterMap_cons_some told, List.getLast?_cons]
  rfl

lemma schedule_zero (checks : Nat) (c : KillCommand) :
    schedule 0 checks c = List.replicate checks (.ok (some (.killed c))) := by
  simp [schedule]

lemma schedule_succ (lag checks : Nat) (c : KillCommand) :
    schedule (lag + 1) (checks + 1) c = .ok none :: schedule lag checks c := by
  simp [schedule, Nat.add_min_add_right, List.replicate_succ]

/-- A termination that is delivered either finishes the puppet, or starts the schedule anew. -/
lemma obeys_terminate (started : p.startedAt.isSome) (unfinished : p.finished = none)
    (delivered : (p.terminate c h).outcome = .ok ()) {cs : List (JobCall × Host)}
    (rest : (p.terminate c h).job.Condemned c →
      (p.terminate c h).job.Obeys (((p.terminate c h).job.lastWord cs).getD c) cs) :
    p.Obeys (((p.terminate c h).job.lastWord cs).getD c) ((.terminate c, h) :: cs) := by
  have other : JobCall.terminate c ≠ .tryExit := by simp
  have same : p.checks ((.terminate c, h) :: cs) = (p.terminate c h).job.checks cs :=
    checks_of_ne other cs
  have told := condemned_of_terminate started unfinished delivered
  split at told
  next lag =>
    constructor
    · rw [same, statusChecks_of_ne other, lag, checks_of_finished told, lastWord_of_finished told,
        schedule_zero]
      rfl
    · rw [lag, comesAfter_zero, lastWord_of_finished told]
      exact after_of_finished told cs
  next lag =>
    obtain ⟨checks, finished⟩ := rest told.1
    rw [told.2] at checks finished
    constructor
    · rw [same, statusChecks_of_ne other, checks]
    · rw [comesAfter_of_ne other lag]
      exact finished

/-- By induction on the calls: each of them either finishes the puppet or leaves it condemned, a
check with a lag that is shorter by one. -/
lemma Condemned.obeys (condemned : p.Condemned c) {cs : List (JobCall × Host)}
    (presses : ∀ x ∈ cs, x.1.Presses) : p.Obeys ((p.lastWord cs).getD c) cs := by
  induction cs generalizing p c with
  | nil => exact ⟨by simp [schedule, statusChecks, checks, JobKind.exchanges], condemned.unfinished⟩
  | cons x cs ih =>
    obtain ⟨d, h⟩ := x
    obtain ⟨press, presses'⟩ := List.forall_mem_cons.mp presses
    cases press with
    | tryExit =>
      rw [lastWord_tryExit condemned.unfinished]
      rcases lag : p.killLag with _ | k
      · obtain ⟨answer, finished⟩ := condemned.tryExit_of_no_lag (h := h) lag
        rw [lastWord_of_finished finished]
        constructor
        · rw [checks_tryExit, statusChecks_tryExit, answer, lag, schedule_zero,
            checks_of_finished finished]
          rfl
        · rw [lag, comesAfter_zero]
          exact after_of_finished finished cs
      · obtain ⟨answer, job⟩ := condemned.tryExit_of_lag (h := h) (by omega)
        have later := condemned.lag (p.killLag - 1)
        rw [← job] at later
        have less : (p.tryExit h).job.killLag = k := by rw [job, lag]; rfl
        obtain ⟨checks, finished⟩ := ih later presses'
        rw [less] at checks finished
        constructor
        · rw [checks_tryExit, statusChecks_tryExit, lag, schedule_succ, answer, checks]
        · rw [lag, comesAfter_tryExit]
          exact finished
    | terminate d =>
      have delivered := terminate_of_delivers (c := d) (h := h) condemned.delivers
      rw [lastWord_terminate condemned.unfinished delivered]
      exact obeys_terminate condemned.started condemned.unfinished delivered
        fun condemned' => ih condemned' presses'

/-! ## A wait -/

lemma Checked.probe {r : Reply Puppet Host (Outcome (Option Exit))} (checked : Checked p h r) :
    r.job.probe = p.probe := by
  cases checked <;> rfl

lemma Ended.probe {r : Reply Puppet Host (Outcome Unit)} (ended : Ended c p h r) :
    r.job.probe = p.probe := by
  cases ended <;> rfl

/-- Between two checks of who waits, nothing changes for the puppet. -/
lemma pass_beside (millis : Nat) (p : Puppet) (h : Host) :
    ∃ h', (Stage.beside Puppet).pass millis (p, h) = (p, h') ∧ h'.probes = h.probes := by
  have keeps := Stage.keeps_beside fun q s => q = p ∧ s = h.puppetry
  obtain ⟨same, kept⟩ := keeps.pass millis (x := (p, h)) ⟨rfl, rfl⟩
  exact ⟨_, Prod.ext same rfl, congrArg Prod.snd kept⟩

lemma counted_probing (p : Puppet) (f : Probe → Probe) (h : Host) :
    p.counted (h.probing p.probe f) = h.probes[p.probe]?.map fun b => (f b).statusChecks := by
  simp [counted, Host.probing, Function.comp_def]

lemma counted_finish (p : Puppet) (e : Exit) (h : Host) :
    p.counted (p.finish e h).2 = p.counted h := by
  unfold finish
  split
  · rfl
  · rw [counted_probing]
    split <;> rfl

lemma counted_runOut (p : Puppet) (startedAt : Nat) (h : Host) :
    p.counted (p.runOut startedAt h).env = p.counted h := by
  unfold runOut
  split
  next =>
    split
    · exact counted_finish ..
    · rfl
  next => rfl

/-- Every status check counts once. -/
lemma counted_tryExit (p : Puppet) (h : Host) :
    p.counted (p.tryExit h).env = (p.counted h).map (· + 1) := by
  have once : p.counted (h.probing p.probe fun b => { b with statusChecks := b.statusChecks + 1 }) =
      (p.counted h).map (· + 1) := by
    rw [counted_probing, counted, Option.map_map]
    rfl
  rw [← once]
  simp only [tryExit]
  split
  next => rfl
  next => rfl
  next =>
    split
    · rfl
    · exact counted_finish ..
  next =>
    split
    · rfl
    · split
      · rfl
      · exact counted_runOut ..

/-- Who waits for a puppet that reports its exit now has looked once. -/
lemma poll_of_reported (reported : (p.tryExit h).outcome = .ok (some e)) (millis : Nat) :
    ((Stage.beside Puppet).poll look period millis (p, h)).1 = some (.exited e) ∧
      p.counted ((Stage.beside Puppet).poll look period millis (p, h)).2.2 =
        (p.counted h).map (· + 1) := by
  have sees : look (p, h) = (some (.exited e), (p.tryExit h).job, (p.tryExit h).env) := by
    simp only [look, reported]
  rw [Stage.poll, sees]
  exact ⟨rfl, counted_tryExit p h⟩

/-- Who waits for a condemned puppet looks once for each check that it lags behind, and then once
more. -/
lemma Condemned.poll (condemned : p.Condemned c) {millis : Nat}
    (enough : period * p.killLag ≤ millis) :
    ((Stage.beside Puppet).poll look period millis (p, h)).1 = some (.exited (.killed c)) ∧
      p.counted ((Stage.beside Puppet).poll look period millis (p, h)).2.2 =
        (p.counted h).map (· + (p.killLag + 1)) := by
  induction lag : p.killLag generalizing p h millis with
  | zero => exact poll_of_reported (condemned.tryExit_of_no_lag lag).1 millis
  | succ k ih =>
    obtain ⟨answer, job⟩ := condemned.tryExit_of_lag (h := h) (by omega)
    have sees : look (p, h) = (none, (p.tryExit h).job, (p.tryExit h).env) := by
      simp only [look, answer]
    obtain ⟨h', passed, probes⟩ := pass_beside period (p.tryExit h).job (p.tryExit h).env
    have later := condemned.lag (p.killLag - 1)
    rw [← job] at later
    have less : (p.tryExit h).job.killLag = k := by rw [job, lag]; rfl
    have time : period ≤ millis ∧ period * (p.tryExit h).job.killLag ≤ millis - period := by
      rw [lag] at enough
      rw [less]
      simp only [period] at enough ⊢
      omega
    obtain ⟨seen, count⟩ := ih (h := h') later time.2 less
    have counts : p.counted h' = (p.counted h).map (· + 1) := by
      rw [← counted_tryExit, counted, probes]
      rfl
    have same : (p.tryExit h).job.counted = p.counted := by
      funext g
      rw [counted, (checked_tryExit p h).probe]
      rfl
    have sum : (fun n => n + (k + 1)) ∘ (fun n => n + 1) = fun n => n + (k + 1 + 1) := by
      funext n
      simp only [Function.comp_apply]
      omega
    rw [same, counts, Option.map_map, sum] at count
    -- the check has found nothing, and there is time for another one
    rw [Stage.poll, sees]
    dsimp only
    rw [if_neg (by simp only [period] at time; omega), dif_pos ⟨by decide, time.1⟩, passed]
    exact ⟨seen, count⟩

/-- A wait looks as often as its polling does. -/
lemma wait_of_poll {limit : Duration} {n : Nat}
    (polled : ∀ h, ((Stage.beside Puppet).poll look period limit.ticks (p, h)).1 =
        some (.exited e) ∧
      p.counted ((Stage.beside Puppet).poll look period limit.ticks (p, h)).2.2 =
        (p.counted h).map (· + n)) (h : Host) :
    (p.wait limit h).outcome = .exited e ∧
      p.counted (p.wait limit h).env = (p.counted h).map (· + n) := by
  have noted : p.counted (h.probing p.probe fun b => { b with waited := true }) = p.counted h :=
    counted_probing ..
  obtain ⟨seen, count⟩ := polled (h.probing p.probe fun b => { b with waited := true })
  rw [noted] at count
  refine ⟨?_, count⟩
  simp only [wait, seen]
  rfl

/-! ## The schedule -/

/-- A puppet that was started and has not finished, and a termination that is delivered. Whatever
the puppet would do by itself, with any further terminations it obeys the last command that is
delivered before it finishes, and whatever is called after that, this is the exit that is reported.
Who waits for it looks once more than it lags behind. -/
theorem finishes_on_schedule (started : p.startedAt.isSome) (unfinished : p.finished = none)
    (delivered : (p.terminate c h).outcome = .ok ()) :
    (∀ cs : List (JobCall × Host), (∀ x ∈ cs, x.1.Presses) →
      ∃ c', p.lastWord ((.terminate c, h) :: cs) = some c' ∧
        p.Obeys c' ((.terminate c, h) :: cs) ∧
        (comesAfter p.killLag ((.terminate c, h) :: cs) →
          ∀ ds, ∀ x ∈ kind.exchanges (kind.after p ((.terminate c, h) :: cs)) ds,
            x.Repeats (.killed c'))) ∧
    ∀ limit h', period * p.killLag ≤ limit.ticks →
      ((p.terminate c h).job.wait limit h').outcome = .exited (.killed c) ∧
        p.counted ((p.terminate c h).job.wait limit h').env =
          (p.counted h').map (· + (p.killLag + 1)) := by
  have told := condemned_of_terminate started unfinished delivered
  constructor
  · intro cs presses
    have obeys := obeys_terminate started unfinished delivered
      fun condemned => condemned.obeys presses
    refine ⟨_, lastWord_terminate unfinished delivered cs, obeys, fun due => ?_⟩
    exact latch.upholds trivial (obeys.finished.trans (if_pos due))
  · intro limit h' enough
    have same : p.counted = (p.terminate c h).job.counted := by
      funext g
      rw [counted, counted, (ended_terminate p h c).probe]
    rw [same]
    refine wait_of_poll (fun g => ?_) h'
    split at told
    next lag =>
      rw [lag]
      exact poll_of_reported ((checked_tryExit _ g).repeats told).1 _
    next lag =>
      rw [← told.2] at enough ⊢
      exact told.1.poll enough

/-- A puppet that was started, whose time is up at once and whose status checks fail and panic. -/
def sulker : Puppet :=
  { id := .ofNat 1, label := "sulker", behavior := .runFor .zero, exit := .completed,
    statusErrors := 3, panicsOnStatus := true, terminateFailures := 0, killLag := 2,
    gauged := false, probe := 0, startedAt := some 0 }

/-- It is terminated again before it has finished, and once more after that. -/
def reminders : List (JobCall × Host) :=
  [(.tryExit, {}), (.terminate .cancel, {}), (.tryExit, { clock := 7 }), (.tryExit, {}),
    (.terminate .shutdown, {}), (.tryExit, {})]

/-- The second command counts, and who waits looks three times. -/
theorem finishes_on_schedule_sulker : sulker.startedAt.isSome ∧ sulker.finished = none ∧
    (sulker.terminate .pause {}).outcome = .ok () ∧ (∀ x ∈ reminders, x.1.Presses) ∧
    sulker.checks ((.terminate .pause, {}) :: reminders) =
      [.ok none, .ok none, .ok (some (.killed .cancel)), .ok (some (.killed .cancel))] ∧
    sulker.Obeys .cancel ((.terminate .pause, {}) :: reminders) ∧
    ((sulker.terminate .pause {}).job.wait (.ofMillis 10) { probes := [{}] }).outcome =
      .exited (.killed .pause) ∧
    sulker.counted ((sulker.terminate .pause {}).job.wait (.ofMillis 10) { probes := [{}] }).env =
      some 3 := by
  have presses : ∀ x ∈ reminders, x.1.Presses := by
    simp only [reminders, List.forall_mem_cons]
    exact ⟨.tryExit, .terminate _, .tryExit, .tryExit, .terminate _, .tryExit, by simp⟩
  have delivered : (sulker.terminate .pause {}).outcome = .ok () := rfl
  obtain ⟨run, waits⟩ := finishes_on_schedule (p := sulker) rfl rfl delivered
  obtain ⟨c, word, obeys, -⟩ := run reminders presses
  have last : sulker.lastWord ((.terminate .pause, {}) :: reminders) = some .cancel := rfl
  obtain rfl : c = .cancel := Option.some.inj (word.symm.trans last)
  obtain ⟨exits, counts⟩ := waits (.ofMillis 10) { probes := [{}] } (by decide)
  exact ⟨rfl, rfl, delivered, presses, rfl, obeys, exits, counts⟩

end Puppet
end SerialJobs
