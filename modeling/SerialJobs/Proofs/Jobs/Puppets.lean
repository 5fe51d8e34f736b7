import SerialJobs.Proofs.Jobs.Calls

/-!
# What the calls do to a puppet

`Puppet.Begun`, `Puppet.Checked` and `Puppet.Ended` list what a start, a status check and a
termination do: the answer, the puppet after it, and what becomes of the gauge. A wait is a row of
status checks. `Stage.Looked` is what looking again and again comes to on any stage, and between two
of its checks the host leaves the puppet alone and all that only puppets change (`Host.puppetry`).
-/

namespace SerialJobs

variable {S A : Type}

/-! ## Looking again and again -/

namespace Stage

/-- Who looks again and again until there is something to see may find it at once, give up, or find
it later, where `R` is what becomes of the stage between two looks. -/
inductive Looked (look : S → Option A × S) (R : S → S → Prop) : S → Option A × S → Prop
  | seen {x y : S} {a : A} (looked : look x = (some a, y)) : Looked look R x (some a, y)
  | last {x y z : S} (looked : look x = (none, y)) (passes : R y z) : Looked look R x (none, z)
  | again {x y z : S} {r : Option A × S} (looked : look x = (none, y)) (passes : R y z)
      (rest : Looked look R z r) : Looked look R x r

/-- Nothing that the stage does while somebody waits changes whether `I` holds. -/
structure Keeps (g : Stage S) (I : S → Prop) : Prop where
  clear : ∀ x, I x → I (g.change (fun h => { h with ready := [] }) x)
  run : ∀ r x, I x → I (g.run x r)
  fireDue : ∀ x, I x → I (g.change Host.fireDue x)
  setTime : ∀ t x, I x → I (g.change (·.setTime t) x)

variable {g : Stage S}

namespace Keeps

variable {I : S → Prop} (keeps : g.Keeps I)

include keeps

lemma round {x : S} (h : I x) : I (g.round x) :=
  List.foldlRecOn _ _ (keeps.clear x h) fun _ hy r _ => keeps.run r _ hy

lemma quiesce {x : S} (h : I x) : I (g.quiesce x) :=
  keeps.round (keeps.round (keeps.fireDue _ (keeps.round (keeps.round h))))

lemma passUntil (done : S → Bool) (t fuel : Nat) {x : S} (h : I x) :
    I (g.passUntil done t fuel x) := by
  induction fuel generalizing x with
  | zero => exact h
  | succ fuel ih =>
    have settled := keeps.quiesce h
    simp only [Stage.passUntil]
    split
    · exact settled
    · split
      · split
        · exact ih (keeps.setTime _ _ settled)
        · exact keeps.setTime _ _ settled
      · exact keeps.setTime _ _ settled

lemma pass (millis : Nat) {x : S} (h : I x) : I (g.pass millis x) :=
  keeps.passUntil _ _ _ h

lemma await (done : S → Bool) (millis : Nat) {x : S} (h : I x) : I (g.await done millis x) := by
  unfold Stage.await
  split
  · exact h
  · exact keeps.passUntil _ _ _ h

end Keeps

lemma looked_poll {R : S → S → Prop} (refl : ∀ x, R x x) (passes : ∀ n x, R x (g.pass n x))
    (look : S → Option A × S) (period millis : Nat) (x : S) :
    Looked look R x (g.poll look period millis x) := by
  fun_induction g.poll look period millis x with
  | case1 millis x a y looked => exact .seen looked
  | case2 x y looked => exact .last looked (refl y)
  | case3 millis x y looked late due ih => exact .again looked (passes _ y) ih
  | case4 millis x y looked late due => exact .last looked (passes _ y)

end Stage

namespace Host

variable (h : Host)

/-- What only puppets change. -/
def puppetry : Gauge × List Probe := (h.gauge, h.probes)

lemma puppetry_wake (r : Runnable) : (h.wake r).puppetry = h.puppetry := by
  unfold wake
  split <;> rfl

lemma puppetry_setTime (t : Nat) : (h.setTime t).puppetry = h.puppetry := by
  unfold setTime
  split <;> rfl

lemma puppetry_runTask (n : Nat) : (h.runTask n).puppetry = h.puppetry := by
  unfold runTask
  repeat' split
  all_goals rfl

lemma puppetry_fireDue : h.fireDue.puppetry = h.puppetry := by
  unfold fireDue
  refine List.foldlRecOn (motive := fun g : Host => g.puppetry = h.puppetry) _ _ rfl ?_
  intro g same t _
  rw [puppetry_wake, same]

end Host

namespace Stage

/-- While time passes, what stands beside the host stays as it is, and so does all that only
puppets change. -/
lemma keeps_beside (P : A → Gauge × List Probe → Prop) :
    (beside A).Keeps fun x => P x.1 x.2.puppetry where
  clear _ h := h
  run r x h := by
    cases r with
    | task n => simpa only [run, beside, Host.puppetry_runTask] using h
    | loop => exact h
  fireDue x h := by simpa only [beside, Host.puppetry_fireDue] using h
  setTime t x h := by simpa only [beside, Host.puppetry_setTime] using h

end Stage

/-! ## The four calls -/

namespace Puppet

/-- No call was made on the puppet. -/
structure IsNew (p : Puppet) : Prop where
  killed : p.killed = none
  startedAt : p.startedAt = none
  finished : p.finished = none

/-- What becomes of the gauge when the puppet starts. -/
def enters (p : Puppet) (g : Gauge) : Gauge := if p.gauged then g.enter else g

/-- What becomes of the gauge when the puppet finishes. -/
def leaves (p : Puppet) (g : Gauge) : Gauge := if p.gauged then g.leave else g

/-- What a start does. -/
inductive Begun (p : Puppet) (h : Host) : Reply Puppet Host (Outcome Unit) → Prop
  | failed {h' : Host} (fails : p.behavior = .failStart) (gauge : h'.gauge = h.gauge) :
      Begun p h ⟨.error (startFailure p.label), p, h'⟩
  | started {t : Nat} {h' : Host} (starts : p.behavior ≠ .failStart)
      (gauge : h'.gauge = p.enters h.gauge) : Begun p h ⟨.ok (), { p with startedAt := some t }, h'⟩

/-- What a status check does. -/
inductive Checked (p : Puppet) (h : Host) : Reply Puppet Host (Outcome (Option Exit)) → Prop
  | known {e : Exit} {h' : Host} (finished : p.finished = some e) (gauge : h'.gauge = h.gauge) :
      Checked p h ⟨.ok (some e), p, h'⟩
  | quiet {o : Outcome (Option Exit)} {n k : Nat} {h' : Host} (unfinished : p.finished = none)
      (silent : ∀ e, o ≠ .ok (some e)) (gauge : h'.gauge = h.gauge) :
      Checked p h ⟨o, { p with statusErrors := n, killLag := k }, h'⟩
  | finishes {e : Exit} {h' : Host} (unfinished : p.finished = none)
      (started : p.startedAt.isSome) (gauge : h'.gauge = p.leaves h.gauge) :
      Checked p h ⟨.ok (some e), { p with finished := some e }, h'⟩

/-- What a termination does. -/
inductive Ended (c : KillCommand) (p : Puppet) (h : Host) :
    Reply Puppet Host (Outcome Unit) → Prop
  | failed {h' : Host} (fails : 0 < p.terminateFailures) (gauge : h'.gauge = h.gauge) :
      Ended c p h ⟨.error (.terminateFailed "mock terminate failure"),
        { p with terminateFailures := p.terminateFailures - 1 }, h'⟩
  | noted {h' : Host} (delivers : p.terminateFailures = 0) (lags : 0 < p.killLag)
      (gauge : h'.gauge = h.gauge) : Ended c p h ⟨.ok (), { p with killed := some c }, h'⟩
  | known {h' : Host} (delivers : p.terminateFailures = 0) (ready : p.killLag = 0)
      (finished : p.finished.isSome) (gauge : h'.gauge = h.gauge) : Ended c p h ⟨.ok (), p, h'⟩
  | finishes {h' : Host} (delivers : p.terminateFailures = 0) (ready : p.killLag = 0)
      (unfinished : p.finished = none) (gauge : h'.gauge = p.leaves h.gauge) :
      Ended c p h ⟨.ok (), { p with finished := some (.killed c) }, h'⟩

variable (p : Puppet) (h : Host)

lemma finish_of_unfinished {p : Puppet} (unfinished : p.finished = none) (e : Exit) :
    (p.finish e h).1 = { p with finished := some e } ∧
      (p.finish e h).2.gauge = p.leaves h.gauge := by
  unfold finish leaves
  by_cases gauged : p.gauged <;> simp [unfinished, gauged, Host.gauging, Host.probing]

lemma finish_of_finished {p : Puppet} (finished : p.finished.isSome) (e : Exit) :
    p.finish e h = (p, h) := by
  simp [finish, finished]

lemma begun_start : Begun p h (p.start h) := by
  unfold start
  split
  next fails => exact .failed fails rfl
  next starts =>
    refine .started starts ?_
    unfold enters
    by_cases gauged : p.gauged <;> simp [gauged, Host.gauging, Host.probing]

lemma ended_terminate (c : KillCommand) : Ended c p h (p.terminate c h) := by
  simp only [terminate]
  split
  next fails => exact .failed fails rfl
  next delivers =>
    split
    next ready =>
      rcases finished : p.finished with _ | e
      · obtain ⟨job, gauge⟩ :=
          finish_of_unfinished (.probing p.probe _ (.probing p.probe _ h)) finished (.killed c)
        rw [job]
        exact .finishes (by omega) ready finished gauge
      · rw [finish_of_finished _ (by simp [finished])]
        exact .known (by omega) ready (by simp [finished]) rfl
    next lags => exact .noted (by omega) (by omega) rfl

variable {p h} in
lemma Checked.startedAt {r : Reply Puppet Host (Outcome (Option Exit))} (checked : Checked p h r) :
    r.job.startedAt = p.startedAt := by
  cases checked <;> rfl

variable {p h} in
lemma Ended.startedAt {c : KillCommand} {r : Reply Puppet Host (Outcome Unit)}
    (ended : Ended c p h r) : r.job.startedAt = p.startedAt := by
  cases ended <;> rfl

/-- A puppet that finishes by itself was started. -/
lemma checked_runOut {n : Nat} {p : Puppet} {h₀ : Host} (gauge : h.gauge = h₀.gauge)
    (unfinished : p.finished = none) (started : p.startedAt = some n) :
    Checked p h₀ (p.runOut n h) := by
  unfold runOut
  split
  next d =>
    split
    next =>
      obtain ⟨job, left⟩ := finish_of_unfinished h unfinished p.exit
      simp only [job]
      exact .finishes unfinished (by simp [started]) (by rw [left, gauge])
    next => exact .quiet unfinished (by simp) gauge
  next => exact .quiet unfinished (by simp) gauge

lemma checked_tryExit : Checked p h (p.tryExit h) := by
  simp only [tryExit]
  split
  next e finished => exact .known finished rfl
  next unfinished started => exact .quiet unfinished (by simp) rfl
  next c unfinished started killed =>
    split
    next => exact .quiet unfinished (by simp) rfl
    next =>
      obtain ⟨job, gauge⟩ := finish_of_unfinished (h.probing p.probe _) unfinished (.killed c)
      rw [job]
      exact .finishes unfinished (by simp [started]) gauge
  next n unfinished started killed =>
    split
    next => exact .quiet unfinished (by simp) rfl
    next =>
      split
      next => exact .quiet unfinished (by simp) rfl
      next => exact checked_runOut _ rfl unfinished started

/-- Between two checks of who waits for a puppet, time passes. -/
def Undisturbed (x y : Puppet × Host) : Prop := y.1 = x.1 ∧ y.2.puppetry = x.2.puppetry

/-- A wait is a row of status checks. -/
lemma looked_wait (limit : Duration) :
    ∃ seen, (p.wait limit h).outcome = Option.getD seen .timedOut ∧
      Stage.Looked look Undisturbed (p, h.probing p.probe fun b => { b with waited := true })
        (seen, ((p.wait limit h).job, (p.wait limit h).env)) := by
  refine ⟨_, rfl, Stage.looked_poll (fun _ => ⟨rfl, rfl⟩) (fun n x => ?_) ..⟩
  exact (Stage.keeps_beside fun a s => a = x.1 ∧ s = x.2.puppetry).pass n ⟨rfl, rfl⟩

end Puppet
end SerialJobs
