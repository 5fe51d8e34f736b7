import SerialJobs.Manager.Shutdown
import SerialJobs.Proofs.Places

/-!
# What a stop does

A stop that completes either finds the slot free, or it takes the job out of the slot, signals and
waits for it, enters the finished state into its handle and announces that; then it drains the
queue. `Stopped` says so, with the manager at each of these moments. A stop whose wait panics does
not complete.
-/

namespace SerialJobs
namespace Manager

variable {J E : Type} (s : Setup J E)

/-- From `m` to `m'` the job with the ticket `t` was waited for, and how that ended was told. -/
structure Awaited (t : Ticket) (x : WaitOutcome) (m m' : Manager J E) : Prop where
  slot : m'.slot = m.slot
  queue : m'.queue = m.queue
  handles : m'.handles = m.handles
  past : ∃ es, m'.past = es ++ .call t (.wait x) :: m.past ∧ ∀ e ∈ es, e.IsRemark

lemma Awaited.alike {t : Ticket} {x : WaitOutcome} {m m' : Manager J E} (h : Awaited t x m m') :
    Alike m m' :=
  ⟨by rw [h.slot], h.queue, h.handles⟩

/-- The last signal to a job that has been taken out of the slot: what is logged and called, the
latest first, where `x` is how the signal ends if one is sent, and the exit that the job will be
given. -/
inductive LastSignal (o : Occupant J) (x : Outcome Unit) : List Event → Exit → Prop
  /-- A signal was delivered before. -/
  | before {p : PendingStop} (h : o.docket.stop = some p) (delivered : p.signalled = true) :
      LastSignal o x [] p.exit
  | delivered (h : ¬ o.docket.Delivered) (ok : x = .ok ()) :
      LastSignal o x [.audited (.killed o.ticket.id o.ticket.label .shutdown),
        .call o.ticket (.terminate .shutdown x)] (.killed .shutdown)
  /-- The signal was not delivered, and is reported like one that was. -/
  | inVain {e : JobError} (h : ¬ o.docket.Delivered) (failed : x.guarded = .error e) :
      LastSignal o x [.audited (.killed o.ticket.id o.ticket.label .shutdown),
        .noted (.signalFailed o.ticket.id none e), .call o.ticket (.terminate .shutdown x)]
        (.killed .shutdown)

lemma LastSignal.attends {o : Occupant J} {x : Outcome Unit} {es : List Event} {e : Exit}
    (h : LastSignal o x es e) : ∀ a ∈ es, a.Attends o.ticket := by
  cases h <;> simp [Event.Attends, Event.IsLogged]

/-- The last signal to a job changes the history only. -/
lemma attended_signalLast (o : Occupant J) (m : Manager J E) :
    ∃ es, Attended o.ticket es m (m.signalLast s o).2.2 ∧
      LastSignal o (s.kind.terminate .shutdown o.job m.env).outcome es (m.signalLast s o).1 := by
  have h := attended_callTerminate s o.ticket .shutdown o.job m
  unfold signalLast
  split
  next c e hs => exact ⟨[], ⟨rfl, rfl, rfl, rfl, by simp⟩, .before hs rfl⟩
  next hs =>
    have undelivered : ¬ o.docket.Delivered := by
      rintro ⟨⟨c, e, signalled⟩, hp, rfl⟩
      exact hs c e hp
    dsimp only
    split
    next hr =>
      have hx : (s.kind.terminate .shutdown o.job m.env).outcome = .ok () :=
        Outcome.eq_ok_of_guarded hr
      exact ⟨_, h.happen (e := .audited _) trivial, .delivered undelivered hx⟩
    next e hr =>
      change (s.kind.terminate .shutdown o.job m.env).outcome.guarded = .error e at hr
      exact ⟨_, (h.happen (e := .noted _) trivial).happen (e := .audited _) trivial,
        .inVain undelivered hr⟩

/-- A wait changes the surroundings and the history only, however it ends. -/
lemma alike_awaitExit (t : Ticket) (j : J) (m : Manager J E) : Alike m (m.awaitExit s t j).2 := by
  simp only [awaitExit]
  split <;> exact ⟨rfl, rfl, rfl⟩

/-- A wait that ended without a panic. -/
lemma awaited_awaitExit {t : Ticket} {j : J} {m m' : Manager J E}
    (h : m.awaitExit s t j = (.ok (), m')) : ∃ x, (∀ p, x ≠ .panic p) ∧ Awaited t x m m' := by
  simp only [awaitExit] at h
  split at h
  next e hx =>
    cases h
    exact ⟨.exited e, by simp, rfl, rfl, rfl, [.noted (.exitedOnStop t.id e)],
      by simp [note, happen, hx], by simp [Event.IsRemark]⟩
  next e hx =>
    cases h
    exact ⟨.error e, by simp, rfl, rfl, rfl, [.noted (.waitFailed t.id e)],
      by simp [note, happen, hx], by simp [Event.IsRemark]⟩
  next hx =>
    cases h
    exact ⟨.timedOut, by simp, rfl, rfl, rfl,
      [.noted (.waitTimedOut t.id s.config.shutdownTimeout)], by simp [note, happen, hx],
      by simp [Event.IsRemark]⟩
  next p hx => cases h

/-- What a stop that completes does: its report, and the manager after it. -/
inductive Stopped (m : Manager J E) : Report J → Manager J E → Prop
  /-- The slot was free. -/
  | idle (free : m.slot = none) :
      Stopped m ⟨none, m.queue⟩
        ({ m with slot := none, queue := [] }.note (.stopped none m.queue.length))
  /-- The job in the slot was ended: `m₁` is the manager once it was signalled, `m₂` once it was
  waited for, and `m₃` once its end was announced. -/
  | ended {o : Occupant J} {e : Exit} {es : List Event} {x : WaitOutcome} {m₁ m₂ m₃ : Manager J E}
      (held : m.slot = some o) (signalled : Attended o.ticket es { m with slot := none } m₁)
      (awaited : Awaited o.ticket x m₁ m₂) (noPanic : ∀ p, x ≠ .panic p)
      (announced : m₃ = (m₂.finish s o e).2.announce s (m₂.finish s o e).1)
      (last : LastSignal o (s.kind.terminate .shutdown o.job m.env).outcome es e) :
      Stopped m ⟨some o.ticket.id, m₃.queue⟩
        ({ m₃ with queue := [] }.note (.stopped (some o.ticket.id) m₃.queue.length))

/-- There is nothing else that a stop does when it completes. -/
theorem stopped_of_stop {m m' : Manager J E} {r : Report J} (h : m.stop s = (.ok r, m')) :
    Stopped s m r m' := by
  rcases hm : m.slot with _ | o
  · simp only [stop, vacate, hm, concludeStop, drain] at h
    cases h
    exact .idle hm
  · obtain ⟨es, hes, last⟩ := attended_signalLast s o { m with slot := none }
    simp only [stop, vacate, hm, shutDown] at h
    rcases ha : ({ m with slot := none }.signalLast s o).2.2.awaitExit s o.ticket
      ({ m with slot := none }.signalLast s o).2.1 with ⟨_ | _, m₂⟩
    · simp only [ha] at h
      cases h
    · simp only [ha, concludeStop, drain] at h
      cases h
      obtain ⟨x, hx, hw⟩ := awaited_awaitExit s ha
      exact .ended hm hes hw hx rfl last

end Manager
end SerialJobs
