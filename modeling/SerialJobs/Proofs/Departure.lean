import SerialJobs.Proofs.Course

/-!
# How a job is taken out of the slot for good

A stop takes the job out of the slot, signals it for the last time and waits for it; the end of the
manager does the same without a wait. `Departed` says what that does to the manager. A job that has
departed is finished next, unless the wait panicked: then the stop ends there, and nothing comes of
the job any more. `Halted` lists what a stop does, and `halted_stop` says that there is nothing
else; `Dropped` and `dropped_drop` do the same for the end of the manager.

A property is `Abiding` if it holds on through everything that requests are made of, a departure
without an end among them. Then it holds after any requests, also if some of them panic
(`Abiding.after`). It is `Lifelong` if it holds on through the end of the manager as well
(`Lifelong.reached`).
-/

namespace SerialJobs
namespace Manager

variable {J E : Type}

/-- The call of a wait, if there was one. -/
def waitCall (t : Ticket) (w : Option WaitOutcome) : List Event :=
  (w.map fun x => Event.call t (.wait x)).toList

lemma eq_of_mem_waitCall {t : Ticket} {w : Option WaitOutcome} {e : Event} (h : e ∈ waitCall t w) :
    ∃ x, e = .call t (.wait x) := by
  cases w with
  | none => simp [waitCall] at h
  | some x => exact ⟨x, by simpa [waitCall] using h⟩

/-- From `m` to `m'` the job `o` was taken out of the slot and signalled for the last time, perhaps
after a remark on that, and then waited for, unless `w` is none. It is to be given the exit `e`. -/
structure Departed (s : Setup J E) (m : Manager J E) (o : Occupant J) (w : Option WaitOutcome)
    (e : Exit) (m' : Manager J E) : Prop where
  held : m.slot = some o
  slot : m'.slot = none
  queue : m'.queue = m.queue
  handles : m'.handles = m.handles
  past : ∃ told es remarks,
    m'.past = told ++ waitCall o.ticket w ++ es ++ remarks ++ m.past ∧
      LastSignal o (s.kind.terminate .shutdown o.job m.env).outcome es e ∧
      (∀ x ∈ told, x.IsRemark) ∧ ∀ x ∈ remarks, x.IsRemark

/-- How the wait for the job in the slot ends when a stop comes. -/
def lastWait (s : Setup J E) (o : Occupant J) (m : Manager J E) : WaitOutcome :=
  let (_, j, m) := ({ m with slot := none } : Manager J E).signalLast s o
  (s.kind.wait s.config.shutdownTimeout j m.env).outcome

section Departure

variable {s : Setup J E} {o : Occupant J} {e : Exit} {es : List Event} {m m₁ m₂ : Manager J E}

/-- A stop that completes takes the job out of the slot before it finishes it. -/
lemma departed_of_awaited (held : m.slot = some o)
    (signalled : Attended o.ticket es { m with slot := none } m₁) {x : WaitOutcome}
    (awaited : Awaited o.ticket x m₁ m₂)
    (last : LastSignal o (s.kind.terminate .shutdown o.job m.env).outcome es e) :
    Departed s m o (some x) e m₂ where
  held := held
  slot := awaited.slot.trans signalled.slot
  queue := awaited.queue.trans signalled.queue
  handles := awaited.handles.trans signalled.handles
  past := by
    obtain ⟨ns, past, told⟩ := awaited.past
    exact ⟨ns, es, [], by simp [past, signalled.past, waitCall], last, told, by simp⟩

/-- A stop whose wait panics ends with that panic, and leaves the job out of the slot. -/
lemma departed_of_panic (held : m.slot = some o) {p : PanicPayload}
    (panics : m.lastWait s o = .panic p) :
    (m.stop s).1 = .error p ∧ ∃ e, Departed s m o (some (.panic p)) e (m.stop s).2 := by
  obtain ⟨es, hes, last⟩ := attended_signalLast s o { m with slot := none }
  rcases hsig : ({ m with slot := none } : Manager J E).signalLast s o with ⟨e, j, m₁⟩
  rw [hsig] at hes last
  obtain ⟨slot, queue, handles, past, -⟩ := hes
  replace past : m₁.past = es ++ m.past := past
  simp only [lastWait, hsig] at panics
  have hstop : m.stop s = (.error p, { m₁ with
      env := (s.kind.wait s.config.shutdownTimeout j m₁.env).env
      past := .call o.ticket (.wait (.panic p)) :: m₁.past }) := by
    simp only [stop, vacate, held, shutDown, hsig, awaitExit, panics]
  rw [hstop]
  refine ⟨rfl, e, held, slot, queue, handles, ?_⟩
  exact ⟨[], es, [], by simp [past, waitCall], last, by simp, by simp⟩

/-- A stop whose wait does not panic completes. -/
lemma stop_completes (held : m.slot = some o) (ends : ∀ p, m.lastWait s o ≠ .panic p) :
    ∃ r, (m.stop s).1 = .ok r := by
  rcases hsig : ({ m with slot := none } : Manager J E).signalLast s o with ⟨e, j, m₁⟩
  simp only [lastWait, hsig] at ends
  simp only [stop, vacate, held, shutDown, hsig, awaitExit]
  cases hw : (s.kind.wait s.config.shutdownTimeout j m₁.env).outcome with
  | panic p => exact absurd hw (ends p)
  | _ => exact ⟨_, rfl⟩

/-- What a stop does, whether it completes or not: how it ends, and the manager after it. -/
inductive Halted (s : Setup J E) (m : Manager J E) :
    Except PanicPayload (Report J) → Manager J E → Prop
  /-- The slot was free. -/
  | idle (free : m.slot = none) :
      Halted s m (.ok ⟨none, m.queue⟩)
        (({ m with queue := [] } : Manager J E).note (.stopped none m.queue.length))
  /-- The job in the slot was ended: `m₁` is the manager once it was waited for, and `m₂` once its
  end was announced. -/
  | ended {o : Occupant J} {x : WaitOutcome} {e : Exit} {m₁ m₂ : Manager J E}
      (departed : Departed s m o (some x) e m₁)
      (ends : ∀ p, m.lastWait s o ≠ .panic p)
      (announced : m₂ = (m₁.finish s o e).2.announce s (m₁.finish s o e).1) :
      Halted s m (.ok ⟨some o.ticket.id, m₂.queue⟩)
        (({ m₂ with queue := [] } : Manager J E).note
          (.stopped (some o.ticket.id) m₂.queue.length))
  /-- The wait for the job in the slot panicked. -/
  | broken {o : Occupant J} {e : Exit} {p : PanicPayload} {m' : Manager J E}
      (departed : Departed s m o (some (.panic p)) e m') (panics : m.lastWait s o = .panic p) :
      Halted s m (.error p) m'

/-- There is nothing else that a stop does. -/
theorem halted_stop (s : Setup J E) (m : Manager J E) :
    Halted s m (m.stop s).1 (m.stop s).2 := by
  rcases held : m.slot with _ | o
  · have stop : m.stop s = (.ok ⟨none, m.queue⟩,
        ({ m with queue := [] } : Manager J E).note (.stopped none m.queue.length)) := by
      simp only [Manager.stop, vacate, held, concludeStop, drain]
    rw [stop]
    exact .idle held
  · by_cases ends : ∀ p, m.lastWait s o ≠ .panic p
    · obtain ⟨r, hr⟩ := stop_completes held ends
      have stopped := stopped_of_stop s (Prod.ext hr rfl : m.stop s = (.ok r, (m.stop s).2))
      rw [hr]
      generalize (m.stop s).2 = m' at stopped
      cases stopped with
      | idle free => simp [free] at held
      | ended held' signalled awaited noPanic announced last =>
        obtain rfl := Option.some.inj (held'.symm.trans held)
        exact .ended (departed_of_awaited held signalled awaited last) ends announced
    · obtain ⟨p, panics⟩ := not_forall_not.mp ends
      obtain ⟨stop, e, departed⟩ := departed_of_panic held panics
      rw [stop]
      exact .broken departed panics

/-- What holds after a stop: it goes on to hold when the queue is emptied, and holds before that
whether the slot was free, its job was ended, or the wait for that panicked. -/
lemma stop_keeps {m : Manager J E} {P : Manager J E → Prop}
    (conclude : ∀ {m' : Manager J E} (i : Option JobId) (n : Nat),
      P m' → P (({ m' with queue := [] } : Manager J E).note (.stopped i n)))
    (idle : m.slot = none → P m)
    (ended : ∀ {o : Occupant J} {w : WaitOutcome} {e : Exit} {m' : Manager J E},
      Departed s m o (some w) e m' → P ((m'.finish s o e).2.announce s (m'.finish s o e).1))
    (broken : ∀ {o : Occupant J} {w : WaitOutcome} {e : Exit} {m' : Manager J E},
      Departed s m o (some w) e m' → P m') : P (m.stop s).2 := by
  have halted := halted_stop s m
  generalize (m.stop s).1 = r, (m.stop s).2 = m' at halted
  cases halted with
  | idle free => exact conclude _ _ (idle free)
  | ended departed ends announced => exact conclude _ _ (announced ▸ ended departed)
  | broken departed panics => exact broken departed

/-- What the end of the manager does. -/
inductive Dropped (s : Setup J E) (m : Manager J E) : Manager J E → Prop
  /-- The slot was free. -/
  | idle (free : m.slot = none) : Dropped s m { m with queue := [] }
  /-- The job in the slot was ended without a wait. -/
  | ended {o : Occupant J} {e : Exit} {m₁ : Manager J E} (departed : Departed s m o none e m₁) :
      Dropped s m
        { (m₁.finish s o e).2.announceLast s (m₁.finish s o e).1 with queue := [] }

/-- There is nothing else that the end of the manager does. -/
theorem dropped_drop (s : Setup J E) (m : Manager J E) : Dropped s m (m.drop s) := by
  rcases held : m.slot with _ | o
  · have drop : m.drop s = { m with queue := [] } := by simp only [Manager.drop, vacate, held]
    exact drop ▸ .idle held
  · obtain ⟨es, hes, last⟩ :=
      attended_signalLast s o (({ m with slot := none } : Manager J E).note (.dropped o.ticket.id))
    rcases hsig : (({ m with slot := none } : Manager J E).note (.dropped o.ticket.id)).signalLast
      s o with ⟨e, j, m₁⟩
    rw [hsig] at hes last
    obtain ⟨slot, queue, handles, past, -⟩ := hes
    replace past : m₁.past = es ++ .noted (.dropped o.ticket.id) :: m.past := past
    have departed : Departed s m o none e m₁ := ⟨held, slot, queue, handles, [], es,
      [.noted (.dropped o.ticket.id)], by simp [past, waitCall], last, by simp,
      by simp [Event.IsRemark]⟩
    have drop : m.drop s =
        { (m₁.finish s o e).2.announceLast s (m₁.finish s o e).1 with queue := [] } := by
      simp only [Manager.drop, vacate, held, hsig]
    exact drop ▸ .ended departed

end Departure

/-- The last announcement changes the history and nothing else. -/
lemma informed_announceLast (s : Setup J E) (m : Manager J E) (t : Transition) :
    ∃ es, Informed es m (m.announceLast s t) := by
  simp only [announceLast]
  split
  next => exact ⟨_, (Informed.refl m).happen (e := .audited _) trivial⟩
  next =>
    have told := (Informed.refl m).happen (e := .recorded t.record none) trivial
    split
    · exact ⟨_, told.happen (e := .audited _) trivial⟩
    · exact ⟨_, (told.happen (e := .noted _) trivial).happen (e := .audited _) trivial⟩

/-- The last announcement is news only. -/
lemma Lasting.announceLast {s : Setup J E} {P : Manager J E → Prop} (hP : Lasting s P)
    {m : Manager J E} (h : P m) (t : Transition) : P (m.announceLast s t) := by
  simp only [Manager.announceLast]
  split
  next => exact hP.happen (e := .audited (.entered _)) h trivial
  next =>
    have told : P (m.happen (.recorded t.record none)) := hP.happen h trivial
    split
    · exact hP.happen (e := .audited (.entered _)) told trivial
    · exact hP.happen (e := .audited (.entered _))
        (hP.happen (e := .noted (.sinkPanicked ..)) told trivial) trivial

/-! ## What every request keeps, also if it panics -/

/-- The manager after the requests, or after these and its end. -/
inductive Reached (s : Setup J E) (m : Manager J E) (rs : List (Request J E)) :
    Manager J E → Prop
  | after : Reached s m rs (m.after s rs)
  | dropped : Reached s m rs ((m.after s rs).drop s)

lemma Reached.of_append {s : Setup J E} {m m' : Manager J E} {rs rs' : List (Request J E)}
    (h : Reached s m (rs ++ rs') m') : Reached s (m.after s rs) rs' m' := by
  cases h with
  | after => exact after_append s m rs rs' ▸ .after
  | dropped => exact after_append s m rs rs' ▸ .dropped

/-- A property that no request ends. -/
structure Abiding (s : Setup J E) (P : List (Waiting J) → Manager J E → Prop) : Prop
    extends Admitting s P where
  depart : ∀ {m m' : Manager J E} {o : Occupant J} {w : WaitOutcome} {e : Exit},
    P [] m → Departed s m o (some w) e m' → P [] m'
  finish : ∀ {m m' : Manager J E} {o : Occupant J} {w : WaitOutcome} {e : Exit},
    P [] m → Departed s m o (some w) e m' → P [] (m'.finish s o e).2
  drain : ∀ {m : Manager J E}, P [] m → P [] { m with queue := [] }

namespace Abiding

variable {s : Setup J E} {P : List (Waiting J) → Manager J E → Prop} (hP : Abiding s P)
  {m : Manager J E}

include hP

lemma stop (h : P [] m) : P [] (m.stop s).2 := by
  refine stop_keeps ?_ (fun _ => h) ?_ ?_
  · intro m' i n h
    exact (hP.lasting _).happen (e := .noted (.stopped i n)) (hP.drain h) trivial
  · intro o w e m' departed
    exact (hP.lasting []).announce (hP.finish h departed) (m'.finish s o e).1
  · intro o w e m' departed
    exact hP.depart h departed

theorem serve (h : P [] m) (r : Request J E) : P [] (m.serve s r).2 := by
  by_cases hr : r = .stop
  · subst hr
    exact hP.stop h
  · exact hP.toAdmitting.serve h hr

/-- What abides holds after any requests, whether they complete or not. -/
theorem after (h : P [] m) (rs : List (Request J E)) : P [] (m.after s rs) := by
  induction rs using List.reverseRecOn with
  | nil => exact h
  | append_singleton rs r ih =>
    rw [after_append]
    exact hP.serve ih r

end Abiding

/-- A property that neither a request nor the end of the manager ends. -/
structure Lifelong (s : Setup J E) (P : List (Waiting J) → Manager J E → Prop) : Prop
    extends Abiding s P where
  ends : ∀ {m m' : Manager J E} {o : Occupant J} {e : Exit},
    P [] m → Departed s m o none e m' → P [] (m'.finish s o e).2

namespace Lifelong

variable {s : Setup J E} {P : List (Waiting J) → Manager J E → Prop} (hP : Lifelong s P)
  {m m' : Manager J E}

include hP

lemma drop (h : P [] m) : P [] (m.drop s) := by
  have dropped := dropped_drop s m
  generalize m.drop s = m' at dropped
  cases dropped with
  | idle free => exact hP.drain h
  | ended departed => exact hP.drain ((hP.lasting []).announceLast (hP.ends h departed) _)

/-- What is lifelong holds after any requests, and after these and the end of the manager. -/
theorem reached {rs : List (Request J E)} (h : P [] m) (reached : Reached s m rs m') : P [] m' := by
  cases reached with
  | after => exact hP.after h rs
  | dropped => exact hP.drop (hP.after h rs)

end Lifelong

/-! ## Places -/

section Placed

variable {s : Setup J E} {m m' : Manager J E} {o : Occupant J} {w : Option WaitOutcome} {e : Exit}
  {out : List Nat}

lemma Departed.placed (h : Departed s m o w e m') (hm : Placed m [] out) :
    Placed m' [] (o.ticket.number :: out) :=
  (hm.vacate h.held).congr ⟨by rw [h.slot], h.queue, h.handles⟩

/-- Only stops take submissions out of the slot for good. -/
lemma admitting_placed (s : Setup J E) (out : List Nat) :
    Admitting s fun arriving (m : Manager J E) => Placed m arriving out where
  lasting _ :=
    { happen := fun h _ => h.congr ⟨rfl, rfl, rfl⟩
      advance := fun h step => h.advance step }
  pass h := h.congr ⟨rfl, rfl, rfl⟩
  register j h := h.register j rfl
  enqueue h := Placed.enqueue (a := []) h

/-- Every submission stays in its place. Those whose stop panicked stay out of the slot for good. -/
lemma abiding_placed (s : Setup J E) :
    Abiding s fun arriving (m : Manager J E) => ∃ out, Placed m arriving out where
  lasting arriving :=
    { happen := fun ⟨out, h⟩ news =>
        ⟨out, ((admitting_placed s out).lasting arriving).happen h news⟩
      advance := fun ⟨out, h⟩ step => ⟨out, h.advance step⟩ }
  pass := fun ⟨out, h⟩ => ⟨out, (admitting_placed s out).pass h⟩
  register j := fun ⟨out, h⟩ => ⟨out, (admitting_placed s out).register j h⟩
  enqueue := fun ⟨out, h⟩ => ⟨out, (admitting_placed s out).enqueue h⟩
  depart := fun ⟨_, h⟩ departed => ⟨_, departed.placed h⟩
  finish {_ _ _ _ e} := fun ⟨out, h⟩ departed =>
    ⟨out, Placed.finish (a := []) (departed.placed h) e⟩
  drain := fun ⟨out, h⟩ => ⟨out, h.drain⟩

theorem placed_after (s : Setup J E) (env : E) (rs : List (Request J E)) :
    ∃ out, Placed (after s (.fresh env) rs) [] out :=
  (abiding_placed s).after ⟨[], .fresh env⟩ rs

end Placed

end Manager
end SerialJobs
