import SerialJobs.Proofs.Noninterference
import SerialJobs.Proofs.Deadline

/-!
# What a tick says of the manager

An iteration of the scheduling loop either looks after the job in the slot or starts the head of the
queue, and its tick is all that the callers learn. `Ticked` pairs every tick with the slot, the
queue and the handle that an iteration with this tick leaves, and `ticked_work` says that there is
nothing else, as long as the sink does not call back. So the tick can be read off the manager, and
the manager off the tick (`tick_truthful`).

What an iteration does to the job in the slot is taken from `turned_work` and `pursues_work`. Those
tell how a job is finished; that it has left the slot as well follows from its handle, which is not
running any more.
-/

namespace SerialJobs
namespace Manager

variable {J E : Type}

/-- How a start of the waiting job, made at this moment, ends. -/
def startup (s : Setup J E) (w : Waiting J) (m : Manager J E) : Outcome Unit :=
  (s.kind.start w.job m.env).outcome

/-- What the tick says of the job that was taken from the queue. -/
inductive Launched (s : Setup J E) (w : Waiting J) (m : Manager J E) : Tick → Manager J E → Prop
  | started {j : J} {n : Nat} {m' : Manager J E} (starts : m.startup s w = .ok ())
      (slot : m'.slot = some ⟨w.ticket, j, n, 0, none⟩)
      (state : m'.state? w.ticket.number = some .running) :
      Launched s w m (.started w.ticket.id) m'
  | startFailed {f : JobError} {m' : Manager J E} (fails : (m.startup s w).guarded = .error f)
      (slot : m'.slot = none)
      (state : m'.state? w.ticket.number = some (.finished (.startFailed f.message))) :
      Launched s w m (.startFailed w.ticket.id) m'

/-- What the tick says of the job that held the slot. -/
inductive Found (o : Occupant J) : Tick → Manager J E → Prop
  | stillRunning {j : J} {n : Nat} {m' : Manager J E}
      (slot : m'.slot = some { o with job := j, statusErrors := n, stop := none }) :
      Found o (.stillRunning o.ticket.id) m'
  | statusError {j : J} {n : Nat} {m' : Manager J E}
      (slot : m'.slot = some { o with job := j, statusErrors := n, stop := none }) :
      Found o (.statusError o.ticket.id) m'
  | stopping {j : J} {n : Nat} {p : PendingStop} {m' : Manager J E}
      (slot : m'.slot = some { o with job := j, statusErrors := n, stop := some p }) :
      Found o (.stopping o.ticket.id) m'
  | finished {e : Exit} {m' : Manager J E} (slot : m'.slot = none)
      (state : m'.state? o.ticket.number = some (.finished e)) :
      Found o (.finished o.ticket.id) m'
  /-- The job exceeded the job timeout, and its worker has not exited. -/
  | timingOut {j : J} {n : Nat} {b : Bool} {m' : Manager J E}
      (slot : m'.slot = some
        { o with job := j, statusErrors := n, stop := some ⟨.timeout, .killed .timeout, b⟩ }) :
      Found o (.timedOut o.ticket.id) m'
  /-- The job exceeded the job timeout, and its worker has exited since. -/
  | timedOut {m' : Manager J E} (slot : m'.slot = none)
      (state : m'.state? o.ticket.number = some (.finished (.killed .timeout))) :
      Found o (.timedOut o.ticket.id) m'

/-- What an iteration does: its tick, and the manager after it. -/
inductive Ticked (s : Setup J E) (m : Manager J E) : Tick → Manager J E → Prop
  | idle (free : m.slot = none) (empty : m.queue = []) : Ticked s m .idle m
  | launched {w : Waiting J} {ws : List (Waiting J)} {k : Tick} {m' : Manager J E}
      (free : m.slot = none) (head : m.queue = w :: ws) (queue : m'.queue = ws)
      (launched : Launched s w m k m') : Ticked s m k m'
  | tended {o : Occupant J} {k : Tick} {m' : Manager J E} (held : m.slot = some o)
      (queue : m'.queue = m.queue) (found : Found o k m') : Ticked s m k m'

variable {s : Setup J E} {o : Occupant J} {m m' : Manager J E} {out : List Nat}

/-! ## An iteration without calls of the sink -/

/-- After the locked section a sink that does not call back is told, and no more. -/
lemma informed_announceDue {α : Type} (passive : s.Passive) (r : Section J E α) :
    ∃ es, Informed es r.manager (announceDue s r) := by
  unfold announceDue
  split
  · exact ⟨[], .refl _⟩
  · rw [announce_eq_publish passive]
    exact informed_publish s _ _

/-- A locked section that finds the slot occupied leaves the queue alone, and no other job in the
slot. -/
lemma Advance.occupied {d : Option Transition} (step : Advance s m d m') (held : m.slot = some o) :
    m'.queue = m.queue ∧ ∀ o', m'.slot = some o' → o'.ticket = o.ticket := by
  cases step with
  | rest es slot queue handles past told =>
    refine ⟨queue, fun o' held' => ?_⟩
    rw [Option.some.inj (held'.symm.trans (slot.trans held))]
  | started es free => simp [free] at held
  | startFailed es free => simp [free] at held
  | kept held₁ next slot queue handles past attends tended =>
    obtain rfl := Option.some.inj (held₁.symm.trans held)
    refine ⟨queue, fun o' held' => ?_⟩
    rw [← Option.some.inj (slot.symm.trans held')]
  | released held₁ slot queue handles past attends exited yielded =>
    refine ⟨queue, fun o' held' => ?_⟩
    simp [slot] at held'

/-- With a job in the slot the queue stays, and a job that was finished has left the slot. -/
lemma occupied_work (passive : s.Passive) (placed : Placed m [] out) (held : m.slot = some o) :
    (m.work s).2.queue = m.queue ∧ ∀ e,
      (m.work s).2.state? o.ticket.number = some (.finished e) → (m.work s).2.slot = none := by
  obtain ⟨queue, holder⟩ := (advance_tickSection s m).occupied held
  obtain ⟨es, told⟩ := informed_announceDue passive (m.tickSection s)
  refine ⟨told.queue.trans queue, ?_⟩
  intro e finished
  have placed' : Placed (m.work s).2 [] out := ((admitting_placed s out).lasting []).work placed
  rcases held' : (m.work s).2.slot with _ | o'
  · rfl
  · -- whoever holds the slot is running
    have same : o'.ticket = o.ticket := holder o' (told.slot.symm.trans held')
    have running := placed'.running held'
    rw [same, finished] at running
    simp at running

/-! ## What the iteration finds -/

lemma found_of_turned {k : Tick} (turned : Turned s o m k m') (unstopped : o.stop = none)
    (leaves : ∀ e, m'.state? o.ticket.number = some (.finished e) → m'.slot = none) :
    Found o k m' := by
  cases turned with
  | running reads early slot => exact .stillRunning (by rw [slot, unstopped])
  | erring failed transient below slot => exact .statusError (by rw [slot, unstopped])
  | exited reads state => exact .finished (leaves _ state) state
  | overdue reads late ending =>
    cases ending with
    | pending presses slot => exact .timingOut slot
    | finished presses state => exact .timedOut (leaves _ state) state
  | unreadable failed last ending =>
    cases ending with
    | pending presses slot => exact .stopping slot
    | finished presses state => exact .finished (leaves _ state) state

lemma found_work (passive : s.Passive) (placed : Placed m [] out) (held : m.slot = some o) :
    Found o (m.work s).1 (m.work s).2 := by
  obtain ⟨-, leaves⟩ := occupied_work passive placed held
  rcases stop : o.stop with _ | p
  · exact found_of_turned (turned_work placed held stop) stop leaves
  · rcases pursues_work placed held stop with ⟨tick, j, b, slot⟩ | ⟨tick, state⟩
    · rw [tick]
      exact .stopping slot
    · rw [tick]
      exact .finished (leaves _ state) state

/-- The head of the queue is started, or it fails to start. -/
lemma launched_work (passive : s.Passive) (placed : Placed m [] out) (free : m.slot = none)
    {w : Waiting J} {ws : List (Waiting J)} (head : m.queue = w :: ws) :
    (m.work s).2.queue = ws ∧ Launched s w m (m.work s).1 (m.work s).2 := by
  obtain ⟨es, told⟩ := informed_announceDue passive (m.tickSection s)
  have states := placed.state?_advance (advance_tickSection s m)
  have same := state?_congr told.handles
  simp only [work] at told same ⊢
  simp only [tickSection, free, head, startHead] at told states same ⊢
  split at told
  next starts =>
    simp only [starts] at told states same ⊢
    refine ⟨told.queue, .started (Outcome.eq_ok_of_guarded starts) told.slot ?_⟩
    rw [same, states]
    exact Function.update_self ..
  next f fails =>
    simp only [fails] at told states same ⊢
    refine ⟨told.queue, .startFailed fails told.slot ?_⟩
    rw [same, states]
    exact Function.update_self ..

/-- There is nothing else that an iteration does. -/
theorem ticked_work (passive : s.Passive) (placed : Placed m [] out) :
    Ticked s m (m.work s).1 (m.work s).2 := by
  rcases held : m.slot with _ | o
  · rcases head : m.queue with _ | ⟨w, ws⟩
    · have idle : m.work s = (.idle, m) := by
        simp only [work, tickSection, held, head, announceDue]
      rw [idle]
      exact .idle held head
    · obtain ⟨queue, launched⟩ := launched_work passive placed held head
      exact .launched held head queue launched
  · exact .tended held (occupied_work passive placed held).1 (found_work passive placed held)

/-! ## The tick tells the truth -/

/-- The tick `k` of an iteration tells what the iteration did to `m`, which is `m'` after it. -/
structure Candid (s : Setup J E) (m : Manager J E) (k : Tick) (m' : Manager J E) : Prop where
  /-- The head leaves the queue if the slot was free, and nothing else ever does. -/
  queue : m'.queue = if m.slot.isNone then m.queue.tail else m.queue
  idle_iff : k = .idle ↔ m.slot = none ∧ m.queue = []
  unchanged : k = .idle → m' = m
  started_iff : ∀ id, k = .started id ↔
    m.slot = none ∧ ∃ w, m.queue.head? = some w ∧ w.ticket.id = id ∧ m.startup s w = .ok ()
  startFailed_iff : ∀ id, k = .startFailed id ↔
    m.slot = none ∧ ∃ w f, m.queue.head? = some w ∧ w.ticket.id = id ∧
      (m.startup s w).guarded = .error f
  launched : ∀ w, m.slot = none → m.queue.head? = some w → Launched s w m k m'
  found : ∀ o, m.slot = some o → Found o k m'

variable {k : Tick} {w : Waiting J}

lemma Launched.ne_idle (launched : Launched s w m k m') : k ≠ .idle := by
  cases launched <;> simp

lemma Launched.started_iff (launched : Launched s w m k m') {id : JobId} :
    k = .started id ↔ w.ticket.id = id ∧ m.startup s w = .ok () := by
  cases launched with
  | started starts => simp [starts]
  | startFailed fails =>
    have fails' : m.startup s w ≠ .ok () := by
      intro starts
      simp [starts, Outcome.guarded] at fails
    simp [fails']

lemma Launched.startFailed_iff (launched : Launched s w m k m') {id : JobId} :
    k = .startFailed id ↔ w.ticket.id = id ∧ ∃ f, (m.startup s w).guarded = .error f := by
  cases launched with
  | started starts => simp [starts, Outcome.guarded]
  | startFailed fails => simp [fails]

lemma Found.ne_idle (found : Found o k m') : k ≠ .idle := by
  cases found <;> simp

/-- An iteration that finds a job in the slot starts none. -/
lemma Found.ne_launched (found : Found o k m') (id : JobId) :
    k ≠ .started id ∧ k ≠ .startFailed id := by
  cases found <;> simp

lemma Ticked.candid (ticked : Ticked s m k m') : Candid s m k m' := by
  cases ticked with
  | idle free empty => constructor <;> simp [free, empty]
  | launched free head queue launched =>
    constructor
    case queue => simp [free, head, queue]
    case idle_iff => simp [free, head, launched.ne_idle]
    case unchanged => exact fun idle => absurd idle launched.ne_idle
    case started_iff => simp [free, head, launched.started_iff]
    case startFailed_iff => simp [free, head, launched.startFailed_iff]
    case launched =>
      intro w' _ first
      obtain rfl : _ = w' := by simpa [head] using first
      exact launched
    case found => simp [free]
  | tended held queue found =>
    constructor
    case queue => simp [held, queue]
    case idle_iff => simp [held, found.ne_idle]
    case unchanged => exact fun idle => absurd idle found.ne_idle
    case started_iff => simp [held, (found.ne_launched _).1]
    case startFailed_iff => simp [held, (found.ne_launched _).2]
    case launched => simp [held]
    case found =>
      intro o' held'
      obtain rfl := Option.some.inj (held.symm.trans held')
      exact found

/-- The tick tells the truth. Whatever was asked of the manager before and however its jobs behave,
an iteration takes the head of the queue if the slot is free and leaves the queue alone otherwise,
and its tick is the one that the slot, the queue and the handle of the job at hand give after it. -/
theorem tick_truthful (passive : s.Passive) (env : E) (rs : List (Request J E)) :
    let m := after s (.fresh env) rs
    Candid s m (m.work s).1 (m.work s).2 := by
  intro m
  obtain ⟨out, placed⟩ := placed_after s env rs
  exact (ticked_work passive placed).candid

/-- Jobs may run for a nanosecond, and the sink panics whenever it is told something. -/
def rushed : Setup Worker Host :=
  { alarmed with config := { jobTimeout := some (.ofNanos 1) } }

/-- A script that cannot be looked at first is found overdue, and the signal does not get through
to it: the tick is `timedOut`, and the job keeps the slot. -/
theorem tick_truthful_tardy : rushed.Passive ∧
    let m := after rushed (.fresh {}) [.submit tardy, .submit (.endless 2), .work, .work]
    ((m.work rushed).1 = .timedOut (.ofNat 1) ∧
      (m.work rushed).2.slot.map (fun o => (o.ticket.id, o.stop)) =
        some (.ofNat 1, some ⟨.timeout, .killed .timeout, false⟩)) ∧
      Candid rushed m (m.work rushed).1 (m.work rushed).2 := by
  have passive : rushed.Passive := by
    rintro k ⟨⟩ past r
    rfl
  refine ⟨passive, ⟨?_, ?_⟩, tick_truthful passive {} _⟩ <;> exact of_decide_eq_true (by cbv)

end Manager
end SerialJobs
