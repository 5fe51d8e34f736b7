import SerialJobs.Proofs.Attribution

/-!
# The exits of a course of requests

At every moment the calls on the job in the slot and its docket go together, jobs that wait were not
called, and the calls on a finished job account for its exit (`Accounted`). Every locked section
keeps that, whoever asks for it, and so does every departure of a job from the slot;
`exit_attribution` has it for any requests and for the end of the manager.
-/

namespace SerialJobs
namespace Manager

variable {J E : Type} {s : Setup J E} {m m' : Manager J E} {o : Occupant J}
  {w : Option WaitOutcome} {e : Exit}

/-! ## The calls on one job -/

/-- The calls that count on the job of the given number, in order. -/
def callsOn (m : Manager J E) (n : Nat) : List Exchange := callsIn n m.past

lemma callsOn_of_past {es : List Event} (past : m'.past = es ++ m.past) (n : Nat) :
    m'.callsOn n = m.callsOn n ++ callsIn n es := by
  rw [callsOn, past, callsIn_append, callsOn]

/-- Nobody is called. -/
lemma callsOn_of_told {es : List Event} (past : m'.past = es ++ m.past)
    (told : ∀ e ∈ es, e.IsTold) (n : Nat) : m'.callsOn n = m.callsOn n := by
  rw [callsOn_of_past past, callsIn_of_told told, List.append_nil]

lemma callsOn_happen {e : Event} (told : e.IsTold) (n : Nat) :
    (m.happen e).callsOn n = m.callsOn n :=
  callsOn_of_told (rfl : (m.happen e).past = [e] ++ m.past)
    (List.forall_mem_singleton.mpr told) n

lemma callsOn_of_attends {es : List Event} {t : Ticket} {n : Nat} (past : m'.past = es ++ m.past)
    (attends : ∀ e ∈ es, e.Attends t) (hne : n ≠ t.number) : m'.callsOn n = m.callsOn n := by
  rw [callsOn_of_past past, callsIn_of_attends attends hne, List.append_nil]

/-- That a handle enters a state is not a call. -/
lemma callsOn_moved {t : Transition} (past : m'.past = .moved t :: m.past) (n : Nat) :
    m'.callsOn n = m.callsOn n := by
  rw [callsOn, past, callsIn_cons]
  exact List.append_nil _

/-- The calls of a departure, besides the ones before. -/
lemma Departed.callsOn (h : Departed s m o w e m') :
    ∃ es, LastSignal o (s.kind.terminate .shutdown o.job m.env).outcome es e ∧
      m'.callsOn o.ticket.number = m.callsOn o.ticket.number ++
        (callsIn o.ticket.number es ++ callsIn o.ticket.number (waitCall o.ticket w)) := by
  obtain ⟨told, es, remarks, past, last, hTold, hRemarks⟩ := h.past
  refine ⟨es, last, ?_⟩
  rw [callsOn_of_past past, callsIn_append, callsIn_append, callsIn_append,
    callsIn_of_remarks hTold, callsIn_of_remarks hRemarks, List.append_nil, List.nil_append]

/-- No other job is called when a job departs. -/
lemma Departed.callsOn_of_ne (h : Departed s m o w e m') {n : Nat} (hne : n ≠ o.ticket.number) :
    m'.callsOn n = m.callsOn n := by
  obtain ⟨told, es, remarks, past, last, hTold, hRemarks⟩ := h.past
  rw [callsOn_of_past past, callsIn_append, callsIn_append, callsIn_append, callsIn_waitCall,
    if_neg hne.symm, callsIn_of_remarks hTold, callsIn_of_remarks hRemarks,
    callsIn_of_attends last.attends hne]
  simp

/-! ## What holds at every moment -/

/-- Every exit is accounted for, and so is the docket of the job in the slot. -/
structure Accounted (s : Setup J E) (arriving : List (Waiting J)) (m : Manager J E) : Prop where
  placed : ∃ out, Placed m arriving out
  waiting : ∀ w ∈ m.queue ++ arriving, m.callsOn w.ticket.number = []
  held : ∀ o, m.slot = some o → ∃ l, m.callsOn o.ticket.number = .start (.ok ()) :: l ∧
    Handled s.config.statusErrorLimit.toNat l o.docket
  finished : ∀ n e, m.state? n = some (.finished e) →
    Attributed s.config.statusErrorLimit.toNat (m.callsOn n) (∃ w, .wait w ∈ m.callsOn n) e
  unknown : ∀ n, m.handles.length ≤ n → m.callsOn n = []

namespace Accounted

variable {arriving arriving' : List (Waiting J)}

lemma fresh (s : Setup J E) (env : E) : Accounted s [] (.fresh env) where
  placed := ⟨[], .fresh env⟩
  waiting := by simp [Manager.fresh]
  held := by simp [Manager.fresh]
  finished := by simp [Manager.fresh, state?]
  unknown _ _ := rfl

/-- No job is called, and no handle changes. -/
lemma quiet (h : Accounted s arriving m) (placed : ∃ out, Placed m' arriving' out)
    (calls : ∀ n, m'.callsOn n = m.callsOn n) (handles : m'.handles = m.handles)
    (waiting : ∀ w ∈ m'.queue ++ arriving', w ∈ m.queue ++ arriving)
    (slot : ∀ o, m'.slot = some o → m.slot = some o) : Accounted s arriving' m' where
  placed := placed
  waiting w hw := by
    rw [calls]
    exact h.waiting w (waiting w hw)
  held o ho := by
    rw [calls]
    exact h.held o (slot o ho)
  finished n e hn := by
    rw [state?_congr handles] at hn
    rw [calls]
    exact h.finished n e hn
  unknown n hn := by
    rw [calls]
    exact h.unknown n (handles ▸ hn)

/-- One job is called that is not waiting any more, and no other handle changes. -/
lemma move (h : Accounted s arriving m) {k : Nat} {st : JobState}
    (placed : ∃ out, Placed m' arriving out)
    (states : m'.state? = Function.update m.state? k (some st)) (hst : st ≠ .queued)
    (calls : ∀ n, n ≠ k → m'.callsOn n = m.callsOn n)
    (queue : ∀ w ∈ m'.queue, w ∈ m.queue)
    (held : ∀ o, m'.slot = some o → ∃ l, m'.callsOn o.ticket.number = .start (.ok ()) :: l ∧
      Handled s.config.statusErrorLimit.toNat l o.docket)
    (finished : ∀ e, st = .finished e →
      Attributed s.config.statusErrorLimit.toNat (m'.callsOn k) (∃ w, .wait w ∈ m'.callsOn k) e) :
    Accounted s arriving m' where
  placed := placed
  waiting w hw := by
    obtain ⟨out, placed⟩ := placed
    have queued := placed.queued w.ticket.number (List.mem_map_of_mem hw)
    have hne : w.ticket.number ≠ k := by
      intro heq
      rw [heq, states, Function.update_self] at queued
      exact hst (Option.some.inj queued)
    rw [calls _ hne]
    refine h.waiting w ?_
    exact (List.mem_append.mp hw).elim (fun hw => List.mem_append_left _ (queue w hw))
      (List.mem_append_right _)
  held := held
  finished n e hn := by
    rw [states] at hn
    rcases eq_or_ne n k with rfl | hne
    · rw [Function.update_self] at hn
      exact finished e (Option.some.inj hn)
    · rw [Function.update_of_ne hne] at hn
      rw [calls n hne]
      exact h.finished n e hn
  unknown n hn := by
    have none := state?_eq_none_iff.mpr hn
    rw [states] at none
    have hne : n ≠ k := by
      rintro rfl
      simp at none
    rw [Function.update_of_ne hne] at none
    rw [calls n hne]
    exact h.unknown n (state?_eq_none_iff.mp none)

/-- The head of the queue is called to start, whatever comes of it. -/
lemma callsOn_launched (h : Accounted s arriving m) {v : Waiting J} {vs : List (Waiting J)}
    (head : m.queue = v :: vs) {t : Transition} {es : List Event} {x : Outcome Unit}
    (past : m'.past = .moved t :: es ++ .call v.ticket (.start x) :: m.past)
    (told : ∀ e ∈ es, e.IsRemark) :
    m'.callsOn v.ticket.number = [.start x] ∧
      ∀ n, n ≠ v.ticket.number → m'.callsOn n = m.callsOn n := by
  have calls : ∀ n, m'.callsOn n =
      m.callsOn n ++ if v.ticket.number = n then [.start x] else [] := by
    intro n
    rw [callsOn_of_past (past.trans (List.append_cons ..)), callsIn_start told]
  constructor
  · rw [calls, if_pos rfl, h.waiting v (by simp [head])]
    rfl
  · intro n hn
    rw [calls, if_neg hn.symm, List.append_nil]

/-! ## Locked sections -/

/-- The job in the slot has reported an exit, and leaves it. -/
lemma attributed_released (h : Accounted s arriving m) (held : m.slot = some o) {t : Transition}
    {es : List Event} {x : Exit} (past : m'.past = .moved t :: es ++ m.past)
    (yielded : Exited s o.ticket o.docket x e es) :
    Attributed s.config.statusErrorLimit.toNat (m'.callsOn o.ticket.number)
      (∃ w, .wait w ∈ m'.callsOn o.ticket.number) e := by
  obtain ⟨l, calls, handled⟩ := h.held o held
  cases yielded with
  | @intro es d remarks hremarks tended yields =>
    have handled' := handled.tend tended
    have calls' : m'.callsOn o.ticket.number = .start (.ok ()) ::
        (l ++ callsIn o.ticket.number es ++ [.tryExit (.ok (some x))]) := by
      rw [callsOn_of_past past, calls, callsIn_cons, callsIn_append, callsIn_of_remarks hremarks,
        callsIn_cons]
      simp [Event.callOn?, Exchange.IsVain]
    rw [calls']
    -- a job that is in the slot was not waited for
    refine handled'.attributed_exited yields ?_
    rintro ⟨w, hw⟩
    exact handled'.wait_notMem w (by simpa using hw)

lemma advance (h : Accounted s arriving m) {d : Option Transition} (step : Advance s m d m') :
    Accounted s arriving m' := by
  obtain ⟨out, placed⟩ := h.placed
  have placed' : ∃ out, Placed m' arriving out := ⟨out, placed.advance step⟩
  have states := placed.state?_advance step
  cases step with
  | rest es slot queue handles past told =>
    have calls := callsOn_of_told past fun e he => (told e he).isTold
    exact h.quiet placed' calls handles (fun w hw => queue ▸ hw) (fun o ho => slot ▸ ho)
  | started es free head slot queue handles past told =>
    obtain ⟨own, others⟩ := h.callsOn_launched head past told
    refine h.move placed' states (by simp) others ?_ ?_ (by simp)
    · exact fun v hv => head ▸ List.mem_cons_of_mem _ (queue ▸ hv)
    · intro o ho
      obtain rfl := Option.some.inj (slot.symm.trans ho)
      exact ⟨[], own, .start _⟩
  | startFailed es free head slot queue handles past failed told cause =>
    obtain ⟨own, others⟩ := h.callsOn_launched head past told
    refine h.move placed' states (by simp) others ?_ (by simp [slot]) ?_
    · exact fun v hv => head ▸ List.mem_cons_of_mem _ (queue ▸ hv)
    · rintro e ⟨⟩
      obtain ⟨f, hf, rfl⟩ := cause
      rw [own]
      exact attributed_startFailed hf _
  | @kept o j n p es m' held next slot queue handles past attends tended =>
    obtain ⟨l, calls, handled⟩ := h.held o held
    have running : m'.state? = Function.update m.state? o.ticket.number (some .running) := by
      rw [← placed.running held, Function.update_eq_self]
      exact states
    refine h.move placed' running (by simp) (fun n => callsOn_of_attends past attends)
      (fun v hv => queue ▸ hv) ?_ (by simp)
    · intro o' ho
      obtain rfl := Option.some.inj (slot.symm.trans ho)
      refine ⟨l ++ callsIn o.ticket.number es, ?_, handled.tend tended⟩
      rw [callsOn_of_past past, calls]
      rfl
  | released held slot queue handles past attends exited yielded =>
    refine h.move placed' states (by simp) ?_ (fun v hv => queue ▸ hv) (by simp [slot]) ?_
    · intro k hk
      rw [callsOn_of_past past, callsIn_cons, callsIn_of_attends attends hk]
      exact List.append_nil _
    · rintro e' ⟨⟩
      exact h.attributed_released held past yielded

/-! ## Submissions -/

lemma register (h : Accounted s [] m) (j : J) :
    Accounted s [⟨m.nextTicket s j, j⟩] (m.register s (m.nextTicket s j)) := by
  have calls : ∀ n, (m.register s (m.nextTicket s j)).callsOn n = m.callsOn n := callsOn_moved rfl
  have states : (m.register s (m.nextTicket s j)).state? =
      Function.update m.state? m.handles.length (some .queued) :=
    state?_of_append (h := .fresh (m.nextTicket s j).id (m.nextTicket s j).label (m.now s)) rfl
  obtain ⟨out, placed⟩ := h.placed
  refine ⟨⟨out, placed.register j rfl⟩, ?_, ?_, ?_, ?_⟩
  · intro w hw
    rw [calls]
    rcases List.mem_append.mp hw with hw | hw
    · exact h.waiting w (List.mem_append_left _ hw)
    · rw [List.mem_singleton.mp hw]
      exact h.unknown _ (Nat.le_refl _)
  · intro o ho
    rw [calls]
    exact h.held o ho
  · intro n e hn
    have hne : n ≠ m.handles.length := by
      rintro rfl
      simp [states] at hn
    rw [states, Function.update_of_ne hne] at hn
    rw [calls]
    exact h.finished n e hn
  · intro n hn
    rw [calls]
    refine h.unknown n (Nat.le_of_succ_le ?_)
    simpa [Manager.register] using hn

/-! ## Departures -/

/-- A job that has departed is accounted for, where a stop or the end of the manager took it. -/
lemma attributed_departed (h : Accounted s [] m) (departed : Departed s m o w e m') {taken : Prop}
    (yes : taken) :
    Attributed s.config.statusErrorLimit.toNat (m'.callsOn o.ticket.number) taken e := by
  obtain ⟨l, calls, handled⟩ := h.held o departed.held
  obtain ⟨es, last, calls'⟩ := departed.callsOn
  rw [calls', calls, List.cons_append, ← List.append_assoc]
  exact handled.attributed_shutDown last w yes

lemma depart (h : Accounted s [] m) (departed : Departed s m o w e m') : Accounted s [] m' := by
  obtain ⟨out, placed⟩ := h.placed
  have running : m'.state? = Function.update m.state? o.ticket.number (some .running) := by
    rw [← placed.running departed.held, Function.update_eq_self]
    exact state?_congr departed.handles
  exact h.move ⟨_, departed.placed placed⟩ running (by simp) (fun n => departed.callsOn_of_ne)
    (fun v hv => departed.queue ▸ hv) (by simp [departed.slot]) (by simp)

lemma finish (h : Accounted s [] m) {x : WaitOutcome} (departed : Departed s m o (some x) e m') :
    Accounted s [] (m'.finish s o e).2 := by
  obtain ⟨out, placed⟩ := h.placed
  have placed' := departed.placed placed
  have running : m'.state? o.ticket.number = some .running :=
    (placed'.running_iff _).mpr (by simp [busy])
  have calls : ∀ n, (m'.finish s o e).2.callsOn n = m'.callsOn n := callsOn_moved rfl
  refine (h.depart departed).move ⟨_, Placed.finish (a := []) placed' e⟩
    (state?_of_modify running rfl) (by simp) (fun n _ => calls n) (fun _ hv => hv) ?_ ?_
  · intro o' ho
    rw [show (m'.finish s o e).2.slot = none from departed.slot] at ho
    cases ho
  · rintro e' ⟨⟩
    rw [calls]
    refine h.attributed_departed departed ⟨x, ?_⟩
    obtain ⟨es, last, calls'⟩ := departed.callsOn
    rw [calls', callsIn_waitCall]
    simp

end Accounted

/-- Everything that requests are made of keeps the accounts. -/
lemma abiding_accounted (s : Setup J E) : Abiding s (Accounted s) where
  lasting _ :=
    { happen := fun h news => by
        obtain ⟨out, placed⟩ := h.placed
        exact h.quiet ⟨out, placed.congr ⟨rfl, rfl, rfl⟩⟩ (callsOn_happen news.isTold) rfl
          (fun _ hw => hw) fun _ ho => ho
      advance := fun h step => h.advance step }
  pass h := by
    obtain ⟨out, placed⟩ := h.placed
    exact h.quiet ⟨out, placed.congr ⟨rfl, rfl, rfl⟩⟩ (fun _ => rfl) rfl (fun _ hw => hw)
      fun _ ho => ho
  register j h := h.register j
  enqueue h := by
    obtain ⟨out, placed⟩ := h.placed
    refine h.quiet ⟨out, Placed.enqueue (a := []) placed⟩ (fun _ => rfl) rfl ?_ fun _ ho => ho
    simp [enqueue]
  depart h departed := h.depart departed
  finish h departed := h.finish departed
  drain h := by
    obtain ⟨out, placed⟩ := h.placed
    exact h.quiet ⟨out, placed.drain⟩ (fun _ => rfl) rfl (by simp) fun _ ho => ho

theorem accounted_after (s : Setup J E) (env : E) (rs : List (Request J E)) :
    Accounted s [] (after s (.fresh env) rs) :=
  (abiding_accounted s).after (.fresh s env) rs

/-! ## The end of the manager -/

/-- The job of the given number was not finished by an iteration or a kill: a stop has waited for
it, or it was still in the slot of `m`, the manager before the end. -/
def TakenOut (m m' : Manager J E) (n : Nat) : Prop :=
  (∃ w, .wait w ∈ m'.callsOn n) ∨ ∃ o, m.slot = some o ∧ o.ticket.number = n

namespace Accounted

variable {n : Nat}

lemma exit (h : Accounted s [] m) (hn : m.state? n = some (.finished e)) :
    Attributed s.config.statusErrorLimit.toNat (m.callsOn n) (m.TakenOut m n) e := by
  have free : ¬ ∃ o, m.slot = some o ∧ o.ticket.number = n := by
    rintro ⟨o, held, rfl⟩
    obtain ⟨out, placed⟩ := h.placed
    simp [placed.running held] at hn
  rw [TakenOut, or_iff_left free]
  exact h.finished n e hn

lemma exit_drop (h : Accounted s [] m) (hn : (m.drop s).state? n = some (.finished e)) :
    Attributed s.config.statusErrorLimit.toNat ((m.drop s).callsOn n) (m.TakenOut (m.drop s) n)
      e := by
  have dropped := dropped_drop s m
  generalize m.drop s = m' at dropped hn ⊢
  cases dropped with
  | idle free => exact h.exit hn
  | @ended o e' m₁ departed =>
    obtain ⟨out, placed⟩ := h.placed
    -- once the job has departed nobody is called, and only its own handle changes
    obtain ⟨es, announced⟩ := informed_announceLast s (m₁.finish s o e').2 (m₁.finish s o e').1
    generalize (m₁.finish s o e').2.announceLast s (m₁.finish s o e').1 = m₂ at announced hn ⊢
    have calls : ∀ k, m₂.callsOn k = m₁.callsOn k := fun k =>
      (callsOn_of_told announced.past announced.told k).trans (callsOn_moved rfl k)
    have running : m₁.state? o.ticket.number = some .running := by
      rw [state?_congr departed.handles, placed.running departed.held]
    have states : m₂.state? =
        Function.update m.state? o.ticket.number (some (.finished e')) := by
      rw [← state?_congr departed.handles]
      exact (state?_congr announced.handles).trans (state?_of_modify running rfl)
    change m₂.state? n = some (.finished e) at hn
    change Attributed _ (m₂.callsOn n) (m.TakenOut m₂ n) e
    rw [states] at hn
    rw [TakenOut, calls]
    rcases eq_or_ne n o.ticket.number with rfl | hne
    · rw [Function.update_self] at hn
      obtain rfl : e' = e := by simpa using hn
      exact h.attributed_departed departed (.inr ⟨o, departed.held, rfl⟩)
    · rw [Function.update_of_ne hne] at hn
      have free : ¬ ∃ o', m.slot = some o' ∧ o'.ticket.number = n := by
        rintro ⟨o', held, rfl⟩
        exact hne (by rw [Option.some.inj (departed.held.symm.trans held)])
      rw [or_iff_left free, departed.callsOn_of_ne hne]
      exact h.finished n e hn

end Accounted

/-! ## Kills in vain -/

/-- From `m` to `m'` nothing changes on which an exit depends. -/
structure SameGrounds (m m' : Manager J E) : Prop where
  slot : m'.slot.map (fun o => (o.ticket, o.docket)) = m.slot.map fun o => (o.ticket, o.docket)
  queue : m'.queue = m.queue
  handles : m'.handles = m.handles
  calls : ∀ n, m'.callsOn n = m.callsOn n

lemma sameGrounds_killOccupant {c : KillCommand} (held : m.slot = some o)
    (h : (m.killOccupant s o c).answer = false) :
    (m.killOccupant s o c).due = none ∧ SameGrounds m (m.killOccupant s o c).manager := by
  obtain ⟨es, hes, hp⟩ := pursued_pursue s o _ m (o.pursues_kill c)
  simp only [killOccupant] at h ⊢
  split <;> rename_i heq <;> rw [heq] at hes hp
  case _ j m' =>
    refine ⟨rfl, ⟨by simp [keep, held, Occupant.docket], hes.queue, hes.handles, ?_⟩⟩
    intro n
    cases hp with
    | @undelivered _ x f failed tended =>
      have calls : m'.callsOn n = m.callsOn n ++ callsIn n _ := callsOn_of_past hes.past n
      rw [callsIn_cons, callsIn_cons, Event.callOn?_terminate failed] at calls
      exact calls.trans (List.append_nil _)
  case _ => simp [heq] at h
  case _ => simp [heq] at h

lemma sameGrounds_killSection {id : JobId} {c : KillCommand}
    (h : (m.killSection s id c).answer = false) :
    (m.killSection s id c).due = none ∧ SameGrounds m (m.killSection s id c).manager := by
  have ignored : SameGrounds m (m.note (.killIgnored id c)) :=
    ⟨rfl, rfl, rfl, callsOn_happen trivial⟩
  unfold killSection at h ⊢
  split
  next o held =>
    simp only [held] at h
    split
    next hid =>
      rw [if_pos hid] at h
      exact sameGrounds_killOccupant held h
    next => exact ⟨rfl, ignored⟩
  next => exact ⟨rfl, ignored⟩

/-- A kill that was not delivered. -/
lemma sameGrounds_kill {id : JobId} {c : KillCommand} (h : (m.kill s id c).1 = false) :
    SameGrounds m (m.kill s id c).2 := by
  obtain ⟨due, grounds⟩ := sameGrounds_killSection h
  simp only [kill, announceDue, due]
  exact grounds

/-! ## Every exit -/

/-- The exit of every submission is accounted for by the calls on its job, after any requests and
also once the manager has ended. A kill that is not delivered changes nothing on which an exit
depends. -/
theorem exit_attribution (s : Setup J E) (env : E) {rs : List (Request J E)}
    (run : Reached s (.fresh env) rs m') :
    let m := after s (.fresh env) rs
    (∀ n e, m'.state? n = some (.finished e) →
      Attributed s.config.statusErrorLimit.toNat (m'.callsOn n) (m.TakenOut m' n) e) ∧
    ∀ id c, (m.kill s id c).1 = false → SameGrounds m (m.kill s id c).2 := by
  have accounted := accounted_after s env rs
  refine ⟨?_, fun id c => sameGrounds_kill⟩
  intro n e hn
  cases run with
  | after => exact accounted.exit hn
  | dropped => exact accounted.exit_drop hn

/-- A script that no signal gets through to at first, and that reports its exit at the second check.
-/
def reluctant : Worker :=
  .script ⟨.ofNat 2, "scan", .always (.ok ()), ⟨.ok none, [.ok (some .completed)]⟩,
    ⟨.error (.terminateFailed "busy"), [.ok ()]⟩, .always ⟨0, some (.ok .completed)⟩⟩

/-- A job completes, another one is killed twice, the first time in vain, and a third one is
started. -/
def contest : List (Request Worker Host) :=
  [.submit (.reporting 1 (.always (.ok (some .completed)))), .submit reluctant,
    .submit (.endless 3), .work, .work, .work, .work, .kill (.ofNat 2) .cancel,
    .kill (.ofNat 2) .pause, .work]

/-- After `contest` the manager ends. The second job has the exit of the kill that was delivered to
it, although it reported that it had completed. If a stop comes instead then the third job has the
exit of the stop, although the stop waits until it has completed. -/
theorem exit_attribution_contest :
    let m := after .bare (.fresh {}) contest
    let m' := m.drop .bare
    let halted := after .bare (.fresh {}) (contest ++ [.stop])
    ((m'.state? 0 = some (.finished .completed) ∧
      m'.state? 1 = some (.finished (.killed .pause)) ∧
      m'.state? 2 = some (.finished (.killed .shutdown))) ∧
      m'.callsOn 1 = [.start (.ok ()), .tryExit (.ok none), .terminate .pause (.ok ()),
        .tryExit (.ok (some .completed))] ∧
      Attributed 10 (m'.callsOn 1) (m.TakenOut m' 1) (.killed .pause)) ∧
    halted.state? 2 = some (.finished (.killed .shutdown)) ∧
      halted.callsOn 2 = [.start (.ok ()), .terminate .shutdown (.ok ()),
        .wait (.exited .completed)] ∧
      Attributed 10 (halted.callsOn 2) (halted.TakenOut halted 2) (.killed .shutdown) := by
  have killed : ((after .bare (.fresh {}) contest).drop .bare).state? 1 =
      some (.finished (.killed .pause)) := of_decide_eq_true (by cbv)
  have stopped : (after .bare (.fresh {}) (contest ++ [.stop])).state? 2 =
      some (.finished (.killed .shutdown)) := of_decide_eq_true (by cbv)
  refine ⟨⟨⟨?_, killed, ?_⟩, ?_, (exit_attribution .bare {} .dropped).1 1 _ killed⟩, stopped, ?_,
    (exit_attribution .bare {} .after).1 2 _ stopped⟩ <;>
    exact of_decide_eq_true (by cbv)

end Manager
end SerialJobs
