import SerialJobs.Proofs.Conclusion
import SerialJobs.Proofs.Keeping.Upkeep
import SerialJobs.Proofs.Reporting

/-!
# Which handles are forgotten

A handle that has not finished is that of the job in the slot or of one in the queue, or it is
forgotten: a stop has handed its job back, or a stop has taken its job out of the slot and the wait
for that has panicked, which makes the submission `Forsaken`. Such a handle stays as it is whatever
comes (`lifelong_givenUp`): that of a job that was handed back says that it is queued, also when the
job is put again, which is a new submission with a new handle. `Located` is what the requests keep,
and the end of the manager is looked at after them (`unfinished_iff_kept`).
-/

namespace SerialJobs
namespace Manager

variable {J E : Type} {s : Setup J E} {m m' : Manager J E} {n : Nat}

/-- The wait of a stop for the job of the submission has panicked. -/
def Forsaken (m : Manager J E) (n : Nat) : Prop :=
  ∃ t p, .call t (.wait (.panic p)) ∈ m.past ∧ t.number = n

lemma unfinished_congr (handles : m'.handles = m.handles) : m'.Unfinished n ↔ m.Unfinished n := by
  rw [Unfinished, Unfinished, state?_congr handles]

/-! ## Where the unfinished handles are -/

namespace Represented

variable {as : List (Answer J)} {out : List Nat}

/-- A job is taken out of the slot for good, and only its own job is called. -/
lemma depart (h : Represented s as [] out m) {o : Occupant J} {w : Option WaitOutcome} {e : Exit}
    (departed : Departed s m o w e m') : Represented s as [] (o.ticket.number :: out) m' := by
  have vacated := h.vacate departed.held
  have begun : m.Begun o.ticket.number := vacated.begun (by simp [busy])
  obtain ⟨told, es, remarks, past, last, hTold, hRemarks⟩ := departed.past
  refine vacated.quiet ⟨by rw [departed.slot], departed.queue, departed.handles⟩ _ past ?_
    (by simp [departed.slot])
  intro t x hx
  simp only [List.mem_append] at hx
  rcases hx with ((hx | hx) | hx) | hx
  · exact absurd (hTold _ hx) id
  · obtain ⟨y, hy⟩ := eq_of_mem_waitCall hx
    rw [(Event.call.inj hy).1]
    exact begun
  · exact (last.attends _ hx).ticket_eq rfl ▸ begun
  · exact absurd (hRemarks _ hx) id

/-- The unfinished handles are those of the jobs that the manager holds, and of those that a stop
has handed back. -/
lemma unfinished_iff (h : Represented s as [] out m) (hn : n ∉ out) :
    m.Unfinished n ↔ m.Keeps n ∨ m.state? n = some .queued ∧ Drained as n := by
  constructor
  · rintro (queued | running)
    · exact (h.left n queued).imp (fun hw => .inr (mem_waiting_iff.mp hw)) fun hd => ⟨queued, hd⟩
    · have busy := mem_busy_iff.mp ((h.placed.running_iff n).mp running)
      exact .inl (.inl (busy.resolve_right hn))
  · rintro ((occupies | queues) | ⟨queued, -⟩)
    · exact .inr (h.placed.running_of_occupies occupies)
    · exact .inl (h.placed.queued_of_queues queues)
    · exact .inl queued

/-- The end of the manager leaves those handles unfinished whose jobs it gives up with the queue,
and those whose jobs were handed back before. -/
lemma unfinished_drop_iff (h : Represented s as [] out m) (hn : n ∉ out) :
    (m.drop s).Unfinished n ↔ m.Queues n ∨ m.state? n = some .queued ∧ Drained as n := by
  have dropped := dropped_drop s m
  generalize m.drop s = m' at dropped
  cases dropped with
  | idle free =>
    have free : ¬m.Occupies n := by simp [Occupies, free]
    change m.Unfinished n ↔ _
    rw [h.unfinished_iff hn, Keeps, or_iff_right free]
  | @ended o e m₁ departed =>
    have finished := (h.depart departed).finish e
    obtain ⟨es, informed⟩ := informed_announceLast s (m₁.finish s o e).2 (m₁.finish s o e).1
    have running := h.placed.running departed.held
    have states : (m₁.finish s o e).2.state? =
        Function.update m.state? o.ticket.number (some (.finished e)) := by
      rw [← state?_congr departed.handles]
      exact state?_of_modify (by rw [state?_congr departed.handles, running]) rfl
    have free : ¬(m₁.finish s o e).2.Occupies n := by
      simp [Occupies, Manager.finish, enter, departed.slot]
    have queue : (m₁.finish s o e).2.Queues n ↔ m.Queues n := by
      simp [Queues, Manager.finish, enter, departed.queue]
    -- the job in the slot is not queued, neither before nor after
    have queued : (m₁.finish s o e).2.state? n = some .queued ↔ m.state? n = some .queued := by
      rw [states]
      rcases eq_or_ne n o.ticket.number with rfl | hne
      · simp [running]
      · rw [Function.update_of_ne hne]
    refine (unfinished_congr informed.handles).trans ?_
    rw [finished.unfinished_iff hn, Keeps, or_iff_right free, queue, queued]

end Represented

/-- The manager that has ended holds nothing. -/
lemma not_keeps_drop (s : Setup J E) (m : Manager J E) (n : Nat) : ¬(m.drop s).Keeps n := by
  have dropped := dropped_drop s m
  generalize m.drop s = m' at dropped
  cases dropped with
  | idle free => simp [Keeps, Occupies, Queues, free]
  | @ended o e m₁ departed =>
    obtain ⟨es, informed⟩ := informed_announceLast s (m₁.finish s o e).2 (m₁.finish s o e).1
    have free : ((m₁.finish s o e).2.announceLast s (m₁.finish s o e).1).slot = none :=
      informed.slot.trans departed.slot
    simp [Keeps, Occupies, Queues, free]

/-! ## What the manager has given up -/

/-- The submission is neither in the slot nor does it wait, and its handle is in the given state. -/
structure GivenUp (n : Nat) (st : JobState) (arriving : List (Waiting J)) (m : Manager J E) :
    Prop where
  free : ¬m.Occupies n
  absent : n ∉ m.waiting arriving
  state : m.state? n = some st

namespace GivenUp

variable {st : JobState} {arriving : List (Waiting J)}

lemma not_keeps (h : GivenUp n st [] m) : ¬m.Keeps n :=
  not_or.mpr ⟨h.free, fun queues => h.absent (mem_waiting_iff.mpr queues)⟩

lemma unfinished (h : GivenUp n st arriving m) (hst : st = .queued ∨ st = .running) :
    m.Unfinished n := by
  rcases hst with rfl | rfl
  · exact .inl h.state
  · exact .inr h.state

lemma ne_of_held (h : GivenUp n st arriving m) {o : Occupant J} (held : m.slot = some o) :
    n ≠ o.ticket.number := by
  rintro rfl
  exact h.free (by simp [Occupies, held])

lemma ne_of_mem (h : GivenUp n st arriving m) {w : Waiting J} (hw : w ∈ m.queue) :
    n ≠ w.ticket.number := by
  rintro rfl
  exact h.absent (List.mem_map_of_mem (List.mem_append_left _ hw))

/-- Another handle enters a state. -/
lemma state_of_modify (h : GivenUp n st arriving m) {k : Nat} {f : Handle → Handle} (ne : n ≠ k)
    (handles : m'.handles = m.handles.modify k f) : m'.state? n = some st := by
  rw [state?, handles, List.getElem?_modify_ne _ _ ne.symm]
  exact h.state

/-- Nothing new waits, and what comes to the slot waited or was there before. -/
lemma mono (h : GivenUp n st arriving m) (state : m'.state? n = some st)
    (queue : m'.queue ⊆ m.queue)
    (slot : ∀ o ∈ m'.slot, n ≠ o.ticket.number) : GivenUp n st arriving m' where
  free occupies := by
    obtain ⟨o, ho, same⟩ := Option.map_eq_some_iff.mp occupies
    exact slot o ho same.symm
  absent waits := by
    obtain ⟨w, hw, same⟩ := List.mem_map.mp waits
    refine h.absent (List.mem_map.mpr ⟨w, ?_, same⟩)
    exact List.mem_append.mpr ((List.mem_append.mp hw).imp_left (queue ·))
  state := state

lemma advance (h : GivenUp n st arriving m) {d : Option Transition} (step : Advance s m d m') :
    GivenUp n st arriving m' := by
  cases step with
  | rest es slot queue handles past told =>
    refine h.mono ((congrFun (state?_congr handles) n).trans h.state) (queue ▸ List.Subset.refl _) ?_
    intro o ho
    exact h.ne_of_held (slot ▸ ho)
  | @started w ws j k m' es free head slot queue handles past told =>
    have ne := h.ne_of_mem (w := w) (by simp [head])
    refine h.mono (h.state_of_modify ne handles) (by simp [head, queue]) ?_
    intro o ho
    obtain rfl := Option.some.inj (slot.symm.trans ho)
    exact ne
  | @startFailed w ws x reason k m' es free head slot queue handles past failed told =>
    have ne := h.ne_of_mem (w := w) (by simp [head])
    exact h.mono (h.state_of_modify ne handles) (by simp [head, queue]) (by simp [slot])
  | kept held next slot queue handles past attends =>
    refine h.mono ((congrFun (state?_congr handles) n).trans h.state) (queue ▸ List.Subset.refl _) ?_
    intro o ho
    have ne := h.ne_of_held held
    obtain rfl := Option.some.inj (slot.symm.trans ho)
    exact ne
  | released held slot queue handles past attends exited =>
    exact h.mono (h.state_of_modify (h.ne_of_held held) handles) (queue ▸ List.Subset.refl _)
      (by simp [slot])

lemma depart (h : GivenUp n st [] m) {o : Occupant J} {w : Option WaitOutcome} {e : Exit}
    (departed : Departed s m o w e m') : GivenUp n st [] m' :=
  h.mono ((congrFun (state?_congr departed.handles) n).trans h.state)
    (departed.queue ▸ List.Subset.refl _) (by simp [departed.slot])

lemma finish (h : GivenUp n st [] m) {o : Occupant J} {w : Option WaitOutcome} {e : Exit}
    (departed : Departed s m o w e m') : GivenUp n st [] (m'.finish s o e).2 :=
  (h.depart departed).mono
    ((h.depart departed).state_of_modify (h.ne_of_held departed.held) rfl) (List.Subset.refl _)
    fun _ ho => (h.depart departed).ne_of_held ho

end GivenUp

/-- What was given up stays so, and its handle in its state, whatever comes. -/
lemma lifelong_givenUp (s : Setup J E) (n : Nat) (st : JobState) :
    Lifelong s (GivenUp (E := E) n st) where
  lasting _ :=
    { happen := fun h _ => h.mono h.state (List.Subset.refl _) fun _ => h.ne_of_held
      advance := fun h step => h.advance step }
  pass h := h.mono h.state (List.Subset.refl _) fun _ => h.ne_of_held
  register := by
    intro m j h
    -- the new submission has a number of its own
    have ne : n ≠ (m.nextTicket s j).number := by
      rintro rfl
      have none : m.state? m.handles.length = none := state?_eq_none_iff.mpr le_rfl
      exact absurd (none.symm.trans h.state) (by simp)
    refine ⟨h.free, ?_, ?_⟩
    · have absent := h.absent
      simp only [waiting, List.append_nil] at absent
      simpa [waiting, Manager.register, ne] using absent
    · have states : (m.register s (m.nextTicket s j)).state? =
          Function.update m.state? m.handles.length (some .queued) :=
        state?_of_append (h := .fresh _ _ (m.now s)) rfl
      exact (congrFun states n).trans ((Function.update_of_ne ne ..).trans h.state)
  enqueue := by
    intro m w h
    exact ⟨h.free, by simpa [waiting, Manager.enqueue] using h.absent, h.state⟩
  depart h departed := h.depart departed
  finish h departed := h.finish departed
  drain h := h.mono h.state (by simp) fun _ => h.ne_of_held
  ends h departed := h.finish departed

/-! ## What stops give up -/

lemma Departed.mem_past {o : Occupant J} {w : Option WaitOutcome} {e : Exit}
    (departed : Departed s m o w e m') {x : Event} (h : x ∈ m.past) : x ∈ m'.past := by
  obtain ⟨told, es, remarks, past, -⟩ := departed.past
  exact past ▸ List.mem_append_right _ h

/-- What has happened stays in the history. -/
lemma lifelong_mem_past (s : Setup J E) (e : Event) :
    Lifelong s fun _ (m : Manager J E) => e ∈ m.past where
  lasting _ :=
    { happen := fun h _ => List.mem_cons_of_mem _ h
      advance := by
        intro m m' d h step
        obtain ⟨es, past, -⟩ := (lasting_proceeds s m).advance ⟨[], .refl m⟩ step
        exact past ▸ List.mem_append_right es h }
  pass h := h
  register _ h := List.mem_cons_of_mem _ h
  enqueue h := h
  depart h departed := departed.mem_past h
  finish h departed := List.mem_cons_of_mem _ (departed.mem_past h)
  ends h departed := List.mem_cons_of_mem _ (departed.mem_past h)
  drain h := h

lemma Forsaken.serve (h : m.Forsaken n) (r : Request J E) : (m.serve s r).2.Forsaken n := by
  obtain ⟨t, p, hp, ht⟩ := h
  exact ⟨t, p, (lifelong_mem_past s _).serve (P := fun _ m => _ ∈ m.past) hp r, ht⟩

/-- A locked section waits for no job. -/
lemma Advance.mem_past_of_wait {d : Option Transition} (step : Advance s m d m') {t : Ticket}
    {x : WaitOutcome} (h : .call t (.wait x) ∈ m'.past) : .call t (.wait x) ∈ m.past := by
  cases step with
  | rest es slot queue handles past told =>
    rw [past] at h
    exact (List.mem_append.mp h).resolve_left fun new => absurd (told _ new) id
  | started es free head slot queue handles past told =>
    simp only [past, List.cons_append, List.mem_cons, List.mem_append, reduceCtorEq, false_or,
      Event.call.injEq, and_false] at h
    exact h.resolve_left fun new => absurd (told _ new) id
  | startFailed es free head slot queue handles past failed told =>
    simp only [past, List.cons_append, List.mem_cons, List.mem_append, reduceCtorEq, false_or,
      Event.call.injEq, and_false] at h
    exact h.resolve_left fun new => absurd (told _ new) id
  | kept held next slot queue handles past attends =>
    rw [past] at h
    exact (List.mem_append.mp h).resolve_left fun new => absurd (attends _ new) id
  | released held slot queue handles past attends exited =>
    rw [past] at h
    simp only [List.cons_append, List.mem_cons, List.mem_append, reduceCtorEq, false_or] at h
    exact h.resolve_left fun new => absurd (attends _ new) id

/-- Every wait in the history is of a kind. -/
def Waits (kind : Ticket → WaitOutcome → Prop) (m : Manager J E) : Prop :=
  ∀ t x, .call t (.wait x) ∈ m.past → kind t x

lemma admitting_waits (s : Setup J E) (kind : Ticket → WaitOutcome → Prop) :
    Admitting s fun _ (m : Manager J E) => m.Waits kind where
  lasting _ :=
    { happen := fun {m e} h news t x hx => by
        refine h t x ((List.mem_cons.mp hx).resolve_left ?_)
        rintro rfl
        exact absurd news id
      advance := fun h step t x hx => h t x (step.mem_past_of_wait hx) }
  pass h := h
  register _ h t x hx := h t x ((List.mem_cons.mp hx).resolve_left (by simp))
  enqueue h := h

lemma Waits.forsaken {kind : Ticket → WaitOutcome → Prop} (h : m'.Waits kind)
    (kinds : ∀ t p, kind t (.panic p) → .call t (.wait (.panic p)) ∈ m.past)
    (forsaken : m'.Forsaken n) : m.Forsaken n := by
  obtain ⟨t, p, hp, ht⟩ := forsaken
  exact ⟨t, p, kinds t p (h t _ hp), ht⟩

/-- No request but a stop forsakes a submission. -/
lemma forsaken_of_serve {r : Request J E} (hr : r ≠ .stop)
    (h : (m.serve s r).2.Forsaken n) : m.Forsaken n :=
  Waits.forsaken ((admitting_waits s fun t x => .call t (.wait x) ∈ m.past).serve
    (fun _ _ hx => hx) hr) (fun _ _ hx => hx) h

/-- A stop that returns forsakes no submission. -/
lemma forsaken_of_stopped {r : Report J} (stopped : Stopped s m r m') (h : m'.Forsaken n) :
    m.Forsaken n := by
  let kind (t : Ticket) (x : WaitOutcome) : Prop :=
    .call t (.wait x) ∈ m.past ∨ ∀ p, x ≠ .panic p
  have kinds : ∀ t p, kind t (.panic p) → .call t (.wait (.panic p)) ∈ m.past :=
    fun t p hp => hp.resolve_right fun calm => calm p rfl
  have waits := admitting_waits (J := J) (E := E) s kind
  refine Waits.forsaken ?_ kinds h
  cases stopped with
  | idle free =>
    exact (waits.lasting []).happen (e := .noted _) (fun t x hx => .inl hx) trivial
  | @ended o e es x m₁ m₂ m₃ held signalled awaited noPanic announced last =>
    have before : m₂.Waits kind := by
      obtain ⟨told, past, remarks⟩ := awaited.past
      intro t y hy
      simp only [past, signalled.past, List.mem_append, List.mem_cons, Event.call.injEq,
        Exchange.wait.injEq] at hy
      rcases hy with hy | ⟨-, rfl⟩ | hy | hy
      · exact absurd (remarks _ hy) id
      · exact .inr noPanic
      · exact absurd (signalled.attends _ hy) id
      · exact .inl hy
    have finished : (m₂.finish s o e).2.Waits kind :=
      fun t y hy => before t y ((List.mem_cons.mp hy).resolve_left (by simp))
    have told := (waits.lasting []).announce finished (m₂.finish s o e).1
    rw [← announced] at told
    exact (waits.lasting []).happen (e := .noted _) (m := { m₃ with queue := [] }) told trivial

/-- Taking a job out of the slot forsakes its submission at most. -/
lemma Departed.forsaken {o : Occupant J} {w : Option WaitOutcome} {e : Exit}
    (departed : Departed s m o w e m') (h : m'.Forsaken n) :
    n = o.ticket.number ∨ m.Forsaken n := by
  obtain ⟨t, p, hp, rfl⟩ := h
  obtain ⟨told, es, remarks, past, last, hTold, hRemarks⟩ := departed.past
  simp only [past, List.mem_append] at hp
  rcases hp with (((hp | hp) | hp) | hp) | hp
  · exact absurd (hTold _ hp) id
  · obtain ⟨x, hx⟩ := eq_of_mem_waitCall hp
    exact .inl (congrArg Ticket.number (Event.call.inj hx).1)
  · exact absurd (last.attends _ hp) id
  · exact absurd (hRemarks _ hp) id
  · exact .inr ⟨t, p, hp, rfl⟩

/-- What is in the queue is given up when that is emptied. -/
lemma Placed.givenUp {out : List Nat} (placed : Placed m [] out) {w : Waiting J}
    (hw : w ∈ m.queue) : GivenUp w.ticket.number .queued [] { m with queue := [] } where
  free occupies := by
    have queued := placed.queued_of_queues (List.mem_map_of_mem hw)
    exact absurd ((placed.running_of_occupies occupies).symm.trans queued) (by simp)
  absent := by simp [waiting]
  state := placed.queued_of_queues (List.mem_map_of_mem hw)

/-- A stop that returns gives up what it hands back. -/
lemma givenUp_of_stopped {out : List Nat} (placed : Placed m [] out) {r : Report J}
    (halted : Halted s m (.ok r) m') {w : Waiting J} (hw : w ∈ r.drained) :
    GivenUp w.ticket.number .queued [] m' := by
  have lasting := (lifelong_givenUp (J := J) (E := E) s w.ticket.number .queued).lasting []
  cases halted with
  | idle free => exact lasting.happen (e := .noted _) (placed.givenUp hw) trivial
  | @ended o x e m₁ m₂ departed ends announced =>
    have told := ((admitting_placed s out).lasting []).announce
      (Placed.finish (s := s) (a := []) (departed.placed placed) e) (m₁.finish s o e).1
    rw [← announced] at told
    exact lasting.happen (e := .noted _) (told.givenUp hw) trivial

/-- A stop whose wait panics gives up the job in the slot. -/
lemma Departed.givenUp {out : List Nat} (placed : Placed m [] out) {o : Occupant J}
    {w : Option WaitOutcome} {e : Exit} (departed : Departed s m o w e m') :
    GivenUp o.ticket.number .running [] m' where
  free := by simp [Occupies, departed.slot]
  absent waits := by
    have queues : m.Queues o.ticket.number := by
      rw [Queues, ← departed.queue]
      exact mem_waiting_iff.mp waits
    exact absurd ((placed.queued_of_queues queues).symm.trans (placed.running departed.held))
      (by simp)
  state := (congrFun (state?_congr departed.handles) _).trans (placed.running departed.held)

/-- The slot, the queue and the handles fit together, and what was taken out of the slot for good is
forsaken. What was handed back or forsaken is given up. -/
structure Located (s : Setup J E) (as : List (Answer J)) (m : Manager J E) : Prop where
  represented : ∃ out, Represented s as [] out m ∧ ∀ n ∈ out, m.Forsaken n
  drained : ∀ n, Drained as n → GivenUp n .queued [] m
  forsaken : ∀ n, m.Forsaken n → GivenUp n .running [] m

namespace Located

variable {as : List (Answer J)}

/-- A stop that returns hands back what is queued. -/
lemma returned (limit : 0 < s.config.statusErrorLimit.toNat) (h : Located s as m) {r : Report J}
    (hs : m.stop s = (.ok r, m')) :
    Located s (as ++ [.report r]) m' := by
  have halted : Halted s m (.ok r) m' := by simpa only [hs] using halted_stop s m
  obtain ⟨out, represented, forsaken⟩ := h.represented
  have later (n : Nat) (st : JobState) (given : GivenUp n st [] m) : GivenUp n st [] m' := by
    have served := (lifelong_givenUp s n st).serve given .stop
    rwa [Manager.serve, hs] at served
  refine ⟨⟨out, ?_, ?_⟩, ?_, ?_⟩
  · cases halted with
    | idle free =>
      exact (represented.drain none).happen (e := .noted (.stopped none m.queue.length)) trivial
    | @ended o x e m₁ m₂ departed ends announced =>
      have finished := (represented.depart departed).finish e
      have told := (lasting_represented limit as [] out).announce finished (m₁.finish s o e).1
      rw [← announced] at told
      exact (told.drain (some o.ticket.id)).happen
        (e := .noted (.stopped (some o.ticket.id) m₂.queue.length)) trivial
  · intro n hn
    have served := (forsaken n hn).serve (s := s) .stop
    rwa [Manager.serve, hs] at served
  · rintro n ⟨r', hr, w, hw, rfl⟩
    rcases List.mem_append.mp hr with hr | hr
    · exact later _ _ (h.drained _ ⟨r', hr, w, hw, rfl⟩)
    · obtain rfl := Answer.report.inj (List.mem_singleton.mp hr)
      exact givenUp_of_stopped represented.placed halted hw
  · intro n hn
    exact later _ _ (h.forsaken n (forsaken_of_stopped (stopped_of_stop s hs) hn))

/-- A stop that panics takes the job out of the slot for good. -/
lemma panicked (h : Located s as m) {p : PanicPayload} (hs : m.stop s = (.error p, m')) :
    Located s as m' := by
  have halted : Halted s m (.error p) m' := by simpa only [hs] using halted_stop s m
  obtain ⟨out, represented, forsaken⟩ := h.represented
  cases halted with
  | @broken o e p m' departed panics =>
    have lost : m'.Forsaken o.ticket.number := by
      obtain ⟨told, es, remarks, past, -⟩ := departed.past
      exact ⟨o.ticket, p, by simp [past, waitCall], rfl⟩
    refine ⟨⟨o.ticket.number :: out, represented.depart departed, ?_⟩, ?_, ?_⟩
    · refine List.forall_mem_cons.mpr ⟨lost, fun n hn => ?_⟩
      obtain ⟨t, q, hq, ht⟩ := forsaken n hn
      exact ⟨t, q, departed.mem_past hq, ht⟩
    · exact fun n hn => (h.drained n hn).depart departed
    · intro n hn
      rcases departed.forsaken hn with rfl | before
      · exact departed.givenUp represented.placed
      · exact (h.forsaken n before).depart departed

/-- Only a stop answers with a report. -/
lemma eq_stop_of_report {r : Request J E} {x : Report J}
    (h : (m.serve s r).1 = .ok (.report x)) : r = .stop := by
  cases r with
  | stop => rfl
  | _ => simp [Manager.serve] at h

lemma serve (limit : 0 < s.config.statusErrorLimit.toNat) (h : Located s as m)
    (r : Request J E) :
    Located s (as ++ (m.serve s r).1.toOption.toList) (m.serve s r).2 := by
  by_cases hstop : r = .stop
  · subst hstop
    rcases hs : m.stop s with ⟨p | r, m'⟩
    · simpa [Manager.serve, hs, Except.map, Except.toOption] using h.panicked hs
    · simpa [Manager.serve, hs, Except.map, Except.toOption] using h.returned limit hs
  · obtain ⟨out, represented, forsaken⟩ := h.represented
    obtain ⟨a, ha⟩ := serve_completes s m hstop
    have served := (admitting_represented limit as out).serve represented hstop
    rw [ha]
    refine ⟨⟨out, served.answer a, fun n hn => (forsaken n hn).serve r⟩, ?_, ?_⟩
    · rintro n ⟨r', hr, hw⟩
      have before : .report r' ∈ as := by
        refine (List.mem_append.mp hr).resolve_right fun new => hstop ?_
        obtain rfl := List.mem_singleton.mp new
        exact eq_stop_of_report ha
      exact (lifelong_givenUp s n .queued).serve (h.drained n ⟨r', before, hw⟩) r
    · intro n hn
      exact (lifelong_givenUp s n .running).serve (h.forsaken n (forsaken_of_serve hstop hn)) r

end Located

/-- The answers that came back, without the panics. -/
def replies (s : Setup J E) (m : Manager J E) (rs : List (Request J E)) : List (Answer J) :=
  (answers s m rs).filterMap Except.toOption

theorem located_after (valid : s.config.fault? = none) (env : E) (rs : List (Request J E)) :
    Located s (replies s (.fresh env) rs) (after s (.fresh env) rs) := by
  have limit := Config.statusErrorLimit_pos valid
  induction rs using List.reverseRecOn with
  | nil =>
    refine ⟨⟨[], represented_fresh s env, by simp⟩, ?_, ?_⟩
    · rintro n ⟨r, hr, -⟩
      simp [replies, answers] at hr
    · rintro n ⟨t, p, hp, -⟩
      simp [after, fresh] at hp
  | append_singleton rs r ih =>
    have served := ih.serve limit r
    rw [after_append, replies, answers_append, List.filterMap_append]
    have last : (answers s (after s (.fresh env) rs) [r]).filterMap Except.toOption =
        ((after s (.fresh env) rs).serve s r).1.toOption.toList := by
      cases h : ((after s (.fresh env) rs).serve s r).1 <;> simp [answers, h, Except.toOption]
    rw [last]
    exact served

/-! ## What becomes of the handles -/

/-- The handle shows the last state that it has entered. -/
lemma Chronicled.state?_eq_getLast? (h : Chronicled [] m) (hn : n < m.handles.length) :
    m.state? n = (m.course n).getLast? := by
  obtain ⟨t, rfl, x, hx, life⟩ := h.lives n hn
  rw [(truthful_of_life life).state, state?, hx, Option.map_some]

/-- A stop has handed the job of the submission back, or its wait for the job has panicked. -/
def Forgotten (as : List (Answer J)) (m : Manager J E) (n : Nat) : Prop :=
  Drained as n ∨ m.Forsaken n

namespace Located

variable {as : List (Answer J)} (h : Located s as m)

include h

/-- What is forgotten is given up, with a handle that has not finished. -/
lemma givenUp (forgotten : Forgotten as m n) :
    ∃ st, GivenUp n st [] m ∧ (st = .queued ∨ st = .running) := by
  rcases forgotten with drained | forsaken
  · exact ⟨.queued, h.drained n drained, .inl rfl⟩
  · exact ⟨.running, h.forsaken n forsaken, .inr rfl⟩

lemma unfinished_iff : m.Unfinished n ↔ m.Keeps n ∨ Forgotten as m n := by
  obtain ⟨out, represented, lost⟩ := h.represented
  constructor
  · intro unfinished
    by_cases hn : n ∈ out
    · exact .inr (.inr (lost n hn))
    · exact ((represented.unfinished_iff hn).mp unfinished).imp_right fun drained => .inl drained.2
  · rintro (keeps | forgotten)
    · exact (represented.unfinished_iff (represented.placed.notMem_out keeps)).mpr (.inl keeps)
    · obtain ⟨st, given, hst⟩ := h.givenUp forgotten
      exact given.unfinished hst

lemma unfinished_drop_iff : (m.drop s).Unfinished n ↔ m.Queues n ∨ Forgotten as m n := by
  obtain ⟨out, represented, lost⟩ := h.represented
  constructor
  · intro unfinished
    by_cases hn : n ∈ out
    · exact .inr (.inr (lost n hn))
    · exact ((represented.unfinished_drop_iff hn).mp unfinished).imp_right
        fun drained => .inl drained.2
  · rintro (queues | forgotten)
    · have hn := represented.placed.notMem_out (.inr queues)
      exact (represented.unfinished_drop_iff hn).mpr (.inl queues)
    · obtain ⟨st, given, hst⟩ := h.givenUp forgotten
      exact ((lifelong_givenUp s n st).drop given).unfinished hst

end Located

/-- After any requests the unfinished handles are those of the jobs in the slot and in the queue,
and the forgotten ones, which are others. So each of them is of a job that the manager holds exactly
if none was forgotten, that is if no stop has handed a job back and no wait of a stop has panicked.
If the manager ends then those of the jobs in the queue stay unfinished as well, and it holds nothing
any more. A forgotten handle stays as it is whatever comes. What is in the slot or in the queue is
finished as the loop goes on, unless some job never leaves the slot. Whatever requests follow, and
whether the manager ends after them, a handle shows the last transition of its submission, and those
before stay as they were. -/
theorem unfinished_iff_kept {s : Setup J E} (valid : s.config.fault? = none) (env : E)
    (rs : List (Request J E)) :
    let m := after s (.fresh env) rs
    let as := replies s (.fresh env) rs
    (∀ n, (m.Unfinished n ↔ m.Keeps n ∨ Forgotten as m n) ∧ ¬(m.Keeps n ∧ Forgotten as m n)) ∧
      ((∀ n, m.Unfinished n → m.Keeps n) ↔ ∀ n, ¬Forgotten as m n) ∧
      (∀ n, ((m.drop s).Unfinished n ↔ m.Queues n ∨ Forgotten as m n) ∧ ¬(m.drop s).Keeps n) ∧
      (∀ n, (Drained as n → m.state? n = some .queued) ∧
        (Forgotten as m n → ∀ rs' m', Reached s m rs' m' → m'.state? n = m.state? n)) ∧
      (∀ n, m.Keeps n → ∀ rs', Upkeep rs' →
        (∃ k e, (m.along s rs' k).state? n = some (.finished e)) ∨
          ∃ b k, ∀ j ≥ k, (m.along s rs' j).Occupies b) ∧
      ∀ rs' m', Reached s m rs' m' → ∀ n < m.handles.length,
        m.course n <+: m'.course n ∧ m'.state? n = (m'.course n).getLast? := by
  intro m as
  have located : Located s as m := located_after valid env rs
  obtain ⟨out, represented, -⟩ := located.represented
  have apart : ∀ n, ¬(m.Keeps n ∧ Forgotten as m n) := by
    rintro n ⟨keeps, forgotten⟩
    obtain ⟨st, given, -⟩ := located.givenUp forgotten
    exact given.not_keeps keeps
  refine ⟨fun n => ⟨located.unfinished_iff, apart n⟩, ?_,
    fun n => ⟨located.unfinished_drop_iff, not_keeps_drop s m n⟩, ?_,
    fun n keeps rs' => kept_resolves s represented.placed keeps, ?_⟩
  · constructor
    · intro kept n forgotten
      exact apart n ⟨kept n (located.unfinished_iff.mpr (.inr forgotten)), forgotten⟩
    · intro none n unfinished
      exact (located.unfinished_iff.mp unfinished).resolve_right (none n)
  · intro n
    refine ⟨fun drained => (located.drained n drained).state, ?_⟩
    intro forgotten rs' m' reached
    obtain ⟨st, given, -⟩ := located.givenUp forgotten
    exact ((lifelong_givenUp s n st).reached given reached).state.trans given.state.symm
  · intro rs' m' reached n hn
    have now : Chronicled [] m := (lifelong_chronicled s).after (.fresh env) rs
    have later : Chronicled [] m' := (lifelong_chronicled s).reached now reached
    have grown := (lifelong_transitions s m).reached (List.prefix_refl _) reached
    have there := now.lt_of_isPrefix later grown hn
    exact ⟨(grown.filter _).map _, later.state?_eq_getLast? there⟩

/-- A stop hands the queued job back, the same job is put again and started, and a second one is put
behind it. -/
def handover : List (Request Worker Host) :=
  [.submit (.endless 1), .stop, .submit (.endless 1), .work, .submit (.endless 2)]

lemma places_handover :
    (after .bare (.fresh {}) handover).slot.map (·.ticket.number) = some 1 ∧
      (after .bare (.fresh {}) handover).queue.map (·.ticket.number) = [2] ∧
      (after .bare (.fresh {}) handover).handles.map (fun h => (h.id, h.state)) =
        [(.ofNat 1, .queued), (.ofNat 1, .running), (.ofNat 2, .queued)] := by
  refine ⟨?_, ?_, ?_⟩ <;> exact of_decide_eq_true (by cbv)

/-- After `handover` the first handle is queued, and the manager holds the jobs of the others. -/
lemma keeps_handover : (after .bare (.fresh {}) handover).state? 0 = some .queued ∧
    ∀ n, (after .bare (.fresh {}) handover).Keeps n ↔ n = 1 ∨ n = 2 := by
  obtain ⟨slot, queue, handles⟩ := places_handover
  generalize after .bare (.fresh {}) handover = m at slot queue handles ⊢
  constructor
  · have first := congrArg (·[0]?) handles
    simp only [List.getElem?_map] at first
    obtain ⟨h, hh, state⟩ := Option.map_eq_some_iff.mp first
    rw [state?, hh, Option.map_some, (Prod.mk.inj state).2]
  · intro n
    rw [Keeps, Occupies, Queues, slot, queue, Option.some.injEq, List.mem_singleton, eq_comm]

/-- After `handover` the first handle is forgotten, and the manager holds the jobs of the other two,
which finish as the loop goes on in any surroundings, unless a job never leaves the slot. -/
theorem unfinished_iff_kept_handover : Setup.bare.config.fault? = none ∧
    Forgotten (replies .bare (.fresh {}) handover) (after .bare (.fresh {}) handover) 0 ∧
      (∀ n ∈ [1, 2], ∀ envs : Nat → Host,
        let rs (k : Nat) : Request Worker Host := if k % 2 = 0 then .pass (envs k) else .work
        (∃ k e, ((after .bare (.fresh {}) handover).along .bare rs k).state? n =
            some (.finished e)) ∨
          ∃ b k, ∀ j ≥ k, ((after .bare (.fresh {}) handover).along .bare rs j).Occupies b) ∧
      ((after .bare (.fresh {}) handover).drop .bare).Unfinished 2 := by
  have valid : Setup.bare.config.fault? = none := by decide
  obtain ⟨first, keeps⟩ := keeps_handover
  have third : (after .bare (.fresh {}) handover).Queues 2 := by
    rw [Queues, places_handover.2.1]
    exact List.mem_singleton_self 2
  obtain ⟨unfinished, -, dropped, -, resolves, -⟩ := unfinished_iff_kept valid {} handover
  refine ⟨valid, ?_, ?_, (dropped 2).1.mpr (.inl third)⟩
  · exact ((unfinished 0).1.mp (.inl first)).resolve_left (by simp [keeps])
  · intro n hn envs rs
    refine resolves n ((keeps n).mpr (by simpa using hn)) rs ⟨?_, ?_⟩
    · intro k
      by_cases even : k % 2 = 0 <;> simp [rs, even, Request.IsUpkeep]
    · intro k
      refine ⟨2 * k + 1, by omega, ?_⟩
      have odd : (2 * k + 1) % 2 ≠ 0 := by omega
      simp [rs, Request.IsIteration]

/-- All requests of `handover` complete. After it the first handle is unfinished, and the manager
does not hold its submission; the same job runs, as only the second handle shows. After the end of
the manager the third handle is unfinished as well, and nothing is held any more. -/
theorem unkept_after_handover :
    (answers .bare (.fresh {}) handover).all (·.isOk) = true ∧
      (¬∀ n, (after .bare (.fresh {}) handover).Unfinished n →
        (after .bare (.fresh {}) handover).Keeps n) ∧
      (after .bare (.fresh {}) handover).handles.map (fun h => (h.id, h.state)) =
        [(.ofNat 1, .queued), (.ofNat 1, .running), (.ofNat 2, .queued)] ∧
      ((after .bare (.fresh {}) handover).drop .bare).Unfinished 2 ∧
        ∀ n, ¬((after .bare (.fresh {}) handover).drop .bare).Keeps n := by
  obtain ⟨first, keeps⟩ := keeps_handover
  have third : ((after .bare (.fresh {}) handover).drop .bare).state? 2 = some .queued :=
    of_decide_eq_true (by cbv)
  have empty : ((after .bare (.fresh {}) handover).drop .bare).slot.map (·.ticket.number) = none ∧
      ((after .bare (.fresh {}) handover).drop .bare).queue.map (·.ticket.number) = [] := by
    constructor <;> exact of_decide_eq_true (by cbv)
  refine ⟨by cbv, ?_, places_handover.2.2, .inl third, ?_⟩
  · intro kept
    simpa [keeps] using kept 0 (.inl first)
  · intro n
    rw [Keeps, Occupies, Queues, empty.1, empty.2]
    simp

end Manager
end SerialJobs
