import SerialJobs.Manager.Section

/-!
# What a section changes

The load of a manager counts the transitions it may still make without a new submission: two for
every queued job and one for the job in the slot. A locked section that leaves a transition to
announce lowers the load, and one that leaves none keeps it; so a sink that calls the manager back
cannot go on forever.
-/

namespace SerialJobs
namespace Manager

variable {J E : Type}

/-- The transitions that the jobs in the slot and in the queue may still make. -/
def load (m : Manager J E) : Nat := 2 * m.queue.length + m.slot.toList.length

section Frame

variable (m : Manager J E)

@[simp] theorem slot_happen (e : Event) : (m.happen e).slot = m.slot := rfl
@[simp] theorem queue_happen (e : Event) : (m.happen e).queue = m.queue := rfl
@[simp] theorem slot_audit (e : AuditEvent) : (m.audit e).slot = m.slot := rfl
@[simp] theorem queue_audit (e : AuditEvent) : (m.audit e).queue = m.queue := rfl
@[simp] theorem slot_note (d : Diagnostic) : (m.note d).slot = m.slot := rfl
@[simp] theorem queue_note (d : Diagnostic) : (m.note d).queue = m.queue := rfl
@[simp] theorem slot_enter (n : Nat) (t : Transition) : (m.enter n t).slot = m.slot := rfl
@[simp] theorem queue_enter (n : Nat) (t : Transition) : (m.enter n t).queue = m.queue := rfl
@[simp] theorem slot_keep (o : Occupant J) : (m.keep o).slot = some o := rfl
@[simp] theorem queue_keep (o : Occupant J) : (m.keep o).queue = m.queue := rfl

variable (s : Setup J E) (t : Ticket) (j : J)

@[simp] theorem queue_callStart : (m.callStart s t j).manager.queue = m.queue := rfl
@[simp] theorem slot_callStart : (m.callStart s t j).manager.slot = m.slot := rfl
@[simp] theorem queue_callTryExit : (m.callTryExit s t j).manager.queue = m.queue := rfl
@[simp] theorem slot_callTryExit : (m.callTryExit s t j).manager.slot = m.slot := rfl
@[simp] theorem queue_callTerminate (c : KillCommand) :
    (m.callTerminate s t c j).manager.queue = m.queue := rfl
@[simp] theorem slot_callTerminate (c : KillCommand) :
    (m.callTerminate s t c j).manager.slot = m.slot := rfl

variable (o : Occupant J)

@[simp] theorem queue_release (e : Exit) : (m.release s o e).2.queue = m.queue := rfl
@[simp] theorem slot_release (e : Exit) : (m.release s o e).2.slot = none := rfl

@[simp] theorem queue_confirmExit : (m.confirmExit s o).2.queue = m.queue := by
  unfold confirmExit
  dsimp only
  split <;> rfl

@[simp] theorem queue_pursue (p : PendingStop) : (m.pursue s o p).2.queue = m.queue := by
  unfold pursue
  dsimp only
  split
  · simp
  · split <;> simp

@[simp] theorem queue_check : (m.check s o).2.2.queue = m.queue := by
  unfold check
  dsimp only
  split
  · rfl
  · rfl
  · split <;> rfl

@[simp] theorem queue_pursueStop (p : PendingStop) :
    (m.pursueStop s o p).2.queue = m.queue := by
  have h := queue_pursue m s o p
  unfold pursueStop
  split <;> simp_all

/-- The job keeps the slot exactly when its termination leaves no transition. -/
theorem slot_pursueStop (p : PendingStop) :
    (m.pursueStop s o p).2.slot.isSome = (m.pursueStop s o p).1.isNone := by
  unfold pursueStop
  split <;> simp

end Frame

/-- A section that leaves a transition lowers the load, and one that leaves none keeps it. -/
def Lowers {α : Type} (m : Manager J E) (r : Section J E α) : Prop :=
  if r.due.isSome then r.manager.load < m.load else r.manager.load = m.load

variable (m : Manager J E) (s : Setup J E)

/-- What a job in the slot does to the load, by what is left of it. -/
theorem lowers_of_slot {α : Type} {r : Section J E α} {o : Occupant J} (hm : m.slot = some o)
    (hq : r.manager.queue = m.queue) (hs : r.manager.slot.isSome = r.due.isNone) :
    m.Lowers r := by
  unfold Lowers load
  rw [hq, hm]
  cases hd : r.due <;> cases hr : r.manager.slot <;> simp_all

theorem lowers_startHead (w : Waiting J) (ws : List (Waiting J)) (hm : m.slot = none)
    (hq : m.queue = w :: ws) : m.Lowers ({ m with queue := ws }.startHead s w) := by
  unfold startHead
  dsimp only
  split
  · simp [Lowers, load, hm, hq]
    omega
  · simp [Lowers, load, hm, hq]

theorem lowers_superviseRunning {o : Occupant J} (hm : m.slot = some o) :
    m.Lowers (m.superviseRunning s o) := by
  have hq := queue_check m s o
  apply lowers_of_slot m hm
  · unfold superviseRunning
    dsimp only
    split <;> simp_all
  · unfold superviseRunning
    dsimp only
    split <;> simp [slot_pursueStop]

theorem lowers_supervise {o : Occupant J} (hm : m.slot = some o) :
    m.Lowers (m.supervise s o) := by
  unfold supervise
  split
  · exact lowers_superviseRunning m s hm
  · exact lowers_of_slot m hm (by simp) (by simp [slot_pursueStop])

/-- The load and one iteration of the scheduling loop. -/
theorem lowers_tickSection : m.Lowers (m.tickSection s) := by
  unfold tickSection
  split
  · exact lowers_supervise m s ‹_›
  · split
    · simp [Lowers]
    · exact lowers_startHead m s _ _ ‹_› ‹_›

theorem lowers_killOccupant {o : Occupant J} (c : KillCommand) (hm : m.slot = some o) :
    m.Lowers (m.killOccupant s o c) := by
  have hq := queue_pursue m s o (o.stop.getD ⟨c, .killed c, false⟩)
  apply lowers_of_slot m hm
  · unfold killOccupant
    dsimp only
    split <;> simp_all
  · unfold killOccupant
    dsimp only
    split <;> simp

/-- The load and a kill. -/
theorem lowers_killSection (id : JobId) (c : KillCommand) : m.Lowers (m.killSection s id c) := by
  unfold killSection
  split
  · split
    · exact lowers_killOccupant m s c ‹_›
    · simp [Lowers, load]
  · simp [Lowers, load]

end Manager
end SerialJobs
