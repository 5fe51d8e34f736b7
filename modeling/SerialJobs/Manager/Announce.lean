import SerialJobs.Manager.Load

/-!
# Announcements

A transition is announced to the sink first and to the audit log last. The sink may call the
manager back in between, and the transitions that come of this are announced before the sink goes
on. What is still to be done, across all sinks that have not returned yet, is one list of errands.

Errands end: each transition lowers the load of the manager, and an errand without a transition
makes the list shorter.
-/

namespace SerialJobs

/-- Something still to be done for an announcement. -/
inductive Errand
  /-- A call from the sink. -/
  | act (a : Act)
  /-- The sink's iteration of the loop gives this answer. -/
  | worked (k : Tick)
  /-- The sink's kill gives this answer. -/
  | killed (delivered : Bool)
  /-- The sink panics. -/
  | panicked (r : Record) (p : PanicPayload)
  /-- The audit log is told. -/
  | report (t : Transition)
deriving DecidableEq

namespace Manager

variable {J E : Type}

/-- The audit event of a transition. -/
def auditEvent (s : Setup J E) (m : Manager J E) (t : Transition) : AuditEvent :=
  .entered (.entered (.ofNanos (m.now s)) t.ticket.id t.ticket.label t.state t.runtime)

/-- Tells the sink of a transition; the errands are what is left of the announcement then. -/
def tell (s : Setup J E) (m : Manager J E) (t : Transition) : List Errand × Manager J E :=
  match s.sink with
  | none => ([.report t], m)
  | some sink =>
    let reaction := sink.react m.records t.record
    (reaction.acts.map .act ++ (reaction.panic.map (.panicked t.record)).toList ++ [.report t],
      m.happen (.recorded t.record (some m.view)))

/-- The errands after a locked section that the sink asked for: the announcement of its
transition, if there is one, then the answer. -/
def follow {α : Type} (s : Setup J E) (r : Section J E α) (answer : Errand) :
    List Errand × Manager J E :=
  match r.due with
  | none => ([answer], r.manager)
  | some t =>
    let (es, m) := r.manager.tell s t
    (es ++ [answer], m)

@[simp] theorem load_happen (m : Manager J E) (e : Event) : (m.happen e).load = m.load := rfl

@[simp] theorem load_tell (s : Setup J E) (m : Manager J E) (t : Transition) :
    (m.tell s t).2.load = m.load := by
  unfold tell
  split <;> rfl

/-- After a section that the sink asked for, there is less to do. -/
theorem follow_lt {α : Type} (s : Setup J E) {m : Manager J E} {r : Section J E α}
    (h : m.Lowers r) (answer : Errand) :
    (follow s r answer).2.load < m.load ∨
      ((follow s r answer).2.load = m.load ∧ (follow s r answer).1 = [answer]) := by
  unfold Lowers at h
  unfold follow
  cases hd : r.due <;> simp_all

/-- A call from the sink: its locked section, and the errands that it leaves. -/
def perform (s : Setup J E) (m : Manager J E) : Act → List Errand × Manager J E
  | .work =>
    let r := m.tickSection s
    follow s r (.worked r.answer)
  | .kill id c =>
    let r := m.killSection s id c
    follow s r (.killed r.answer)

/-- How much there is to do: a call counts twice, since its answer is still to come. -/
def effort : List Errand → Nat
  | [] => 0
  | .act _ :: es => effort es + 2
  | _ :: es => effort es + 1

/-- A call lowers the load, or leaves less to do. -/
theorem perform_lt (s : Setup J E) (m : Manager J E) (a : Act) (es : List Errand) :
    (m.perform s a).2.load < m.load ∨
      ((m.perform s a).2.load = m.load ∧
        effort ((m.perform s a).1 ++ es) < effort (.act a :: es)) := by
  cases a with
  | work =>
    refine (follow_lt s (lowers_tickSection m s) _).imp_right fun h => ⟨h.1, ?_⟩
    simp [perform, h.2, effort]
  | kill id c =>
    refine (follow_lt s (lowers_killSection m s id c) _).imp_right fun h => ⟨h.1, ?_⟩
    simp [perform, h.2, effort]

/-- An errand other than a call. -/
def discharge (s : Setup J E) (m : Manager J E) : Errand → Manager J E
  | .act _ => m
  | .worked k => m.happen (.sinkWorked k)
  | .killed b => m.happen (.sinkKilled b)
  | .panicked r p => m.note (.sinkPanicked r.id r.state p)
  | .report t => m.audit (m.auditEvent s t)

@[simp] theorem load_discharge (s : Setup J E) (m : Manager J E) (e : Errand) :
    (m.discharge s e).load = m.load := by
  cases e <;> rfl

/-- Does all errands, those that come of them first. -/
def run (s : Setup J E) : List Errand → Manager J E → Manager J E
  | [], m => m
  | .act a :: es, m => run s ((m.perform s a).1 ++ es) (m.perform s a).2
  | e :: es, m => run s es (m.discharge s e)
termination_by es m => (m.load, effort es)
decreasing_by
  · have h := perform_lt s m a es
    simp only [Prod.lex_def]
    omega
  · simp only [Prod.lex_def, load_discharge]
    right
    cases e <;> simp [effort]

/-- Announces a transition to the sink and to the audit log. -/
def announce (s : Setup J E) (m : Manager J E) (t : Transition) : Manager J E :=
  run s (m.tell s t).1 (m.tell s t).2

/-- Announces the transition that a section has left, if any. -/
def announceDue {α : Type} (s : Setup J E) (r : Section J E α) : Manager J E :=
  match r.due with
  | none => r.manager
  | some t => r.manager.announce s t

end Manager
end SerialJobs
