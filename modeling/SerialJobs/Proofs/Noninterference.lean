import SerialJobs.Proofs.Observation
import SerialJobs.Worker

/-!
# A sink that does not call back changes nothing

The sink is told of every transition in the middle of a request, and it may panic there. Whether
there is one, what it is told and whether it panics makes no difference to the callers, as long as
it does not call the manager back: a manager with a sink does the same as the manager without it,
step by step, but for the events of the sink's own.

The manager without a sink is the manager as an observer sees it who overlooks those events
(`Event.ofSink`). The jobs are the same, so that nothing is to be shown but that an announcement
tells the audit log the same, after nothing but events of the sink (`Manager.announce_eq_audit`).
-/

namespace SerialJobs

variable {J E : Type}

/-- The sink was told, called the manager back or panicked. -/
def Event.ofSink : Event → Bool
  | recorded .. | sinkWorked _ | sinkKilled _ | noted (.sinkPanicked ..) => true
  | _ => false

/-- An observer who overlooks the events of the sink. -/
def Event.unlessOfSink (e : Event) : Option Event := if e.ofSink then none else some e

lemma Event.audit?_unlessOfSink (e : Event) : e.unlessOfSink.bind audit? = e.audit? := by
  cases e with
  | noted d => cases d <;> rfl
  | _ => rfl

/-- The same manager, without a sink. -/
def Setup.muted (s : Setup J E) : Setup J E := { s with sink := none }

lemma Setup.passive_muted (s : Setup J E) : s.muted.Passive := by
  simp [Setup.Passive, muted]

/-- To this observer the calls are what they are. -/
lemma Setup.observed_muted (s : Setup J E) : Observed Event.unlessOfSink s s.muted where
  config := rfl
  ids := rfl
  labels := rfl
  now := rfl
  moment := rfl
  start _ _ := ⟨rfl, rfl, rfl, fun _ => rfl⟩
  tryExit _ _ := ⟨rfl, rfl, rfl, fun _ => rfl⟩
  terminate _ _ _ := ⟨rfl, rfl, rfl, fun _ => rfl⟩
  wait := rfl
  waited _ _ := rfl
  moved _ := rfl
  audited _ := rfl
  noted d hd := by
    cases d with
    | sinkPanicked i x p => exact absurd rfl (hd i x p)
    | _ => rfl

namespace Manager

variable {s : Setup J E} (m : Manager J E)

lemma happen_overlooked {e : Event} (h : e.ofSink = true) :
    (m.happen e).seen Event.unlessOfSink = m.seen Event.unlessOfSink := by
  simp [happen, seen, Event.unlessOfSink, h]

lemma audits_seen : (m.seen Event.unlessOfSink).audits = m.audits := by
  rw [audits, history_seen, List.filterMap_filterMap]
  exact List.filterMap_congr fun e _ => e.audit?_unlessOfSink

lemma history_overlooked :
    (m.seen Event.unlessOfSink).history = m.history.filter (!·.ofSink) := by
  rw [history_seen, ← List.filterMap_eq_filter]
  refine List.filterMap_congr fun e _ => ?_
  cases h : e.ofSink <;> simp [Event.unlessOfSink, Option.guard, h]

/-- With a sink that does not call back, the audit log is told after nothing but events of the
sink. -/
lemma announce_eq_audit (passive : s.Passive) (t : Transition) :
    ∃ m' : Manager J E, m'.seen Event.unlessOfSink = m.seen Event.unlessOfSink ∧
      m.announce s t = m'.audit (m'.auditEvent s t) := by
  rw [announce_eq_publish passive]
  rcases hk : s.sink with _ | k
  · exact ⟨m, rfl, by simp only [publish, tell, hk]; rfl⟩
  · have calls := passive k hk m.records t.record
    have told := m.happen_overlooked (e := .recorded t.record (some m.view)) rfl
    rcases hp : (k.react m.records t.record).panic with _ | p
    · exact ⟨_, told, by simp [publish, tell, hk, calls, hp, discharge]⟩
    · exact ⟨_, (happen_overlooked _ (e := .noted (.sinkPanicked ..)) rfl).trans told,
        by simp only [publish, tell, hk, calls, hp]; rfl⟩

lemma announceLast_eq_audit (t : Transition) :
    ∃ m' : Manager J E, m'.seen Event.unlessOfSink = m.seen Event.unlessOfSink ∧
      m.announceLast s t = m'.audit (m'.auditEvent s t) := by
  rcases hk : s.sink with _ | k
  · exact ⟨m, rfl, by simp only [announceLast, hk]⟩
  · have told := m.happen_overlooked (e := .recorded t.record none) rfl
    rcases hp : (k.react m.records t.record).panic with _ | p
    · exact ⟨_, told, by simp only [announceLast, hk, hp]⟩
    · exact ⟨_, (happen_overlooked _ (e := .noted (.sinkPanicked ..)) rfl).trans told,
        by simp only [announceLast, hk, hp]; rfl⟩

lemma audit_muted {m m' : Manager J E}
    (same : m'.seen Event.unlessOfSink = m.seen Event.unlessOfSink) (t : Transition) :
    (m.seen Event.unlessOfSink).audit ((m.seen Event.unlessOfSink).auditEvent s.muted t) =
      (m'.audit (m'.auditEvent s t)).seen Event.unlessOfSink := by
  rw [← same, s.observed_muted.auditEvent_seen, s.observed_muted.audit_seen]

lemma unnoticed_muted (passive : s.Passive) : Unnoticed Event.unlessOfSink s s.muted where
  toObserved := s.observed_muted
  announce m t := by
    obtain ⟨m', same, announced⟩ := m.announce_eq_audit passive t
    rw [announced, ← audit_muted same, announce_eq_publish s.passive_muted]
    rfl
  announceLast m t := by
    obtain ⟨m', same, announced⟩ := m.announceLast_eq_audit t
    rw [announced, ← audit_muted same]
    rfl

/-- What is to be seen of the two managers is the same, and so is their history except that the
events of the sink are missing in that of `m'`. -/
structure Unaffected (m m' : Manager J E) : Prop where
  env : m'.env = m.env
  slot : m'.slot = m.slot
  queue : m'.queue = m.queue
  handles : m'.handles = m.handles
  audits : m'.audits = m.audits
  history : m'.history = m.history.filter (!·.ofSink)

lemma unaffected_seen : Unaffected m (m.seen Event.unlessOfSink) :=
  ⟨rfl, rfl, rfl, rfl, m.audits_seen, m.history_overlooked⟩

/-- Noninterference. A manager with a sink that does not call back, whether it keeps records, keeps
quiet or panics, and the same manager without a sink cannot be told apart by their callers: after
any requests, which have got the same answers, their slots, queues, handles and audit logs are the
same, and also after their end. All that differs is in the sink's own events. -/
theorem sink_noninterference (passive : s.Passive) (env : E) (rs : List (Request J E)) :
    let m := after s (.fresh env) rs
    let m' := after s.muted (.fresh env) rs
    answers s.muted (.fresh env) rs = answers s (.fresh env) rs ∧ Unaffected m m' ∧
      Unaffected (m.drop s) (m'.drop s.muted) := by
  have unnoticed := unnoticed_muted passive
  have muted : after s.muted (.fresh env) rs =
      (after s (.fresh env) rs).seen Event.unlessOfSink := unnoticed.after_seen (.fresh env) rs
  refine ⟨unnoticed.answers_seen (.fresh env) rs, ?_, ?_⟩
  · rw [muted]
    exact unaffected_seen _
  · rw [muted, unnoticed.drop_seen]
    exact unaffected_seen _

/-- Workers, and a sink that panics whenever it is told something. -/
def alarmed : Setup Worker Host :=
  { Setup.bare with sink := some ⟨fun _ _ => ⟨[], some (.text "sink full")⟩⟩ }

/-- Two jobs run one after the other, the first of which is killed; a stop ends the second one and
hands a third one back, which is submitted once more. -/
def shift : List (Request Worker Host) :=
  [.submit (.reporting 1 (.always (.ok (some .completed)))), .submit (.endless 2),
    .submit (.endless 3), .work, .kill (.ofNat 1) .cancel, .work, .stop, .submit (.endless 3),
    .work]

/-- The sink is told ten times in `shift` and at the end of the manager, and panics each time. -/
theorem sink_noninterference_shift : alarmed.Passive ∧
    let m := after alarmed (.fresh {}) shift
    let m' := after alarmed.muted (.fresh {}) shift
    ((m.drop alarmed).history.countP (·.ofSink) = 20 ∧
      (m'.drop alarmed.muted).history.countP (·.ofSink) = 0) ∧
        answers alarmed.muted (.fresh {}) shift = answers alarmed (.fresh {}) shift ∧
          Unaffected m m' ∧ Unaffected (m.drop alarmed) (m'.drop alarmed.muted) := by
  have passive : alarmed.Passive := by
    rintro k ⟨⟩ past r
    rfl
  refine ⟨passive, ⟨?_, ?_⟩, sink_noninterference passive {} shift⟩ <;>
    exact of_decide_eq_true (by cbv)

end Manager
end SerialJobs
