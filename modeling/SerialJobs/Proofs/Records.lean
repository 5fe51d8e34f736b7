import SerialJobs.Proofs.Shutdown

/-!
# What is told of the states that handles enter

A handle that enters a state is told of to the sink, if there is one, and to the audit log, when
that transition is announced and at no other time. `Adds` says which transitions were made and which
were told from one moment to another: a locked section makes the transition that it leaves and tells
nobody (`Advance.adds`), and an announcement makes none and tells the sink and the log of its own
(`adds_publish`).
-/

namespace SerialJobs

/-- What the audit log was told of a state that a handle has entered. -/
def Event.entry? : Event → Option JobEvent
  | .audited (.entered e) => some e
  | _ => none

/-- The states of one submission among the transitions. -/
def statesOf (ts : List Transition) (n : Nat) : List JobState :=
  (ts.filter (·.ticket.number = n)).map (·.state)

@[simp] lemma statesOf_append (ts us : List Transition) (n : Nat) :
    statesOf (ts ++ us) n = statesOf ts n ++ statesOf us n := by
  simp [statesOf]

lemma statesOf_singleton (t : Transition) (n : Nat) :
    statesOf [t] n = if t.ticket.number = n then [t.state] else [] := by
  unfold statesOf
  split_ifs with h <;> simp [h]

/-- The event of the audit log tells of the transition, at whatever time. -/
def Transition.ToldBy (t : Transition) (e : JobEvent) : Prop :=
  ∃ time, e = .entered time t.ticket.id t.ticket.label t.state t.runtime

/-- The transition that an errand tells the audit log of. -/
def Errand.report? : Errand → Option Transition
  | .report t => some t
  | _ => none

/-- The event has nothing to do with a state that a handle enters. -/
structure Event.Silent (e : Event) : Prop where
  transition : e.transition? = none
  record : e.record? = none
  entry : e.entry? = none

lemma Event.IsLogged.silent {e : Event} (h : e.IsLogged) : e.Silent := by
  cases e with
  | audited a =>
    cases a with
    | entered e => exact absurd h id
    | _ => exact ⟨rfl, rfl, rfl⟩
  | noted d => exact ⟨rfl, rfl, rfl⟩
  | _ => exact absurd h id

lemma Event.Attends.silent {e : Event} {t : Ticket} (h : e.Attends t) : e.Silent := by
  cases e with
  | call u x => exact ⟨rfl, rfl, rfl⟩
  | _ => exact Event.IsLogged.silent h

namespace Manager

variable {J E : Type} {s : Setup J E} {m m' m'' : Manager J E}

/-- What the audit log was told of states that handles entered, in order. -/
def entries (m : Manager J E) : List JobEvent := m.history.filterMap Event.entry?

/-- From `m` to `m'` handles made the transitions `moved`, the sink was given the `records`, and the
audit log was told of the transitions `told`. -/
structure Adds (moved : List Transition) (records : List Record) (told : List Transition)
    (m m' : Manager J E) : Prop where
  transitions : m'.transitions = m.transitions ++ moved
  records : m'.records = m.records ++ records
  entries : ∃ es, m'.entries = m.entries ++ es ∧ List.Forall₂ Transition.ToldBy told es

namespace Adds

variable {ts ts' us us' : List Transition} {rs rs' : List Record}

lemma of_past (es : List Event) (past : m'.past = es ++ m.past)
    (moved : es.reverse.filterMap Event.transition? = ts)
    (recorded : es.reverse.filterMap Event.record? = rs)
    (told : List.Forall₂ Transition.ToldBy us (es.reverse.filterMap Event.entry?)) :
    Adds ts rs us m m' where
  transitions := by simp [Manager.transitions, history, past, moved]
  records := by simp [Manager.records, history, past, recorded]
  entries := ⟨_, by simp [Manager.entries, history, past], told⟩

/-- What was told to the sink, if that was nothing. -/
lemma records_eq (h : Adds ts [] us m m') : m'.records = m.records := by
  rw [h.records, List.append_nil]

/-- Transitions are only added. -/
lemma isPrefix (h : Adds ts rs us m m') : m.transitions <+: m'.transitions :=
  h.transitions ▸ List.prefix_append ..

lemma trans (h : Adds ts rs us m m') (h' : Adds ts' rs' us' m' m'') :
    Adds (ts ++ ts') (rs ++ rs') (us ++ us') m m'' where
  transitions := by rw [h'.transitions, h.transitions, List.append_assoc]
  records := by rw [h'.records, h.records, List.append_assoc]
  entries := by
    obtain ⟨es, entries, told⟩ := h.entries
    obtain ⟨es', entries', told'⟩ := h'.entries
    exact ⟨es ++ es', by rw [entries', entries, List.append_assoc], List.rel_append told told'⟩

lemma silent (es : List Event) (past : m'.past = es ++ m.past) (silent : ∀ e ∈ es, e.Silent) :
    Adds [] [] [] m m' := by
  have entries : es.reverse.filterMap Event.entry? = [] := by
    simpa using fun e he => (silent e he).entry
  refine .of_past es past ?_ ?_ (entries ▸ .nil)
  · simpa using fun e he => (silent e he).transition
  · simpa using fun e he => (silent e he).record

/-- Nothing happens. -/
lemma same (past : m'.past = m.past) : Adds [] [] [] m m' := silent [] past (by simp)

/-- A handle enters a state, and nobody was told of any other before. -/
lemma moved {t : Transition} (es : List Event) (past : m'.past = .moved t :: es ++ m.past)
    (silent : ∀ e ∈ es, e.Silent) : Adds [t] [] [] m m' := by
  have before : Adds [] [] [] m { m with past := es ++ m.past } := .silent es rfl silent
  have move : Adds [t] [] [] { m with past := es ++ m.past } m' :=
    .of_past [.moved t] past rfl rfl .nil
  exact before.trans move

lemma then_silent {e : Event} (h : Adds ts rs us m m') (he : e.Silent) :
    Adds ts rs us m (m'.happen e) := by
  simpa using h.trans (silent [e] rfl (by simpa using he))

end Adds

lemma adds_register (s : Setup J E) (m : Manager J E) (t : Ticket) :
    Adds [⟨t, .queued, none⟩] [] [] m (m.register s t) :=
  .moved [] rfl (by simp)

lemma adds_finish (s : Setup J E) (o : Occupant J) (e : Exit) (m : Manager J E) :
    Adds [(m.finish s o e).1] [] [] m (m.finish s o e).2 :=
  .moved [] rfl (by simp)

/-- What is logged is not told to the sink. -/
lemma records_logged {e : Event} (he : e.IsLogged) : (m.happen e).records = m.records :=
  ((Adds.same rfl).then_silent he.silent).records_eq

lemma Attended.adds {t : Ticket} {es : List Event} (h : Attended t es m m') :
    Adds [] [] [] m m' :=
  .silent es h.past fun e he => (h.attends e he).silent

/-- A locked section makes the transition that it leaves, and tells nobody of it. -/
lemma Advance.adds {d : Option Transition} (step : Advance s m d m') :
    Adds d.toList [] [] m m' := by
  have start : ∀ {u : Ticket} {x : Outcome Unit} {es : List Event}, (∀ e ∈ es, e.IsRemark) →
      ∀ e ∈ es ++ [.call u (.start x)], e.Silent := by
    intro u x es told e he
    rcases List.mem_append.mp he with he | he
    · exact (told e he).isLogged.silent
    · rw [List.mem_singleton.mp he]
      exact ⟨rfl, rfl, rfl⟩
  cases step with
  | rest es slot queue handles past told =>
    exact .silent es past fun e he => (told e he).isLogged.silent
  | started es free head slot queue handles past told =>
    exact .moved _ (past.trans (List.append_cons ..)) (start told)
  | startFailed es free head slot queue handles past failed told =>
    exact .moved _ (past.trans (List.append_cons ..)) (start told)
  | kept held next slot queue handles past attends =>
    exact .silent _ past fun e he => (attends e he).silent
  | released held slot queue handles past attends exited =>
    exact .moved _ past fun e he => (attends e he).silent

/-- A wait tells nobody of a state, however it ends. -/
lemma adds_awaitExit (s : Setup J E) (t : Ticket) (j : J) (m : Manager J E) :
    Adds [] [] [] m (m.awaitExit s t j).2 := by
  have called : Adds [] [] [] m { m with
      env := (s.kind.wait s.config.shutdownTimeout j m.env).env
      past := .call t (.wait (s.kind.wait s.config.shutdownTimeout j m.env).outcome) :: m.past } :=
    .of_past [.call t (.wait _)] rfl rfl rfl .nil
  simp only [awaitExit]
  split
  · exact called.then_silent (e := .noted (.exitedOnStop ..)) ⟨rfl, rfl, rfl⟩
  · exact called.then_silent (e := .noted (.waitFailed ..)) ⟨rfl, rfl, rfl⟩
  · exact called.then_silent (e := .noted (.waitTimedOut ..)) ⟨rfl, rfl, rfl⟩
  · exact called

/-! ## Announcements -/

lemma adds_discharge (s : Setup J E) (m : Manager J E) (e : Errand) :
    Adds [] [] e.report?.toList m (m.discharge s e) := by
  cases e with
  | act a => exact .same rfl
  | worked k => exact (Adds.same rfl).then_silent (e := .sinkWorked k) ⟨rfl, rfl, rfl⟩
  | killed b => exact (Adds.same rfl).then_silent (e := .sinkKilled b) ⟨rfl, rfl, rfl⟩
  | panicked r p =>
    exact (Adds.same rfl).then_silent (e := .noted (.sinkPanicked r.id r.state p)) ⟨rfl, rfl, rfl⟩
  | report t =>
    exact .of_past [.audited (m.auditEvent s t)] rfl rfl rfl (.cons ⟨_, rfl⟩ .nil)

lemma adds_foldl_discharge (s : Setup J E) (errands : List Errand) (m : Manager J E) :
    Adds [] [] (errands.filterMap Errand.report?) m (errands.foldl (·.discharge s ·) m) := by
  induction errands generalizing m with
  | nil => exact .same rfl
  | cons e errands ih =>
    have h := (adds_discharge s m e).trans (ih (m.discharge s e))
    cases he : e.report? <;> simpa [List.filterMap_cons, he] using h

/-- A sink is told once, if there is one. -/
lemma adds_tell (s : Setup J E) (m : Manager J E) (t : Transition) :
    Adds [] (s.sink.map fun _ => t.record).toList [] m (m.tell s t).2 := by
  unfold tell
  split
  next h => exact h ▸ .same rfl
  next k h =>
    rw [h]
    exact .of_past [.recorded t.record (some m.view)] rfl rfl rfl .nil

/-- Of the errands that the sink leaves, one tells the audit log. -/
lemma report_tell (s : Setup J E) (m : Manager J E) (t : Transition) :
    (m.tell s t).1.filterMap Errand.report? = [t] := by
  unfold tell
  split
  next => rfl
  next k h =>
    cases (k.react m.records t.record).panic <;> simp [Errand.report?, Function.comp_def]

/-- An announcement tells the sink, if there is one, and the audit log of its transition. -/
theorem adds_publish (s : Setup J E) (m : Manager J E) (t : Transition) :
    Adds [] (s.sink.map fun _ => t.record).toList [t] m (m.publish s t) := by
  have h := (adds_tell s m t).trans (adds_foldl_discharge s (m.tell s t).1 (m.tell s t).2)
  simp only [report_tell, List.append_nil, List.nil_append] at h
  exact h

/-- The last announcement, too. -/
lemma adds_announceLast (s : Setup J E) (m : Manager J E) (t : Transition) :
    Adds [] (s.sink.map fun _ => t.record).toList [t] m (m.announceLast s t) := by
  have report : ∀ m : Manager J E, Adds [] [] [t] m (m.audit (m.auditEvent s t)) := fun m =>
    .of_past [.audited (m.auditEvent s t)] rfl rfl rfl (.cons ⟨_, rfl⟩ .nil)
  simp only [announceLast]
  split
  next h =>
    rw [h]
    exact report m
  next k h =>
    rw [h]
    have told : Adds [] [t.record] [] m (m.happen (.recorded t.record none)) :=
      .of_past [.recorded t.record none] rfl rfl rfl .nil
    split
    · exact told.trans (report _)
    · exact (told.then_silent (e := .noted (.sinkPanicked ..)) ⟨rfl, rfl, rfl⟩).trans (report _)

end Manager
end SerialJobs
