import SerialJobs.Proofs.Departure

/-!
# Delivered signals, and what the audit log says of them

The audit log is told of a signal right after it was delivered, and in the sections of an iteration
and of a kill at no other time (`Tended.told`). The last signal to a job, by a stop or at the end of
the manager, is told to the log also when it was not delivered. So the log lists the delivered
signals, in their order and each of them once, exactly as long as every last signal was delivered;
if not, it lists more (`Tells`, `killings_eq_deliveries_iff`).
-/

namespace SerialJobs

/-- A termination signal to the worker of a job. -/
structure Signal where
  id : JobId
  label : String
  command : KillCommand
deriving DecidableEq

namespace Event

/-- The signal that was delivered. -/
def delivery? : Event → Option Signal
  | call t (.terminate c (.ok ())) => some ⟨t.id, t.label, c⟩
  | _ => none

/-- The signal that the audit log was told of. -/
def killing? : Event → Option Signal
  | audited (.killed id label c) => some ⟨id, label, c⟩
  | _ => none

end Event

/-- Events, the latest first, in which the audit log is told of the delivered signals, in their
order and each of them once. -/
def Told (es : List Event) : Prop := es.filterMap Event.delivery? = es.filterMap Event.killing?

/-- An event that is neither a delivered signal nor told as one. -/
def Event.Mute (e : Event) : Prop := e.delivery? = none ∧ e.killing? = none

lemma told_of_mute {es : List Event} (h : ∀ e ∈ es, e.Mute) : Told es :=
  (List.filterMap_eq_nil_iff.mpr fun e he => (h e he).1).trans
    (List.filterMap_eq_nil_iff.mpr fun e he => (h e he).2).symm

lemma Told.append {es l : List Event} (h : Told es) (h' : Told l) : Told (es ++ l) := by
  unfold Told at h h' ⊢
  rw [List.filterMap_append, List.filterMap_append, h, h']

lemma Told.cons {e : Event} {es : List Event} (he : e.Mute) (h : Told es) : Told (e :: es) := by
  simpa [Told, he.1, he.2] using h

/-- If the log is told of every delivered signal, then it is told of no others on the whole exactly
if it is told of no others in both parts. -/
lemma told_append_iff {es l : List Event}
    (hes : (es.filterMap Event.delivery?).Sublist (es.filterMap Event.killing?))
    (hl : (l.filterMap Event.delivery?).Sublist (l.filterMap Event.killing?)) :
    Told (es ++ l) ↔ Told es ∧ Told l := by
  refine ⟨?_, fun h => h.1.append h.2⟩
  intro h
  have hlen := congrArg List.length h
  simp only [List.filterMap_append, List.length_append] at hlen
  have hle := hes.length_le
  have hle' := hl.length_le
  exact ⟨hes.eq_of_length (by omega), hl.eq_of_length (by omega)⟩

lemma Event.IsNews.mute {e : Event} (h : e.IsNews) : e.Mute := by
  cases e with
  | call t x => exact absurd h id
  | audited a =>
    cases a with
    | killed => exact absurd h id
    | _ => exact ⟨rfl, rfl⟩
  | _ => exact ⟨rfl, rfl⟩

/-- A signal that was not delivered. -/
lemma mute_of_error {t : Ticket} {c : KillCommand} {x : Outcome Unit} {e : JobError}
    (failed : x.guarded = .error e) : (Event.call t (.terminate c x)).Mute := by
  cases x with
  | ok u => simp [Outcome.guarded] at failed
  | _ => exact ⟨rfl, rfl⟩

/-- The events of a start. -/
lemma mute_of_start {t : Transition} {u : Ticket} {x : Outcome Unit} {es : List Event}
    (told : ∀ e ∈ es, e.IsRemark) :
    ∀ e ∈ .moved t :: es ++ [.call u (.start x)], e.Mute := by
  intro e he
  simp only [List.cons_append, List.mem_cons, List.mem_append, List.not_mem_nil, or_false] at he
  rcases he with rfl | he | rfl
  · exact ⟨rfl, rfl⟩
  · exact (told e he).isNews.mute
  · exact ⟨rfl, rfl⟩

section Tended

variable {J E : Type} {s : Setup J E} {t : Ticket} {d d' : Docket} {es : List Event}

lemma Heed.told (h : Heed s t d es d') : Told es := by
  cases h with
  | delivered h before => rfl
  | undelivered h before failed =>
    refine told_of_mute (List.forall_mem_cons.mpr ⟨⟨rfl, rfl⟩, ?_⟩)
    exact List.forall_mem_singleton.mpr (mute_of_error failed)
  | _ => exact told_of_mute (by simp [Event.Mute, Event.delivery?, Event.killing?])

/-- While a job has the slot, the log is told of the signals that are delivered to it. -/
theorem Tended.told (h : Tended s t d es d') : Told es := by
  induction h with
  | refl => rfl
  | step past last ih => exact last.told.append ih

lemma Exited.told {x e : Exit} (h : Exited s t d x e es) : Told es := by
  cases h with
  | intro remarks hrs tended yields =>
    have mute : ∀ r ∈ remarks, r.Mute := fun r hr => (hrs r hr).isNews.mute
    exact (told_of_mute mute).append (tended.told.cons ⟨rfl, rfl⟩)

end Tended

namespace Manager

variable {J E : Type} {s : Setup J E} {m m' m'' : Manager J E}

/-- The last signal to a job is told whether it is delivered or not. -/
lemma LastSignal.told_iff {o : Occupant J} {x : Outcome Unit} {es : List Event} {e : Exit}
    (h : LastSignal o x es e) :
    (es.filterMap Event.delivery?).Sublist (es.filterMap Event.killing?) ∧
      (Told es ↔ (¬ o.docket.Delivered → x = .ok ())) := by
  cases h with
  | before hp delivered =>
    exact ⟨List.nil_sublist _, iff_of_true rfl fun h => absurd ⟨_, hp, delivered⟩ h⟩
  | delivered hnot ok =>
    subst ok
    exact ⟨List.Sublist.refl _, iff_of_true rfl fun _ => rfl⟩
  | @inVain f hnot failed =>
    have hx : x ≠ .ok () := Outcome.ne_ok_of_guarded failed ()
    -- nothing was delivered, and one signal is told
    have deliveries : [.audited (.killed o.ticket.id o.ticket.label .shutdown),
        .noted (.signalFailed o.ticket.id none f),
        .call o.ticket (.terminate .shutdown x)].filterMap Event.delivery? = [] := by
      rw [List.filterMap_cons_none rfl, List.filterMap_cons_none rfl,
        List.filterMap_cons_none (mute_of_error failed).1, List.filterMap_nil]
    rw [Told, deliveries]
    exact ⟨List.nil_sublist _, iff_of_false (by simp [Event.killing?]) fun h => hx (h hnot)⟩

/-- The signals that were delivered, in order. -/
def deliveries (m : Manager J E) : List Signal := m.history.filterMap Event.delivery?

/-- The signals that the audit log was told of, in order. -/
def killings (m : Manager J E) : List Signal := m.history.filterMap Event.killing?

/-- If a last signal has to be sent to the job in the slot, then it is delivered. -/
def TakesLastSignal (s : Setup J E) (m : Manager J E) : Prop :=
  ∀ o, m.slot = some o → ¬ o.docket.Delivered →
    (s.kind.terminate .shutdown o.job m.env).outcome = .ok ()

/-- From `m` to `m'` the audit log was told of the signals delivered, and of no others exactly if
`p` holds. -/
def Tells (p : Prop) (m m' : Manager J E) : Prop :=
  ∃ es, m'.past = es ++ m.past ∧
    (es.filterMap Event.delivery?).Sublist (es.filterMap Event.killing?) ∧ (Told es ↔ p)

namespace Tells

lemma of_told {es : List Event} (past : m'.past = es ++ m.past) (told : Told es) :
    Tells True m m' := by
  refine ⟨es, past, ?_, iff_true_intro told⟩
  rw [show es.filterMap Event.delivery? = _ from told]

lemma refl (m : Manager J E) : Tells True m m :=
  ⟨[], rfl, .refl _, iff_true_intro rfl⟩

lemma trans {p q : Prop} (h : Tells p m m') (h' : Tells q m' m'') : Tells (p ∧ q) m m'' := by
  obtain ⟨es, past, sub, told⟩ := h
  obtain ⟨es', past', sub', told'⟩ := h'
  refine ⟨es' ++ es, by rw [past', past, List.append_assoc], ?_, ?_⟩
  · rw [List.filterMap_append, List.filterMap_append]
    exact sub'.append sub
  · rw [told_append_iff sub' sub, told, told', and_comm]

lemma congr {p q : Prop} (h : Tells p m m') (iff : p ↔ q) : Tells q m m' := propext iff ▸ h

/-- Further events of which the log is told as it should be. -/
lemma told {p : Prop} (h : Tells p m m') {es : List Event} (past : m''.past = es ++ m'.past)
    (told : Told es) : Tells p m m'' :=
  (h.trans (of_told past told)).congr (and_iff_left trivial)

lemma mute {p : Prop} (h : Tells p m m') {es : List Event} (past : m''.past = es ++ m'.past)
    (mute : ∀ e ∈ es, e.Mute) : Tells p m m'' :=
  h.told past (told_of_mute mute)

lemma cons {p : Prop} (h : Tells p m m') {e : Event} (past : m''.past = e :: m'.past)
    (mute : e.Mute) : Tells p m m'' :=
  h.mute (past : m''.past = [e] ++ m'.past) (List.forall_mem_singleton.mpr mute)

lemma advance {p : Prop} (h : Tells p m m') {t : Option Transition}
    (step : Advance s m' t m'') : Tells p m m'' := by
  cases step with
  | rest es slot queue handles past told => exact h.mute past fun e he => (told e he).isNews.mute
  | started es free head slot queue handles past told =>
    exact h.mute (past.trans (List.append_cons ..)) (mute_of_start told)
  | startFailed es free head slot queue handles past failed told =>
    exact h.mute (past.trans (List.append_cons ..)) (mute_of_start told)
  | kept held next slot queue handles past attends tended => exact h.told past tended.told
  | released held slot queue handles past attends exited yielded =>
    exact h.told past (yielded.told.cons ⟨rfl, rfl⟩)

end Tells

/-- News and the sections of iterations and kills tell the log of the signals delivered. -/
lemma enduring_tells (s : Setup J E) (p : Prop) (m₀ : Manager J E) : Enduring s (Tells p m₀) where
  happen h he := h.cons rfl he.mute
  advance h step := h.advance step
  pass h := h
  register h := h.cons rfl ⟨rfl, rfl⟩
  enqueue h := h

namespace Tells

/-- A job that departs is signalled once more unless that was done before, and the log is told of
that signal in any case. -/
lemma departed {o : Occupant J} {w : Option WaitOutcome} {e : Exit} (h : Departed s m o w e m') :
    Tells (m.TakesLastSignal s) m m' := by
  obtain ⟨ns, es, remarks, past, last, hns, hremarks⟩ := h.past
  have takes : Told es ↔ m.TakesLastSignal s := by
    rw [last.told_iff.2]
    simp [TakesLastSignal, h.held]
  have remarked : Tells True m { m with past := remarks ++ m.past } :=
    (refl m).mute rfl fun x hx => (hremarks x hx).isNews.mute
  have signalled : Tells (m.TakesLastSignal s) { m with past := remarks ++ m.past }
      { m with past := es ++ (remarks ++ m.past) } := ⟨es, rfl, last.told_iff.1, takes⟩
  -- a wait, and what is remarked on how it ended
  have mute : ∀ x ∈ ns ++ waitCall o.ticket w, x.Mute := by
    refine List.forall_mem_append.mpr ⟨fun x hx => (hns x hx).isNews.mute, fun x hx => ?_⟩
    obtain ⟨x, rfl⟩ := eq_of_mem_waitCall hx
    exact ⟨rfl, rfl⟩
  have sofar := (remarked.trans signalled).congr (and_iff_right trivial)
  exact sofar.mute (by rw [past]; simp only [List.append_assoc]) mute

end Tells

/-- What a stop tells the log of, whether it completes or not. -/
lemma tells_stop (s : Setup J E) (m : Manager J E) :
    Tells (m.TakesLastSignal s) m (m.stop s).2 := by
  refine stop_keeps ?_ ?_ ?_ ?_
  · intro m' i n h
    exact h.cons rfl ⟨rfl, rfl⟩
  · intro free
    have takes : m.TakesLastSignal s := by simp [TakesLastSignal, free]
    exact (Tells.refl m).congr (iff_of_true trivial takes)
  · intro o w e m' departed
    have finished : Tells (m.TakesLastSignal s) m (m'.finish s o e).2 :=
      (Tells.departed departed).cons rfl ⟨rfl, rfl⟩
    exact (enduring_tells s _ m).announce finished (m'.finish s o e).1
  · intro o w e m' departed
    exact Tells.departed departed

/-- A request tells the log of the signals delivered, and of no others exactly if a stop has its
last signal delivered. -/
lemma tells_serve (s : Setup J E) (m : Manager J E) (r : Request J E) :
    Tells (r = .stop → m.TakesLastSignal s) m (m.serve s r).2 := by
  by_cases hr : r = .stop
  · subst hr
    exact (tells_stop s m).congr ⟨fun h _ => h, fun h => h rfl⟩
  · have h := (enduring_tells s True m).serve_of_ne_stop (Tells.refl m) hr
    exact h.congr (iff_of_true trivial fun h => absurd h hr)

/-- The last signal of each stop was delivered, if it had to be sent. -/
def LastSignalsDelivered (s : Setup J E) (m : Manager J E) (rs : List (Request J E)) : Prop :=
  ∀ rs₁ rs₂, rs = rs₁ ++ .stop :: rs₂ → (m.after s rs₁).TakesLastSignal s

lemma lastSignalsDelivered_append_singleton {rs : List (Request J E)} {r : Request J E} :
    m.LastSignalsDelivered s (rs ++ [r]) ↔
      m.LastSignalsDelivered s rs ∧ (r = .stop → (m.after s rs).TakesLastSignal s) := by
  constructor
  · intro h
    refine ⟨fun rs₁ rs₂ eq => h rs₁ (rs₂ ++ [r]) (by simp [eq]), ?_⟩
    rintro rfl
    exact h rs [] rfl
  · rintro ⟨h, hr⟩ rs₁ rs₂ eq
    -- the stop is one of the earlier requests, or it is the last one
    rcases History.append_eq_split eq with ⟨rs₂', eq', -⟩ | ⟨rs', hlast, rfl⟩
    · exact h rs₁ rs₂' eq'
    · obtain ⟨rfl, hstop, -⟩ := History.eq_of_append_cons_eq_singleton hlast.symm
      simpa using hr hstop.symm

/-- What requests tell the log of, whether they complete or not. -/
theorem tells_after (s : Setup J E) (m : Manager J E) (rs : List (Request J E)) :
    Tells (m.LastSignalsDelivered s rs) m (m.after s rs) := by
  induction rs using List.reverseRecOn with
  | nil =>
    refine (Tells.refl m).congr (iff_of_true trivial ?_)
    intro rs₁ rs₂ eq
    simp at eq
  | append_singleton rs r ih =>
    rw [after_append]
    exact (ih.trans (tells_serve s _ r)).congr lastSignalsDelivered_append_singleton.symm

/-- The end of the manager tells the log of the last signal to the job in the slot. -/
lemma tells_drop (s : Setup J E) (m : Manager J E) : Tells (m.TakesLastSignal s) m (m.drop s) := by
  have dropped := dropped_drop s m
  generalize m.drop s = m' at dropped
  cases dropped with
  | idle free =>
    have takes : m.TakesLastSignal s := by simp [TakesLastSignal, free]
    exact (Tells.refl m).congr (iff_of_true trivial takes)
  | @ended o e m₁ departed =>
    have finished : Tells (m.TakesLastSignal s) m (m₁.finish s o e).2 :=
      (Tells.departed departed).cons rfl ⟨rfl, rfl⟩
    exact (enduring_tells s _ m).announceLast finished _

lemma Tells.killings_of_fresh {p : Prop} {env : E} (h : Tells p (.fresh env) m) :
    (m.killings = m.deliveries ↔ p) ∧ m.deliveries.Sublist m.killings := by
  obtain ⟨es, past, sub, told⟩ := h
  have past : m.past = es := by simpa [fresh] using past
  rw [killings, deliveries, history, past, List.filterMap_reverse, List.filterMap_reverse,
    List.reverse_inj, List.reverse_sublist, ← told]
  exact ⟨eq_comm, sub⟩

/-- A script that keeps running and that no signal gets through to. -/
def unreachable : Worker :=
  .script ⟨.ofNat 1, "scan", .always (.ok ()), .always (.ok none),
    .always (.error (.terminateFailed "busy")), .always ⟨0, some (.ok .completed)⟩⟩

/-- The signals that the audit log was told of are exactly those that were delivered, in their order
and each once, exactly if every stop, and the end of the manager if it has ended, had its last
signal delivered or none to send. The delivered signals are among them in any case. -/
theorem killings_eq_deliveries_iff (s : Setup J E) (env : E) (rs : List (Request J E)) :
    let m := after s (.fresh env) rs
    let delivered := LastSignalsDelivered s (.fresh env) rs
    ((m.killings = m.deliveries ↔ delivered) ∧ m.deliveries.Sublist m.killings) ∧
      ((m.drop s).killings = (m.drop s).deliveries ↔ delivered ∧ m.TakesLastSignal s) ∧
        (m.drop s).deliveries.Sublist (m.drop s).killings := by
  have h := tells_after s (.fresh env) rs
  exact ⟨h.killings_of_fresh, (h.trans (tells_drop s _)).killings_of_fresh⟩

/-- A stop, and the end of the manager, tell the log of a signal that was not delivered. -/
theorem killing_without_delivery :
    let m := after .bare (.fresh {}) [.submit unreachable, .work]
    ((m.serve .bare .stop).2.killings = [⟨.ofNat 1, "scan", .shutdown⟩] ∧
        (m.serve .bare .stop).2.deliveries = []) ∧
      (m.drop .bare).killings = [⟨.ofNat 1, "scan", .shutdown⟩] ∧
        (m.drop .bare).deliveries = [] := by
  refine ⟨⟨?_, ?_⟩, ?_, ?_⟩ <;> exact of_decide_eq_true (by cbv)

end Manager
end SerialJobs
