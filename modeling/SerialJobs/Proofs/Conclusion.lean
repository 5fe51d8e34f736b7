import SerialJobs.Proofs.Departure
import SerialJobs.Proofs.Records

/-!
# What a stop leaves of the job in the slot

A stop that has taken the job out of the slot finishes it and tells everyone so, hands back what is
queued then, and returns, however the last signal and the wait end, unless the wait panics. Then the
panic goes through: the job is out of the slot, its handle is still running, and the queue is not
drained (`stop_concludes_iff`).
-/

namespace SerialJobs
namespace Manager

variable {J E : Type} {s : Setup J E} {m m' : Manager J E} {arriving : List (Waiting J)}

/-! ## What goes on while the end of a job is announced -/

/-- From `m` to `m'` the events `es` were added, the latest first, and the first jobs of the queue
left it to be started. -/
def Proceeds (m : Manager J E) (es : List Event) (m' : Manager J E) : Prop :=
  m'.past = es ++ m.past ∧
    ∃ ws, m.queue = ws ++ m'.queue ∧ ∀ w ∈ ws, ∃ x, .call w.ticket (.start x) ∈ es

namespace Proceeds

variable {m'' : Manager J E} {es es' : List Event}

/-- Nothing leaves the queue. -/
lemma quiet (past : m'.past = es ++ m.past) (queue : m'.queue = m.queue) : Proceeds m es m' :=
  ⟨past, [], by simp [queue], by simp⟩

lemma refl (m : Manager J E) : Proceeds m [] m := quiet rfl rfl

lemma happen (m : Manager J E) (e : Event) : Proceeds m [e] (m.happen e) := quiet rfl rfl

/-- The head of the queue leaves it to be started. -/
lemma head {w : Waiting J} {ws : List (Waiting J)} {x : Outcome Unit} {e : Event}
    (head : m.queue = w :: ws) (queue : m'.queue = ws)
    (past : m'.past = e :: es ++ .call w.ticket (.start x) :: m.past) :
    Proceeds m (e :: es ++ [.call w.ticket (.start x)]) m' := by
  refine ⟨past.trans (List.append_cons ..), [w], by simp [head, queue], ?_⟩
  intro v hv
  rw [List.mem_singleton.mp hv]
  exact ⟨x, List.mem_append_right _ List.mem_cons_self⟩

lemma trans (h : Proceeds m es m') (h' : Proceeds m' es' m'') : Proceeds m (es' ++ es) m'' := by
  obtain ⟨past, ws, queue, started⟩ := h
  obtain ⟨past', ws', queue', started'⟩ := h'
  refine ⟨by rw [past', past, List.append_assoc], ws ++ ws', by rw [queue, queue',
    List.append_assoc], ?_⟩
  intro w hw
  rcases List.mem_append.mp hw with hw | hw
  · exact (started w hw).imp fun _ hx => List.mem_append_right _ hx
  · exact (started' w hw).imp fun _ hx => List.mem_append_left _ hx

end Proceeds

lemma lasting_proceeds (s : Setup J E) (m₀ : Manager J E) :
    Lasting s fun m => ∃ es, Proceeds m₀ es m where
  happen {m e} := fun ⟨_, h⟩ _ => ⟨_, h.trans (.happen m e)⟩
  advance := by
    rintro m m' t ⟨es, h⟩ step
    cases step with
    | rest es slot queue handles past told => exact ⟨_, h.trans (.quiet past queue)⟩
    | started es free head slot queue handles past told =>
      exact ⟨_, h.trans (.head head queue past)⟩
    | startFailed es free head slot queue handles past failed told =>
      exact ⟨_, h.trans (.head head queue past)⟩
    | kept held next slot queue handles past attends => exact ⟨_, h.trans (.quiet past queue)⟩
    | released held slot queue handles past attends exited => exact ⟨_, h.trans (.quiet past queue)⟩

/-- A submission that has finished stays so. -/
lemma lasting_finished (s : Setup J E) (arriving : List (Waiting J)) (n : Nat) (e : Exit) :
    Lasting s fun (m : Manager J E) =>
      ∃ out, Placed m arriving out ∧ m.state? n = some (.finished e) where
  happen := fun ⟨out, h, hn⟩ _ => ⟨out, h.congr ⟨rfl, rfl, rfl⟩, hn⟩
  advance := fun ⟨out, h, hn⟩ step => ⟨out, h.advance step, h.finished_of_advance step hn⟩

/-- A job whose end is announced is finished. -/
lemma finished_of_due {α : Type} {r : Section J E α} {out : List Nat}
    (placed : Placed m arriving out) (step : Advance s m r.due r.manager) {t : Ticket} {e : Exit}
    {d : Option Duration} (due : r.due = some ⟨t, .finished e, d⟩) :
    (announceDue s r).state? t.number = some (.finished e) := by
  rw [due] at step
  have state : r.manager.state? t.number = some (.finished e) := by
    rw [placed.state?_advance step]
    exact Function.update_self ..
  simp only [announceDue, due]
  obtain ⟨-, -, stays⟩ := (lasting_finished s arriving t.number e).announce
    ⟨out, placed.advance step, state⟩ ⟨t, .finished e, d⟩
  exact stays

/-- What is still to be reported to the audit log gets reported, whatever the sink calls before. -/
lemma reported_of_run (s : Setup J E) {t : Transition} (errands : List Errand) (m : Manager J E)
    (h : .report t ∈ errands) :
    ∃ es, Proceeds m es (run s errands m) ∧ ∃ e, t.ToldBy e ∧ .audited (.entered e) ∈ es := by
  induction errands, m using run.induct s with
  | case1 m => simp at h
  | case2 a errands m ih =>
    obtain ⟨es, performed⟩ := (lasting_proceeds s m).perform ⟨[], .refl m⟩ a
    have pending := (List.mem_cons.mp h).resolve_left (by simp)
    obtain ⟨es', rest, e, told, he⟩ := ih (List.mem_append_right _ pending)
    rw [run]
    exact ⟨_, performed.trans rest, e, told, List.mem_append_left _ he⟩
  | case3 x errands m hne ih =>
    rw [run]
    · rcases List.mem_cons.mp h with rfl | h
      · obtain ⟨es, rest⟩ :=
          (lasting_proceeds s _).run errands ⟨[], .refl (m.discharge s (.report t))⟩
        have reported : Proceeds m [_] (m.discharge s (.report t)) := .quiet rfl rfl
        exact ⟨_, reported.trans rest, _, ⟨_, rfl⟩, List.mem_append_right _ List.mem_cons_self⟩
      · obtain ⟨es, discharged⟩ := (lasting_proceeds s m).discharge ⟨[], .refl m⟩ x
        obtain ⟨es', rest, e, told, he⟩ := ih h
        exact ⟨_, discharged.trans rest, e, told, List.mem_append_left _ he⟩
    · exact hne

/-! ## The end of a stop -/

/-- Among the events, a handle enters a state, and the sink, if there is one, and the audit log are
told of it. -/
structure Published (s : Setup J E) (t : Transition) (es : List Event) : Prop where
  moved : .moved t ∈ es
  recorded : s.sink.isSome → ∃ v, .recorded t.record v ∈ es
  reported : ∃ e, t.ToldBy e ∧ .audited (.entered e) ∈ es

lemma Published.mono {t : Transition} {es es' : List Event} (h : Published s t es) (hs : es ⊆ es') :
    Published s t es' where
  moved := hs h.moved
  recorded sink := (h.recorded sink).imp fun _ hv => hs hv
  reported := h.reported.imp fun _ he => ⟨he.1, hs he.2⟩

/-- An announcement tells everyone of its transition, whatever the sink calls. -/
lemma published_announce (s : Setup J E) (m : Manager J E) (t : Transition) :
    ∃ es, Proceeds m es (m.announce s t) ∧ (s.sink.isSome → ∃ v, .recorded t.record v ∈ es) ∧
      ∃ e, t.ToldBy e ∧ .audited (.entered e) ∈ es := by
  have told : ∃ es, Proceeds m es (m.tell s t).2 ∧ .report t ∈ (m.tell s t).1 ∧
      (s.sink.isSome → ∃ v, .recorded t.record v ∈ es) := by
    unfold tell
    split
    next h => exact ⟨[], .refl m, by simp, by simp [h]⟩
    next k h =>
      exact ⟨[.recorded t.record (some m.view)], .quiet rfl rfl, by simp,
        fun _ => ⟨_, List.mem_singleton_self _⟩⟩
  obtain ⟨es, sink, pending, recorded⟩ := told
  obtain ⟨es', rest, e, told, he⟩ := reported_of_run s _ (m.tell s t).2 pending
  refine ⟨_, sink.trans rest, ?_, e, told, List.mem_append_left _ he⟩
  intro h
  exact (recorded h).imp fun _ hv => List.mem_append_right _ hv

/-- A job that was taken out of the slot is finished, and that is announced. -/
lemma published_finish {o : Occupant J} {out : List Nat}
    (placed : Placed m [] (o.ticket.number :: out)) (e : Exit) :
    ∃ es, Proceeds m es ((m.finish s o e).2.announce s (m.finish s o e).1) ∧
      Published s ⟨o.ticket, .finished e, some (.ofNanos (m.age s o))⟩ es ∧
      ((m.finish s o e).2.announce s (m.finish s o e).1).state? o.ticket.number =
        some (.finished e) := by
  have running : m.state? o.ticket.number = some .running :=
    (placed.running_iff _).mpr (by simp [busy])
  have state : (m.finish s o e).2.state? o.ticket.number = some (.finished e) := by
    rw [state?_of_modify running rfl, Function.update_self]
  have finished : Proceeds m [.moved (m.finish s o e).1] (m.finish s o e).2 := .quiet rfl rfl
  obtain ⟨es, announced, recorded, x, told, hx⟩ :=
    published_announce s (m.finish s o e).2 (m.finish s o e).1
  obtain ⟨-, -, stays⟩ := (lasting_finished s [] _ e).announce
    ⟨out, Placed.finish (a := []) placed e, state⟩ (m.finish s o e).1
  refine ⟨_, finished.trans announced, ⟨?_, ?_, x, told, List.mem_append_left _ hx⟩, stays⟩
  · exact List.mem_append_right _ List.mem_cons_self
  · exact fun h => (recorded h).imp fun _ hv => List.mem_append_left _ hv

/-- A stop with the job `o` in the slot has ended with the report `r`, and the events `es` were
added by it, the latest first: the job is finished, and everyone was told; what is queued was handed
back, less what the sink had started before. -/
structure Concluded (s : Setup J E) (m : Manager J E) (o : Occupant J) (es : List Event)
    (r : Report J) (m' : Manager J E) : Prop where
  past : m'.past = es ++ m.past
  terminated : r.terminated = some o.ticket.id
  finished : ∃ e d, m'.state? o.ticket.number = some (.finished e) ∧
    Published s ⟨o.ticket, .finished e, d⟩ es
  emptied : m'.queue = []
  drained : ∃ ws, m.queue = ws ++ r.drained ∧ (∀ w ∈ ws, ∃ x, .call w.ticket (.start x) ∈ es) ∧
    (s.Passive → ws = [])

/-- A stop whose wait does not panic concludes, however the last signal and the wait end. -/
lemma concluded_of_stop {o : Occupant J} {out : List Nat} (placed : Placed m [] out)
    (held : m.slot = some o) (ends : ∀ p, m.lastWait s o ≠ .panic p) :
    ∃ r es, (m.stop s).1 = .ok r ∧ Concluded s m o es r (m.stop s).2 := by
  have halted := halted_stop s m
  generalize (m.stop s).1 = r, (m.stop s).2 = m' at halted
  cases halted with
  | idle free => simp [free] at held
  | broken departed panics =>
    obtain rfl := Option.some.inj (departed.held.symm.trans held)
    exact absurd panics (ends _)
  | @ended o' x e m₁ m₂ departed _ announced =>
    obtain rfl := Option.some.inj (departed.held.symm.trans held)
    obtain ⟨ns, es, remarks, past, -⟩ := departed.past
    generalize ns ++ waitCall o'.ticket (some x) ++ es ++ remarks = before at past
    have ended : Proceeds m _ m₁ := .quiet past departed.queue
    obtain ⟨l, finished, published, state⟩ := published_finish (s := s) (departed.placed placed) e
    rw [← announced] at finished state
    obtain ⟨past₂, ws, queue, started⟩ := ended.trans finished
    -- a sink that does not call back starts nothing
    have untouched : s.Passive → ws = [] := by
      intro passive
      rw [announce_eq_publish passive] at announced
      obtain ⟨_, informed⟩ := informed_publish s (m₁.finish s o' e).2 (m₁.finish s o' e).1
      have same : m₂.queue = m.queue := by
        rw [announced, informed.queue]
        exact departed.queue
      rw [same] at queue
      exact List.append_left_eq_self.mp queue.symm
    let last : Event := .noted (.stopped (some o'.ticket.id) m₂.queue.length)
    have concluded : Concluded s m o' (last :: (l ++ before))
        ⟨some o'.ticket.id, m₂.queue⟩ (({ m₂ with queue := [] } : Manager J E).happen last) :=
      { past := congrArg (last :: ·) past₂
        terminated := rfl
        finished := ⟨e, _, state, published.mono fun x hx =>
          List.mem_cons_of_mem _ (List.mem_append_left _ hx)⟩
        emptied := rfl
        drained := ⟨ws, queue, fun w hw => (started w hw).imp fun _ hx =>
          List.mem_cons_of_mem _ hx, untouched⟩ }
    exact ⟨_, _, rfl, concluded⟩

/-- A stop whose wait panics panics, and loses the job in the slot. -/
lemma lost_of_stop {o : Occupant J} {out : List Nat} (placed : Placed m [] out)
    (held : m.slot = some o) {p : PanicPayload} (panics : m.lastWait s o = .panic p) :
    (m.stop s).1 = .error p ∧ (m.stop s).2.slot = none ∧ (m.stop s).2.queue = m.queue ∧
      (m.stop s).2.state? o.ticket.number = some .running := by
  obtain ⟨stop, e, departed⟩ := departed_of_panic held panics
  refine ⟨stop, departed.slot, departed.queue, ?_⟩
  rw [state?_congr departed.handles]
  exact placed.running held

/-- After any requests, a stop ends the job in the slot exactly if its wait does not panic: then it
returns and reports the job, whose handle is finished, which everyone was told, and what is queued,
whether the last signal is delivered, fails or panics, and whether the wait reports an exit, fails
or exceeds its limit. If the wait panics then so does the stop, the job is out of the slot with a
running handle, and the queue stays as it is. -/
theorem stop_concludes_iff (s : Setup J E) (env : E) (rs : List (Request J E)) {o : Occupant J}
    (held : (after s (.fresh env) rs).slot = some o) :
    let m := after s (.fresh env) rs
    ((∃ r es, (m.stop s).1 = .ok r ∧ Concluded s m o es r (m.stop s).2) ↔
        ∀ p, m.lastWait s o ≠ .panic p) ∧
      ∀ p, m.lastWait s o = .panic p →
        (m.stop s).1 = .error p ∧ (m.stop s).2.slot = none ∧ (m.stop s).2.queue = m.queue ∧
          (m.stop s).2.state? o.ticket.number = some .running := by
  obtain ⟨out, placed⟩ := placed_after s env rs
  refine ⟨⟨?_, concluded_of_stop placed held⟩, fun p => lost_of_stop placed held⟩
  rintro ⟨r, es, hr, -⟩ p panics
  rw [(lost_of_stop placed held panics).1] at hr
  cases hr

/-- A job runs, and another one waits behind it. -/
def convoy : List (Request Worker Host) := [.submit (.endless 1), .submit (.endless 2), .work]

/-- A stop ends a job that runs, with another one in the queue. -/
theorem stop_concludes_iff_convoy :
    ∃ o, (after .bare (.fresh {}) convoy).slot = some o ∧
      ∃ r es, ((after .bare (.fresh {}) convoy).stop .bare).1 = .ok r ∧
        Concluded .bare (after .bare (.fresh {}) convoy) o es r
          ((after .bare (.fresh {}) convoy).stop .bare).2 := by
  have waits : (after .bare (.fresh {}) convoy).slot.map
      (fun o => lastWait .bare o (after .bare (.fresh {}) convoy)) = some (.exited .completed) :=
    of_decide_eq_true (by cbv)
  obtain ⟨o, held, wait⟩ := Option.map_eq_some_iff.mp waits
  exact ⟨o, held, (stop_concludes_iff .bare {} _ held).1.mpr fun p => by simp [wait]⟩

/-- A script that keeps running and whose wait panics. -/
def fragile : Worker :=
  .script ⟨.ofNat 1, "first", .always (.ok ()), .always (.ok none), .always (.ok ()),
    .always ⟨0, some (.panic (.text "boom"))⟩⟩

/-- A stop whose wait panics does not return, and leaves the job running and the other one queued.
-/
theorem running_after_stop :
    let m := after .bare (.fresh {}) [.submit fragile, .submit (.endless 2), .work]
    (m.currentId = some (.ofNat 1) ∧ (m.stop .bare).1.isOk = false) ∧
      (m.stop .bare).2.state? 0 = some .running ∧
        (m.stop .bare).2.currentId = none ∧ (m.stop .bare).2.queuedIds = [.ofNat 2] := by
  refine ⟨⟨?_, ?_⟩, ?_, ?_, ?_⟩ <;> exact of_decide_eq_true (by cbv)

end Manager
end SerialJobs
