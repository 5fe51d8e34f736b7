import SerialJobs.Proofs.Course

/-!
# How the slot, the queue and the handles fit together

The slot, the queue, the handles and the record of a termination under way are changed by different
operations, and between two requests of one caller they agree: the handle that is running is that of
the job in the slot, the queued jobs were never called, and a submission that is in neither place is
finished or was drained by a stop. `Represented` says so at every moment, with what is on its way to
the queue and what a stop has taken out of the slot; there is one lemma for each operation, and
`represented_of_served` composes them.
-/

namespace SerialJobs

/-- The record of the job in the slot makes sense: as long as no termination is under way the failed
status checks stay below the limit, and a signal that is not delivered yet is one that the manager
itself sends. -/
structure Occupant.Sound {J E : Type} (s : Setup J E) (o : Occupant J) : Prop where
  errors : o.stop = none → o.statusErrors < s.config.statusErrorLimit.toNat
  undelivered : ∀ p, o.stop = some p → p.signalled = false →
    p.command = .timeout ∧ (p.exit = .killed .timeout ∨ ∃ reason, p.exit = .unresponsive reason)

/-- A configuration without a fault bears at least one failed status check. -/
lemma Config.statusErrorLimit_pos {c : Config} (h : c.fault? = none) :
    0 < c.statusErrorLimit.toNat := by
  unfold fault? at h
  split_ifs at h with _ _ _ hne
  exact Nat.pos_of_ne_zero fun h0 => hne (UInt32.toNat_inj.mp h0)

namespace Manager

variable {J E : Type} {s : Setup J E}

/-- A job that keeps the slot keeps a sound record. -/
lemma Next.sound {o : Occupant J} {n : Nat} {p : Option PendingStop} (next : Next s o n p)
    (limit : 0 < s.config.statusErrorLimit.toNat) (h : o.Sound s) (j : J) :
    Occupant.Sound s { o with job := j, statusErrors := n, stop := p } := by
  cases next with
  | running _ => exact ⟨fun _ => limit, by simp⟩
  | erring _ hlt => exact ⟨fun _ => hlt, by simp⟩
  | spared ho => exact ⟨fun _ => h.errors ho, by simp⟩
  | overdue _ b =>
    refine ⟨by simp, ?_⟩
    rintro _ ⟨⟩ -
    exact ⟨rfl, .inl rfl⟩
  | unreadable _ reason b =>
    refine ⟨by simp, ?_⟩
    rintro _ ⟨⟩ -
    exact ⟨rfl, .inr ⟨reason, rfl⟩⟩
  | killed _ c =>
    refine ⟨by simp, ?_⟩
    rintro _ ⟨⟩ hs
    cases hs
  | @pursued q ho b hb =>
    refine ⟨by simp, ?_⟩
    rintro _ ⟨⟩ hs
    -- the signal was not delivered before either
    have hq : q.signalled = false := by
      rw [Bool.eq_false_iff]
      intro hq
      simp [hb hq] at hs
    exact h.undelivered q ho hq

/-- The submission's handle has left the queued state. -/
def Begun (m : Manager J E) (n : Nat) : Prop := ∃ st, m.state? n = some st ∧ st ≠ .queued

/-- A stop handed the submission back, as its report says. -/
def Drained (as : List (Answer J)) (n : Nat) : Prop :=
  ∃ r, .report r ∈ as ∧ ∃ w ∈ r.drained, w.ticket.number = n

lemma Drained.append {as : List (Answer J)} {n : Nat} (as' : List (Answer J))
    (h : Drained as n) : Drained (as ++ as') n := by
  obtain ⟨r, hr, hw⟩ := h
  exact ⟨r, List.mem_append_left _ hr, hw⟩

/-- The slot, the queue and the handles fit together, where a caller got the answers `as`, the jobs
`arriving` are on their way to the queue, and the submissions `out` were taken out of the slot. -/
structure Represented (s : Setup J E) (as : List (Answer J)) (arriving : List (Waiting J))
    (out : List Nat) (m : Manager J E) : Prop where
  placed : Placed m arriving out
  called : ∀ t x, .call t x ∈ m.past → m.Begun t.number
  left : ∀ n, m.state? n = some .queued → n ∈ m.waiting arriving ∨ Drained as n
  sound : ∀ o, m.slot = some o → o.Sound s

lemma begun_of_update {m m' : Manager J E} {k n : Nat} {st : JobState} (h : m.Begun n)
    (states : m'.state? = Function.update m.state? k (some st)) (hst : k = n → st ≠ .queued) :
    m'.Begun n := by
  show ∃ st, m'.state? n = some st ∧ st ≠ .queued
  rw [states]
  rcases eq_or_ne n k with rfl | hne
  · exact ⟨st, Function.update_self .., hst rfl⟩
  · rw [Function.update_of_ne hne]
    exact h

lemma state?_of_update {m m' : Manager J E} {k n : Nat} {st : JobState} (hst : st ≠ .queued)
    (states : m'.state? = Function.update m.state? k (some st)) (h : m'.state? n = some .queued) :
    n ≠ k ∧ m.state? n = some .queued := by
  rw [states] at h
  rcases eq_or_ne n k with rfl | hne
  · rw [Function.update_self, Option.some.injEq] at h
    exact absurd h hst
  · rw [Function.update_of_ne hne] at h
    exact ⟨hne, h⟩

/-- The head of the queue leaves it, and the others stay. -/
lemma head_or_behind {m m' : Manager J E} {w : Waiting J} {ws : List (Waiting J)}
    (head : m.queue = w :: ws) (queue : m'.queue = ws) :
    ∀ v ∈ m.queue, v.ticket = w.ticket ∨ v ∈ m'.queue := by
  intro v hv
  rw [queue]
  exact (List.mem_cons.mp (head ▸ hv)).imp_left (congrArg Waiting.ticket)

/-- Of the events of a start only the start itself is a call. -/
lemma ticket_eq_of_start {es : List Event} {tr : Transition} {t u : Ticket} {x : Outcome Unit}
    {y : Exchange} (told : ∀ e ∈ es, e.IsRemark)
    (h : .call t y ∈ .moved tr :: es ++ [.call u (.start x)]) : t = u := by
  simp only [List.cons_append, List.mem_cons, List.mem_append, reduceCtorEq, false_or,
    Event.call.injEq, List.not_mem_nil, or_false] at h
  exact h.elim (fun h => absurd (told _ h) id) And.left

namespace Represented

variable {as : List (Answer J)} {arriving : List (Waiting J)} {out : List Nat} {m m' : Manager J E}

lemma answer (h : Represented s as arriving out m) (a : Answer J) :
    Represented s (as ++ [a]) arriving out m where
  placed := h.placed
  called := h.called
  left n hn := (h.left n hn).imp_right (Drained.append [a])
  sound := h.sound

/-- Nothing changes its place, and only jobs are called that have left the queue. -/
lemma quiet (h : Represented s as arriving out m) (alike : Alike m m') (es : List Event)
    (past : m'.past = es ++ m.past) (new : ∀ t x, .call t x ∈ es → m.Begun t.number)
    (sound : ∀ o, m'.slot = some o → o.Sound s) : Represented s as arriving out m' where
  placed := h.placed.congr alike
  called t x hx := by
    show ∃ st, m'.state? t.number = some st ∧ st ≠ .queued
    rw [state?_congr alike.handles]
    rw [past] at hx
    exact (List.mem_append.mp hx).elim (new t x) (h.called t x)
  left n hn := by
    rw [state?_congr alike.handles] at hn
    simpa only [waiting, alike.queue] using h.left n hn
  sound := sound

lemma happen (h : Represented s as arriving out m) {e : Event} (he : e.IsTold) :
    Represented s as arriving out (m.happen e) := by
  refine h.quiet ⟨rfl, rfl, rfl⟩ [e] rfl ?_ h.sound
  rintro t x hx
  rw [← List.mem_singleton.mp hx] at he
  exact absurd he id

lemma attended (h : Represented s as arriving out m) {t : Ticket} {es : List Event}
    (begun : m.Begun t.number) (ha : Attended t es m m') : Represented s as arriving out m' := by
  refine h.quiet ha.alike es ha.past ?_ fun o ho => h.sound o (ha.slot ▸ ho)
  intro u x hx
  exact (ha.attends _ hx).ticket_eq rfl ▸ begun

lemma awaited (h : Represented s as arriving out m) {t : Ticket} {x : WaitOutcome}
    (begun : m.Begun t.number) (ha : Awaited t x m m') : Represented s as arriving out m' := by
  obtain ⟨es, past, told⟩ := ha.past
  refine h.quiet ha.alike _ (past.trans (List.append_cons ..)) ?_
    fun o ho => h.sound o (ha.slot ▸ ho)
  intro u y hy
  rcases List.mem_append.mp hy with hy | hy
  · exact absurd (told _ hy) id
  · simp only [List.mem_singleton, Event.call.injEq] at hy
    exact hy.1 ▸ begun

/-- The job in the slot, and those that were taken out of it, have left the queue. -/
lemma begun (h : Represented s as arriving out m) {n : Nat} (hn : n ∈ m.busy out) : m.Begun n :=
  ⟨.running, (h.placed.running_iff n).mpr hn, by simp⟩

/-- A submission leaves its place for another one, or for good, and only its job is called. -/
lemma moved (h : Represented s as arriving out m) {out' : List Nat} {u : Ticket} {st : JobState}
    (es : List Event) (placed : Placed m' arriving out')
    (states : m'.state? = Function.update m.state? u.number (some st)) (hst : st ≠ .queued)
    (queue : ∀ w ∈ m.queue, w.ticket = u ∨ w ∈ m'.queue) (past : m'.past = es ++ m.past)
    (new : ∀ t x, .call t x ∈ es → t = u) (sound : ∀ o, m'.slot = some o → o.Sound s) :
    Represented s as arriving out' m' where
  placed := placed
  called t x hx := by
    rw [past] at hx
    rcases List.mem_append.mp hx with hx | hx
    · exact ⟨st, by rw [states, new t x hx, Function.update_self], hst⟩
    · exact begun_of_update (h.called t x hx) states fun _ => hst
  left k hk := by
    -- a submission that is still queued is not the one that moved
    obtain ⟨hne, hk⟩ := state?_of_update hst states hk
    refine (h.left k hk).imp_left fun hw => ?_
    simp only [waiting, List.map_append, List.mem_append, List.mem_map] at hw ⊢
    rcases hw with ⟨w, hw, rfl⟩ | hw
    · exact .inl ⟨w, (queue w hw).resolve_left fun hu => hne (congrArg _ hu), rfl⟩
    · exact .inr hw
  sound := sound

/-- A locked section. -/
lemma advance (h : Represented s as arriving out m) (limit : 0 < s.config.statusErrorLimit.toNat)
    {d : Option Transition} (step : Advance s m d m') : Represented s as arriving out m' := by
  have hst := h.placed.state?_advance step
  have hpl := h.placed.advance step
  cases step with
  | rest es slot queue handles past told =>
    exact h.quiet ⟨by rw [slot], queue, handles⟩ es past (fun _ _ hx => absurd (told _ hx) id)
      fun o ho => h.sound o (slot ▸ ho)
  | @started w ws j n m' es free head slot queue handles past told =>
    refine h.moved (u := w.ticket) _ hpl hst (by simp) (head_or_behind head queue)
      (past.trans (List.append_cons ..)) (fun t x hx => ticket_eq_of_start told hx) ?_
    intro o ho
    obtain rfl := Option.some.inj (slot.symm.trans ho)
    exact ⟨fun _ => limit, by simp⟩
  | @startFailed w ws x reason n m' es free head slot queue handles past failed told =>
    exact h.moved (u := w.ticket) _ hpl hst (by simp) (head_or_behind head queue)
      (past.trans (List.append_cons ..)) (fun t x hx => ticket_eq_of_start told hx)
      (by simp [slot])
  | @kept o j n p es m' held next slot queue handles past attends =>
    have begun : m.Begun o.ticket.number := h.begun (by simp [busy, held])
    refine h.quiet ⟨by rw [slot, held]; rfl, queue, handles⟩ es past ?_ ?_
    · intro t x hx
      exact (attends _ hx).ticket_eq rfl ▸ begun
    · intro o' ho
      obtain rfl := Option.some.inj (slot.symm.trans ho)
      exact next.sound limit (h.sound o held) j
  | @released o e x d es n m' held slot queue handles past attends exited =>
    refine h.moved (u := o.ticket) _ hpl hst (by simp) (fun w hw => .inr (queue ▸ hw)) past ?_
      (by simp [slot])
    intro t y hy
    have hy : .call t y ∈ es := (List.mem_cons.mp hy).resolve_left (by simp)
    exact (attends _ hy).ticket_eq rfl

/-- A new submission is on its way to the queue. -/
lemma register (h : Represented s as arriving out m) {t : Ticket} (j : J)
    (ht : t.number = m.handles.length) :
    Represented s as (arriving ++ [⟨t, j⟩]) out (m.register s t) := by
  have hst : (m.register s t).state? = Function.update m.state? t.number (some .queued) := by
    rw [ht]
    exact state?_of_append (h := .fresh t.id t.label (m.now s)) rfl
  refine ⟨h.placed.register j ht, ?_, ?_, h.sound⟩
  · intro u x hx
    obtain ⟨st, hu, hne⟩ := h.called u x ((List.mem_cons.mp hx).resolve_left (by simp))
    refine begun_of_update ⟨st, hu, hne⟩ hst ?_
    -- a submission that was called had a handle before
    intro hk
    rw [← hk, ht, state?_eq_none_iff.mpr (Nat.le_refl _)] at hu
    cases hu
  · intro n hn
    rcases eq_or_ne n t.number with rfl | hne
    · exact .inl (by simp [waiting])
    · rw [hst, Function.update_of_ne hne] at hn
      refine (h.left n hn).imp_left ?_
      intro hw
      simp only [waiting, Manager.register, ← List.append_assoc, List.map_append] at hw ⊢
      exact List.mem_append_left _ hw

/-- A submission gets to the queue. -/
lemma enqueue {w : Waiting J} (h : Represented s as [w] out m) :
    Represented s as [] out (m.enqueue w) where
  placed := Placed.enqueue (a := []) h.placed
  called := h.called
  left n hn := by simpa only [waiting, Manager.enqueue, List.append_nil] using h.left n hn
  sound := h.sound

/-- The job in the slot is taken out of it. -/
lemma vacate (h : Represented s as arriving out m) {o : Occupant J} (held : m.slot = some o) :
    Represented s as arriving (o.ticket.number :: out) { m with slot := none } where
  placed := h.placed.vacate held
  called := h.called
  left := h.left
  sound := by simp

/-- A job that was taken out of the slot finishes. -/
lemma finish {o : Occupant J} (h : Represented s as arriving (o.ticket.number :: out) m)
    (e : Exit) : Represented s as arriving out (m.finish s o e).2 := by
  have hst : m.state? o.ticket.number = some .running :=
    (h.placed.running_iff _).mpr (by simp [busy])
  exact h.moved (u := o.ticket) [_] (Placed.finish (a := []) h.placed e)
    (state?_of_modify hst rfl) (by simp) (fun w hw => .inr hw) rfl (by simp) h.sound

/-- The queue is emptied, and what was in it is reported. -/
lemma drain (h : Represented s as [] out m) (terminated : Option JobId) :
    Represented s (as ++ [.report ⟨terminated, m.queue⟩]) [] out { m with queue := [] } where
  placed := h.placed.drain
  called := h.called
  left n hn := by
    refine .inr ?_
    rcases h.left n hn with hw | hd
    · simp only [waiting, List.append_nil, List.mem_map] at hw
      exact ⟨_, List.mem_append_right _ List.mem_cons_self, hw⟩
    · exact hd.append _
  sound := h.sound

end Represented

/-! ## Requests -/

lemma lasting_represented (limit : 0 < s.config.statusErrorLimit.toNat) (as : List (Answer J))
    (arriving : List (Waiting J)) (out : List Nat) :
    Lasting s (Represented (E := E) s as arriving out) where
  happen h he := h.happen he.isTold
  advance h step := h.advance limit step

section Requests

variable {as : List (Answer J)} {m m' : Manager J E} (limit : 0 < s.config.statusErrorLimit.toNat)

include limit

/-- Whatever was taken out of the slot before, no request but a stop takes out more. -/
lemma admitting_represented (as : List (Answer J)) (out : List Nat) :
    Admitting s fun arriving (m : Manager J E) => Represented s as arriving out m where
  lasting arriving := lasting_represented limit as arriving out
  pass h := ⟨h.placed, h.called, h.left, h.sound⟩
  register j h := h.register j rfl
  enqueue h := h.enqueue

/-- A stop that completes takes the job out of the slot, finishes it, and hands the queue back. -/
lemma represented_stopped (h : Represented s as [] [] m) {r : Report J} (stop : Stopped s m r m') :
    Represented s (as ++ [.report r]) [] [] m' := by
  cases stop with
  | idle free =>
    have hv : Represented s as [] [] { m with slot := none } := by
      refine h.quiet ⟨?_, rfl, rfl⟩ [] rfl (by simp) (by simp)
      rw [free]
    exact (hv.drain none).happen (e := .noted _) trivial
  | @ended o e es x m₁ m₂ m₃ held signalled awaited noPanic announced =>
    have hv := h.vacate held
    have h₁ := hv.attended (hv.begun (by simp [busy])) signalled
    have h₂ := h₁.awaited (h₁.begun (by simp [busy])) awaited
    have h₃ := (lasting_represented limit as [] []).announce (h₂.finish e) (m₂.finish s o e).1
    rw [← announced] at h₃
    exact (h₃.drain _).happen (e := .noted _) trivial

lemma represented_serve (h : Represented s as [] [] m) {r : Request J E} {a : Answer J}
    (hr : m.serve s r = (.ok a, m')) : Represented s (as ++ [a]) [] [] m' := by
  by_cases hstop : r = .stop
  · subst hstop
    obtain ⟨x, rfl, hx⟩ := stop_of_serve hr
    exact represented_stopped limit h hx
  · have served := (admitting_represented limit as []).serve h hstop
    rw [hr] at served
    exact served.answer a

end Requests

lemma represented_fresh (s : Setup J E) (env : E) : Represented s [] [] [] (.fresh env) where
  placed := .fresh env
  called := by simp [fresh]
  left := by simp [fresh, state?]
  sound := by simp [fresh]

/-- Between two requests nothing is on its way to the queue, and nothing is out of the slot. -/
theorem represented_of_served (valid : s.config.fault? = none) {env : E} {rs : List (Request J E)}
    {as : List (Answer J)} {m : Manager J E} (h : Served s (.fresh env) rs as m) :
    Represented s as [] [] m := by
  have limit := Config.statusErrorLimit_pos valid
  refine h.keeps (P := fun as m => Represented s as [] [] m) (represented_fresh s env) ?_
  intro as m r a m' hm hr
  exact represented_serve limit hm hr

/-- After every course of requests the slot, the queue and the handles agree. The handle that is
running is that of the job in the slot, so there is exactly one when the slot is occupied and none
when it is free. A queued job has a queued handle and was never called. Any other submission is
finished, or it is still queued and a stop has reported it as drained. The job in the slot has a
sound record. -/
theorem slot_queue_handles_agree {s : Setup J E} (valid : s.config.fault? = none) {env : E}
    {rs : List (Request J E)} {as : List (Answer J)} {m : Manager J E}
    (h : Served s (.fresh env) rs as m) :
    (m.slot.isSome ↔ ∃! n, m.state? n = some .running) ∧
      (∀ n, m.state? n = some .running ↔ ∃ o, m.slot = some o ∧ o.ticket.number = n) ∧
      (∀ w ∈ m.queue, m.state? w.ticket.number = some .queued ∧
        ∀ t x, .call t x ∈ m.history → t.number ≠ w.ticket.number) ∧
      (∀ n < m.handles.length, (∀ o, m.slot = some o → o.ticket.number ≠ n) →
        (∀ w ∈ m.queue, w.ticket.number ≠ n) →
        (∃ e, m.state? n = some (.finished e)) ∨ m.state? n = some .queued ∧ Drained as n) ∧
      ∀ o, m.slot = some o → o.Sound s := by
  have hm := represented_of_served valid h
  have running_iff : ∀ n,
      m.state? n = some .running ↔ ∃ o, m.slot = some o ∧ o.ticket.number = n := by
    intro n
    rw [hm.placed.running_iff]
    simp [busy]
  have mem_waiting : ∀ n, n ∈ m.waiting [] ↔ ∃ w ∈ m.queue, w.ticket.number = n := by
    simp [waiting]
  refine ⟨?_, running_iff, ?_, ?_, hm.sound⟩
  · constructor
    · intro ho
      obtain ⟨o, ho⟩ := Option.isSome_iff_exists.mp ho
      refine ⟨o.ticket.number, (running_iff _).mpr ⟨o, ho, rfl⟩, ?_⟩
      intro k hk
      obtain ⟨o', ho', rfl⟩ := (running_iff k).mp hk
      rw [Option.some.inj (ho.symm.trans ho')]
    · rintro ⟨n, hn, -⟩
      obtain ⟨o, ho, -⟩ := (running_iff n).mp hn
      exact Option.isSome_of_eq_some ho
  · intro w hw
    have hq := hm.placed.queued w.ticket.number ((mem_waiting _).mpr ⟨w, hw, rfl⟩)
    refine ⟨hq, ?_⟩
    intro t x hx heq
    obtain ⟨st, hst, hne⟩ := hm.called t x (by simpa [history] using hx)
    rw [heq, hq] at hst
    exact hne (Option.some.inj hst).symm
  · -- by the state of the handle: a running one has the slot, and a queued one was drained
    intro n hn hslot hqueue
    rcases hst : m.state? n with _ | st
    · exact absurd (state?_eq_none_iff.mp hst) (Nat.not_le.mpr hn)
    · cases st with
      | queued =>
        refine .inr ⟨rfl, (hm.left n hst).resolve_left ?_⟩
        intro hmem
        obtain ⟨w, hw, rfl⟩ := (mem_waiting n).mp hmem
        exact hqueue w hw rfl
      | running =>
        obtain ⟨o, ho, rfl⟩ := (running_iff n).mp hst
        exact absurd rfl (hslot o ho)
      | finished e => exact .inl ⟨e, rfl⟩

/-- One job is started and a second one queued, both when a stop comes; then a third one is started
and a fourth one queued. -/
def turnover : List (Request Worker Host) :=
  [.submit (.endless 1), .submit (.endless 2), .work] ++ [.stop] ++
    [.submit (.endless 3), .work, .submit (.endless 4)]

/-- After `turnover` exactly one handle is running, and the second job was drained. -/
theorem slot_queue_handles_agree_turnover : Setup.bare.config.fault? = none ∧
    ∃ as, Served .bare (.fresh {}) turnover as (after .bare (.fresh {}) turnover) ∧
      (∃! n, (after .bare (.fresh {}) turnover).state? n = some .running) ∧ Drained as 1 := by
  have valid : Setup.bare.config.fault? = none := by decide
  obtain ⟨as, h⟩ := served_of_noStop .bare (.fresh {})
    [.submit (.endless 1), .submit (.endless 2), .work] (by simp)
  rcases ha : (after .bare (.fresh {}) [.submit (.endless 1), .submit (.endless 2),
    .work]).serve .bare .stop with ⟨_ | a, m⟩
  · have completes : ((after .bare (.fresh {}) [.submit (.endless 1), .submit (.endless 2),
        .work]).serve .bare .stop).1.isOk = true := by cbv
    simp [ha, Except.isOk, Except.toBool] at completes
  obtain ⟨as', h'⟩ :=
    (h.snoc ha).extend [.submit (.endless 3), .work, .submit (.endless 4)] (by simp)
  rw [h'.eq_after] at h'
  change Served _ _ turnover _ (after .bare (.fresh {}) turnover) at h'
  have agree := slot_queue_handles_agree valid h'
  have slot : (after .bare (.fresh {}) turnover).slot.map (·.ticket.number) = some 2 :=
    of_decide_eq_true (by cbv)
  have queue : (after .bare (.fresh {}) turnover).queue.map (·.ticket.number) = [3] :=
    of_decide_eq_true (by cbv)
  have second : (after .bare (.fresh {}) turnover).state? 1 = some .queued :=
    of_decide_eq_true (by cbv)
  refine ⟨valid, _, h', agree.1.mp (by cbv), ?_⟩
  have notHeld : ∀ o, (after .bare (.fresh {}) turnover).slot = some o → o.ticket.number ≠ 1 := by
    intro o ho
    rw [ho, Option.map_some, Option.some.injEq] at slot
    omega
  have notQueued : ∀ w ∈ (after .bare (.fresh {}) turnover).queue, w.ticket.number ≠ 1 := by
    intro w hw
    have hmem : w.ticket.number ∈ [3] := queue ▸ List.mem_map.mpr ⟨w, hw, rfl⟩
    have heq := List.mem_singleton.mp hmem
    omega
  rcases agree.2.2.2.1 1 (of_decide_eq_true (by cbv)) notHeld notQueued with ⟨e, he⟩ | ⟨-, hd⟩
  · cases second.symm.trans he
  · exact hd

end Manager
end SerialJobs
