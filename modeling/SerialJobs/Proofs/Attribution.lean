import SerialJobs.Proofs.Departure

/-!
# Which exit a job is given

The exit of a finished submission is accounted for by the calls that were made on its job. If the
start failed, it is that failure. If a signal was delivered, it is the exit of the termination that
the signal was sent for. Otherwise a stop or the end of the manager has finished the job, or it is
the exit that the job has reported. `Attributed` says so of the list of calls, from which the
signals that were not delivered are left out: they do not count.

While a job has the slot, its calls and its docket go together (`Handled`), call by call.
-/

namespace SerialJobs

/-! ## The calls that count -/

/-- A signal that was not delivered. -/
def Exchange.IsVain : Exchange → Prop
  | .terminate _ x => x ≠ .ok ()
  | _ => False

instance : DecidablePred Exchange.IsVain := fun
  | .terminate _ x => inferInstanceAs (Decidable (x ≠ .ok ()))
  | .start _ | .tryExit _ | .wait _ => inferInstanceAs (Decidable False)

/-- The call, if it is one on the job of the given number and counts. -/
def Event.callOn? (n : Nat) : Event → Option Exchange
  | .call t x => if t.number = n ∧ ¬ x.IsVain then some x else none
  | _ => none

/-- A signal that was not delivered does not count. -/
lemma Event.callOn?_terminate {n : Nat} {t : Ticket} {c : KillCommand} {x : Outcome Unit}
    {e : JobError} (failed : x.guarded = .error e) :
    (Event.call t (.terminate c x)).callOn? n = none := by
  simp [callOn?, Exchange.IsVain, Outcome.ne_ok_of_guarded failed ()]

/-- The calls on the job of the given number that count among the given events, the latest of which
comes first. The earliest call comes first. -/
def callsIn (n : Nat) (es : List Event) : List Exchange := es.reverse.filterMap (Event.callOn? n)

section CallsIn

variable {n : Nat} {t : Ticket} {es l : List Event}

@[simp] lemma callsIn_nil : callsIn n [] = [] := rfl

@[simp] lemma callsIn_append : callsIn n (es ++ l) = callsIn n l ++ callsIn n es := by
  simp [callsIn]

lemma callsIn_cons (e : Event) : callsIn n (e :: es) = callsIn n es ++ (e.callOn? n).toList := by
  cases h : e.callOn? n <;> simp [callsIn, h]

/-- Events without a call on the job. -/
lemma callsIn_eq_nil (h : ∀ t x, .call t x ∈ es → t.number ≠ n) : callsIn n es = [] := by
  simp only [callsIn, List.filterMap_eq_nil_iff, List.mem_reverse]
  intro e he
  cases e with
  | call t x => simp [Event.callOn?, h t x he]
  | _ => rfl

lemma callsIn_of_told (h : ∀ e ∈ es, e.IsTold) : callsIn n es = [] :=
  callsIn_eq_nil fun _ _ ht => absurd (h _ ht) id

lemma callsIn_of_remarks (h : ∀ e ∈ es, e.IsRemark) : callsIn n es = [] :=
  callsIn_of_told fun e he => (h e he).isTold

lemma callsIn_of_attends (h : ∀ e ∈ es, e.Attends t) (hne : n ≠ t.number) : callsIn n es = [] := by
  refine callsIn_eq_nil ?_
  rintro u x hu rfl
  exact hne (congrArg Ticket.number ((h _ hu).ticket_eq rfl))

/-- The events of a start. -/
lemma callsIn_start {tr : Transition} {x : Outcome Unit} (told : ∀ e ∈ es, e.IsRemark) :
    callsIn n (.moved tr :: es ++ [.call t (.start x)]) =
      if t.number = n then [.start x] else [] := by
  have moved : callsIn n (.moved tr :: es) = [] := by
    rw [callsIn_cons, callsIn_of_remarks told]
    rfl
  rw [callsIn_append, moved]
  split_ifs with h <;> simp [callsIn, Event.callOn?, Exchange.IsVain, h]

lemma callsIn_waitCall (t : Ticket) (w : Option WaitOutcome) :
    callsIn n (Manager.waitCall t w) = if t.number = n then (w.map .wait).toList else [] := by
  cases w <;> split_ifs with h <;>
    simp [Manager.waitCall, callsIn, Event.callOn?, Exchange.IsVain, h]

end CallsIn

/-! ## What the calls account for -/

/-- The failed status checks in a row, or the error for which the job was given up. -/
inductive Tally
  | counting (errors : Nat)
  | givenUp (e : JobError)

/-- A status check that fails counts, and one that does not starts the count again. The job is given
up when the error is not transient or the limit is reached. -/
def Tally.next (limit : Nat) : Tally → Exchange → Tally
  | counting n, .tryExit x =>
    match x.guarded with
    | .ok _ => counting 0
    | .error e => if !e.isTransient || limit ≤ n + 1 then givenUp e else counting (n + 1)
  | k, _ => k

/-- The tally after the calls. -/
def tally (limit : Nat) (cs : List Exchange) : Tally := cs.foldl (Tally.next limit) (.counting 0)

/-- The exit of the termination for which a signal was delivered after the given calls: if the job
was given up before, then that it was unresponsive, and otherwise that it was killed by that
command. Only the signal of the manager itself, with the command of a timeout, is sent for a job
that was given up; a last signal still is a shutdown. -/
def stopExit (limit : Nat) (cs : List Exchange) (c : KillCommand) : Exit :=
  match c, tally limit cs with
  | .timeout, .givenUp e => .unresponsive e.message
  | c, _ => .killed c

/-- The exit `e` is accounted for by the calls `cs` on the job, where `taken` says that a stop or
the end of the manager took it out of the slot. -/
structure Attributed (limit : Nat) (cs : List Exchange) (taken : Prop) (e : Exit) : Prop where
  /-- Its start comes before all other calls. -/
  started : ∃ x l, cs = .start x :: l
  /-- Its start failed. -/
  startFailed : ∀ x f, .start x ∈ cs → x.guarded = .error f → e = .startFailed f.message
  /-- A signal was delivered, whatever is reported afterwards. -/
  stopped : ∀ l c l', cs = l ++ .terminate c (.ok ()) :: l' →
    (∀ c', .terminate c' (.ok ()) ∉ l) → e = stopExit limit l c
  /-- No signal was delivered, and a stop or the end of the manager finished it. -/
  shutDown : .start (.ok ()) ∈ cs → (∀ c, .terminate c (.ok ()) ∉ cs) → taken →
    e = .killed .shutdown
  /-- No signal was delivered, and it has exited. -/
  exited : .start (.ok ()) ∈ cs → (∀ c, .terminate c (.ok ()) ∉ cs) → ¬ taken →
    cs.getLast? = some (.tryExit (.ok (some e)))

section Attributed

variable {limit : Nat} {l : List Exchange} {e : Exit}

/-- No signal was delivered. -/
def Undelivered (l : List Exchange) : Prop := ∀ c, .terminate c (.ok ()) ∉ l

/-- The first delivered signal is where it is. -/
lemma eq_of_first_delivery {l₁ l₂ l₁' l₂' : List Exchange} {c c' : KillCommand}
    (eq : l₁ ++ .terminate c (.ok ()) :: l₂ = l₁' ++ .terminate c' (.ok ()) :: l₂')
    (h : Undelivered l₁) (h' : Undelivered l₁') : l₁' = l₁ ∧ c' = c := by
  rcases History.append_eq_split eq with ⟨b, rfl, -⟩ | ⟨a, ha, rfl⟩
  · exact absurd (by simp) (h c')
  · cases a with
    | nil =>
      simp only [List.nil_append, List.cons.injEq, Exchange.terminate.injEq] at ha
      exact ⟨List.append_nil _, ha.1.1.symm⟩
    | cons y a =>
      obtain ⟨rfl, -⟩ := List.cons.inj ha
      exact absurd (by simp) (h' c)

@[simp] lemma tally_append_singleton (x : Exchange) :
    tally limit (l ++ [x]) = (tally limit l).next limit x := by
  simp [tally]

@[simp] lemma tally_start_cons (x : Outcome Unit) : tally limit (.start x :: l) = tally limit l :=
  rfl

@[simp] lemma stopExit_start_cons (x : Outcome Unit) (c : KillCommand) :
    stopExit limit (.start x :: l) c = stopExit limit l c := by
  simp [stopExit]

lemma stopExit_counting {n : Nat} (h : tally limit l = .counting n) (c : KillCommand) :
    stopExit limit l c = .killed c := by
  cases c <;> simp [stopExit, h]

end Attributed

/-! ## While a job has the slot -/

/-- The calls `l` on the job since its start have led to the docket. -/
structure Handled (limit : Nat) (l : List Exchange) (d : Docket) : Prop where
  attends : ∀ x ∈ l, (∃ o, x = .tryExit o) ∨ ∃ c, x = .terminate c (.ok ())
  running : d.stop = none → Undelivered l ∧ tally limit l = .counting d.errors
  pending : ∀ p, d.stop = some p → p.signalled = false →
    Undelivered l ∧ p.command = .timeout ∧ p.exit = stopExit limit l .timeout
  signalled : ∀ p, d.stop = some p → p.signalled = true →
    ∃ l₁ c l₂, l = l₁ ++ .terminate c (.ok ()) :: l₂ ∧ Undelivered l₁ ∧ p.exit = stopExit limit l₁ c

lemma undelivered_append {l : List Exchange} {x : Outcome (Option Exit)} (h : Undelivered l) :
    Undelivered (l ++ [.tryExit x]) := by
  intro c hc
  simpa using (List.mem_append.mp hc).resolve_left (h c)

namespace Handled

variable {J E : Type} {s : Setup J E} {t : Ticket} {limit : Nat} {l : List Exchange} {d d' : Docket}

lemma start_notMem (h : Handled limit l d) (x : Outcome Unit) : .start x ∉ l := by
  intro hx
  simpa using h.attends _ hx

lemma wait_notMem (h : Handled limit l d) (x : WaitOutcome) : .wait x ∉ l := by
  intro hx
  simpa using h.attends _ hx

lemma start (limit : Nat) : Handled limit [] ⟨0, none⟩ where
  attends := by simp
  running _ := ⟨by simp [Undelivered], rfl⟩
  pending := by simp
  signalled := by simp

/-- A status check. -/
lemma attends_check (h : Handled limit l d) (x : Outcome (Option Exit)) :
    ∀ y ∈ l ++ [.tryExit x], (∃ o, y = .tryExit o) ∨ ∃ c, y = .terminate c (.ok ()) :=
  List.forall_mem_append.mpr ⟨h.attends, List.forall_mem_singleton.mpr (.inl ⟨x, rfl⟩)⟩

/-- After the check the job stays as it was, with the failed checks counted. -/
lemma check (h : Handled limit l d) (hd : d.stop = none) {x : Outcome (Option Exit)} {n : Nat}
    (counted : (Tally.counting d.errors).next limit (.tryExit x) = .counting n) :
    Handled limit (l ++ [.tryExit x]) ⟨n, none⟩ where
  attends := h.attends_check x
  running _ := by
    obtain ⟨undelivered, counting⟩ := h.running hd
    refine ⟨undelivered_append undelivered, ?_⟩
    rw [tally_append_singleton, counting, counted]
  pending := by simp
  signalled := by simp

/-- After the check the manager wants to terminate the job. -/
lemma doom (h : Handled limit l d) (hd : d.stop = none) {x : Outcome (Option Exit)} {e : Exit}
    (n : Nat) (doomed : stopExit limit (l ++ [.tryExit x]) .timeout = e) :
    Handled limit (l ++ [.tryExit x]) ⟨n, some ⟨.timeout, e, false⟩⟩ where
  attends := h.attends_check x
  running := by simp
  pending := by
    rintro p ⟨⟩ -
    exact ⟨undelivered_append (h.running hd).1, rfl, doomed.symm⟩
  signalled := by
    rintro p ⟨⟩ ⟨⟩

/-- A signal is delivered. -/
lemma deliver (h : Handled limit l d) {p : PendingStop} (pursues : d.Pursues p)
    (before : p.signalled = false) :
    Handled limit (l ++ [.terminate p.command (.ok ())]) (d.deliver p) where
  attends := by
    refine List.forall_mem_append.mpr ⟨h.attends, List.forall_mem_singleton.mpr ?_⟩
    exact .inr ⟨p.command, rfl⟩
  running := by simp [Docket.deliver]
  pending := by
    rintro q ⟨⟩ hq
    simp at hq
  signalled := by
    rintro q ⟨⟩ -
    refine ⟨l, p.command, [], rfl, ?_⟩
    rcases pursues with hp | ⟨hd, hp⟩
    · obtain ⟨undelivered, command, exit⟩ := h.pending p hp before
      exact ⟨undelivered, by rw [command]; exact exit⟩
    · obtain ⟨undelivered, counting⟩ := h.running hd
      refine ⟨undelivered, ?_⟩
      rw [stopExit_counting counting, hp]

/-- After the signal is delivered nothing that is reported matters. -/
lemma confirm (h : Handled limit l d) (delivered : d.Delivered) (x : Outcome (Option Exit)) :
    Handled limit (l ++ [.tryExit x]) d where
  attends := h.attends_check x
  running hd := by
    obtain ⟨p, hp, -⟩ := delivered
    simp [hd] at hp
  pending := by
    obtain ⟨p, hp, signalled⟩ := delivered
    intro q hq hs
    obtain rfl := Option.some.inj (hp.symm.trans hq)
    simp [signalled] at hs
  signalled p hp hs := by
    obtain ⟨l₁, c, l₂, rfl, undelivered, exit⟩ := h.signalled p hp hs
    exact ⟨l₁, c, l₂ ++ [.tryExit x], by simp, undelivered, exit⟩

/-- One call on the job, and what it makes of the docket. -/
lemma heed {es : List Event} (h : Handled s.config.statusErrorLimit.toNat l d)
    (step : Heed s t d es d') :
    Handled s.config.statusErrorLimit.toNat (l ++ callsIn t.number es) d' := by
  have checked : ∀ n x, callsIn t.number [.noted n, .call t (.tryExit x)] = [.tryExit x] := by
    simp [callsIn, Event.callOn?, Exchange.IsVain]
  cases step with
  | running hd =>
    have calls : callsIn t.number [.call t (.tryExit (.ok none))] = [.tryExit (.ok none)] := by
      simp [callsIn, Event.callOn?, Exchange.IsVain]
    rw [calls]
    exact h.check hd rfl
  | @erring x e hd failed transient below =>
    rw [checked]
    refine h.check hd ?_
    simp only [Tally.next, failed, transient]
    simpa using below
  | overdue hd =>
    rw [checked]
    refine h.doom hd 0 ?_
    rw [stopExit_counting (n := 0)]
    simp [(h.running hd).2, Tally.next, Outcome.guarded]
  | @unreadable x e hd failed last =>
    rw [checked]
    refine h.doom hd (d.errors + 1) ?_
    have givenUp : tally s.config.statusErrorLimit.toNat (l ++ [.tryExit x]) = .givenUp e := by
      simp only [tally_append_singleton, (h.running hd).2, Tally.next, failed]
      refine if_pos ?_
      simpa only [Bool.or_eq_true, Bool.not_eq_true', decide_eq_true_eq] using last
    simp [stopExit, givenUp]
  | @delivered p pursues before =>
    have calls : callsIn t.number [.audited (.killed t.id t.label p.command),
        .call t (.terminate p.command (.ok ()))] = [.terminate p.command (.ok ())] := by
      simp [callsIn, Event.callOn?, Exchange.IsVain]
    rw [calls]
    exact h.deliver pursues before
  | @undelivered p x e pursues before failed =>
    have calls : callsIn t.number [.noted (.signalFailed t.id (some p.command) e),
        .call t (.terminate p.command x)] = [] := by
      rw [callsIn_cons, callsIn_cons, Event.callOn?_terminate failed]
      rfl
    rw [calls, List.append_nil]
    exact h
  | @unconfirmed x n delivered remark alive =>
    rw [checked]
    exact h.confirm delivered x

/-- Calls on the job, and what they make of the docket. -/
theorem tend {es : List Event} (h : Handled s.config.statusErrorLimit.toNat l d)
    (tended : Tended s t d es d') :
    Handled s.config.statusErrorLimit.toNat (l ++ callsIn t.number es) d' := by
  induction tended with
  | refl => simpa using h
  | step past last ih =>
    rw [callsIn_append, ← List.append_assoc]
    exact ih.heed last

end Handled

/-! ## When a job is finished -/

section Finished

variable {limit : Nat} {l : List Exchange} {d : Docket} {e : Exit}

/-- The start of the job failed. -/
lemma attributed_startFailed {x : Outcome Unit} {f : JobError} (failed : x.guarded = .error f)
    (taken : Prop) : Attributed limit [.start x] taken (.startFailed f.message) where
  started := ⟨x, [], rfl⟩
  startFailed := by
    intro y g hy hg
    obtain rfl : y = x := by simpa using hy
    rw [failed] at hg
    rw [Except.error.inj hg]
  stopped := by
    intro l c l' eq
    simp [List.cons_eq_append_iff] at eq
  shutDown := by
    intro h
    obtain rfl : x = .ok () := by simpa [eq_comm] using h
    cases failed
  exited := by
    intro h
    obtain rfl : x = .ok () := by simpa [eq_comm] using h
    cases failed

/-- The job was started: either the first delivered signal accounts for its exit, or it was taken
out of the slot, or it has exited. -/
lemma attributed_of_started {taken : Prop} (once : ∀ x, .start x ∉ l)
    (h : (∃ l₁ c l₂, l = l₁ ++ .terminate c (.ok ()) :: l₂ ∧ Undelivered l₁ ∧
        e = stopExit limit l₁ c) ∨
      Undelivered l ∧ (taken ∧ e = .killed .shutdown ∨
        ¬ taken ∧ l.getLast? = some (.tryExit (.ok (some e))))) :
    Attributed limit (.start (.ok ()) :: l) taken e := by
  have startFailed : ∀ x f, .start x ∈ .start (.ok ()) :: l → x.guarded = .error f →
      e = .startFailed f.message := by
    intro x f hx hf
    rcases List.mem_cons.mp hx with hx | hx
    · cases hx
      cases hf
    · exact absurd hx (once x)
  have undelivered_cons : ∀ {l : List Exchange}, Undelivered l →
      Undelivered (.start (.ok ()) :: l) := by
    intro l hl c hc
    exact hl c ((List.mem_cons.mp hc).resolve_left (by simp))
  rcases h with ⟨l₁, c, l₂, rfl, undelivered, exit⟩ | ⟨undelivered, h⟩
  · have mem : .terminate c (.ok ()) ∈
        .start (.ok ()) :: (l₁ ++ .terminate c (.ok ()) :: l₂) := by simp
    refine ⟨⟨_, _, rfl⟩, startFailed, ?_, fun _ no => absurd mem (no c),
      fun _ no => absurd mem (no c)⟩
    intro l' c' l'' eq first
    obtain ⟨rfl, rfl⟩ := eq_of_first_delivery eq (undelivered_cons undelivered) first
    rw [exit, stopExit_start_cons]
  · refine ⟨⟨_, _, rfl⟩, startFailed, ?_, ?_, ?_⟩
    · intro l' c' l'' eq
      exact absurd (by simp [eq]) (undelivered_cons undelivered c')
    · intro _ _ taken
      rcases h with ⟨-, exit⟩ | ⟨no, -⟩
      · exact exit
      · exact absurd taken no
    · intro _ _ no
      rcases h with ⟨taken, -⟩ | ⟨-, last⟩
      · exact absurd taken no
      · rw [List.getLast?_cons, last, Option.getD_some]

/-- A status check has reported an exit while the job had the slot. -/
lemma Handled.attributed_exited (h : Handled limit l d) {x : Exit} (yields : d.Yields x e)
    {taken : Prop} (no : ¬ taken) :
    Attributed limit (.start (.ok ()) :: (l ++ [.tryExit (.ok (some x))])) taken e := by
  refine attributed_of_started ?_ ?_
  · intro y hy
    exact (List.mem_append.mp hy).elim (h.start_notMem y) (by simp)
  · rcases yields with ⟨hd, rfl⟩ | ⟨p, hp, signalled, rfl⟩
    · exact .inr ⟨undelivered_append (h.running hd).1, .inr ⟨no, by simp⟩⟩
    · obtain ⟨l₁, c, l₂, rfl, undelivered, exit⟩ := h.signalled p hp signalled
      exact .inl ⟨l₁, c, l₂ ++ [.tryExit (.ok (some x))], by simp, undelivered, exit⟩

lemma Handled.undelivered (h : Handled limit l d) (hd : ¬ d.Delivered) : Undelivered l := by
  rcases hp : d.stop with _ | p
  · exact (h.running hp).1
  · have before : p.signalled = false := by
      rw [Bool.eq_false_iff]
      exact fun signalled => hd ⟨p, hp, signalled⟩
    exact (h.pending p hp before).1

/-- The job was taken out of the slot and signalled for the last time, and then perhaps waited for.
-/
lemma Handled.attributed_shutDown {J : Type} {o : Occupant J} {x : Outcome Unit} {es : List Event}
    (h : Handled limit l o.docket) (last : Manager.LastSignal o x es e) (w : Option WaitOutcome)
    {taken : Prop} (yes : taken) :
    Attributed limit (.start (.ok ()) :: (l ++ callsIn o.ticket.number es ++
      callsIn o.ticket.number (Manager.waitCall o.ticket w))) taken e := by
  rw [callsIn_waitCall, if_pos rfl]
  have waits : ∀ y ∈ (w.map Exchange.wait).toList, ∃ r, y = .wait r := by
    cases w <;> simp
  have once : ∀ {cs : List Exchange}, (∀ y, .start y ∉ cs) →
      ∀ y, .start y ∉ l ++ cs ++ (w.map .wait).toList := by
    intro cs hcs y hy
    rcases List.mem_append.mp hy with hy | hy
    · exact (List.mem_append.mp hy).elim (h.start_notMem y) (hcs y)
    · obtain ⟨r, hr⟩ := waits _ hy
      cases hr
  cases last with
  | @before p hp delivered =>
    obtain ⟨l₁, c, l₂, rfl, undelivered, exit⟩ := h.signalled p hp delivered
    refine attributed_of_started (once (by simp)) (.inl ⟨l₁, c, l₂ ++ (w.map .wait).toList, ?_⟩)
    exact ⟨by simp, undelivered, exit⟩
  | delivered hnot ok =>
    subst ok
    have calls : callsIn o.ticket.number [.audited (.killed o.ticket.id o.ticket.label .shutdown),
        .call o.ticket (.terminate .shutdown (.ok ()))] = [.terminate .shutdown (.ok ())] := by
      simp [callsIn, Event.callOn?, Exchange.IsVain]
    rw [calls]
    refine attributed_of_started (once (by simp)) (.inl ⟨l, .shutdown, (w.map .wait).toList, ?_⟩)
    exact ⟨by simp, h.undelivered hnot, rfl⟩
  | @inVain f hnot failed =>
    have calls : callsIn o.ticket.number [.audited (.killed o.ticket.id o.ticket.label .shutdown),
        .noted (.signalFailed o.ticket.id none f), .call o.ticket (.terminate .shutdown x)] =
          [] := by
      rw [callsIn_cons, callsIn_cons, callsIn_cons, Event.callOn?_terminate failed]
      rfl
    rw [calls]
    refine attributed_of_started (once (by simp)) (.inr ⟨?_, .inl ⟨yes, rfl⟩⟩)
    intro c hc
    rw [List.append_nil] at hc
    rcases List.mem_append.mp hc with hc | hc
    · exact h.undelivered hnot c hc
    · obtain ⟨r, hr⟩ := waits _ hc
      cases hr

end Finished

end SerialJobs
