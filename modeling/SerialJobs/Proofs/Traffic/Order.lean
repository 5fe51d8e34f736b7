import SerialJobs.Proofs.Traffic

/-!
# The order in which states are announced

A locked section leaves a transition that its caller announces later, and in between another caller
may make and announce the next transition of the same submission. So the sink can be told that a job
has finished before it is told that it runs. This is the only way in which the states of a
submission get out of order: `in_order_iff` says that the announced states of every submission are
in order exactly when no move announces another state of a submission while its running state is
due.

The invariant is about one submission, its `Account`: the state of its handle, whether it was
started, and its states that were announced and that are due. `Account.Standing` lists the accounts
that there are as long as nothing was overtaken, and `Account.Late` those that there are afterwards.
-/

namespace SerialJobs

/-- What there is to a submission. -/
structure Account where
  /-- The state of its handle. -/
  state : Option JobState
  /-- It was started. -/
  ran : Bool
  /-- The states that were announced. -/
  told : List JobState
  /-- The states that are still to be announced. -/
  due : List JobState
deriving DecidableEq

namespace Account

/-- The accounts of submissions of which no state was overtaken by a later one. -/
inductive Standing : Account → Prop
  | absent : Standing ⟨none, false, [], []⟩
  | queued : Standing ⟨some .queued, false, [.queued], []⟩
  | started : Standing ⟨some .running, true, [.queued], [.running]⟩
  | running : Standing ⟨some .running, true, [.queued, .running], []⟩
  | ended (e : Exit) : Standing ⟨some (.finished e), true, [.queued], [.running, .finished e]⟩
  | ending (e : Exit) : Standing ⟨some (.finished e), true, [.queued, .running], [.finished e]⟩
  | finished (e : Exit) :
      Standing ⟨some (.finished e), true, [.queued, .running, .finished e], []⟩
  | failing (e : Exit) : Standing ⟨some (.finished e), false, [.queued], [.finished e]⟩
  | failed (e : Exit) : Standing ⟨some (.finished e), false, [.queued, .finished e], []⟩

/-- The accounts of submissions whose running state was overtaken. -/
inductive Late : Account → Prop
  | due (e : Exit) : Late ⟨some (.finished e), true, [.queued, .finished e], [.running]⟩
  | told (e : Exit) : Late ⟨some (.finished e), true, [.queued, .finished e, .running], []⟩

/-- What a move can do to an account, where `ahead` says that a state overtakes the running
state. -/
inductive Next (ahead : Prop) : Account → Account → Prop
  | same (a : Account) (no : ¬ ahead) : Next ahead a a
  | arrive {r : Bool} {ts ds : List JobState} (no : ¬ ahead) :
      Next ahead ⟨none, r, ts, ds⟩ ⟨some .queued, r, ts ++ [.queued], ds⟩
  | start {r : Bool} {ts ds : List JobState} (no : ¬ ahead) :
      Next ahead ⟨some .queued, r, ts, ds⟩ ⟨some .running, true, ts, ds ++ [.running]⟩
  | finish {st : JobState} {r : Bool} {ts ds : List JobState} (e : Exit) (no : ¬ ahead)
      (h : ∀ e', st ≠ .finished e') :
      Next ahead ⟨some st, r, ts, ds⟩ ⟨some (.finished e), r, ts, ds ++ [.finished e]⟩
  | publish {st : Option JobState} {r : Bool} {ts a b : List JobState} {q : JobState}
      (h : ahead ↔ q ≠ .running ∧ .running ∈ a ++ q :: b) :
      Next ahead ⟨st, r, ts, a ++ q :: b⟩ ⟨st, r, ts ++ [q], a ++ b⟩

/-- Announcing one of the states that are due. -/
lemma Standing.publish {ahead : Prop} {st : Option JobState} {r : Bool} {ts a b : List JobState}
    {q : JobState} (h : Standing ⟨st, r, ts, a ++ q :: b⟩)
    (hahead : ahead ↔ q ≠ .running ∧ .running ∈ a ++ q :: b) :
    (Standing ⟨st, r, ts ++ [q], a ++ b⟩ ∧ ¬ ahead) ∨
      (Late ⟨st, r, ts ++ [q], a ++ b⟩ ∧ ahead) := by
  rw [hahead]
  generalize hds : a ++ q :: b = ds at h ⊢
  cases h with
  | absent => simp at hds
  | queued => simp at hds
  | running => simp at hds
  | finished e => simp at hds
  | failed e => simp at hds
  | started =>
    obtain ⟨rfl, rfl, rfl⟩ := History.eq_of_append_cons_eq_singleton hds
    exact .inl ⟨.running, by simp⟩
  | ending e =>
    obtain ⟨rfl, rfl, rfl⟩ := History.eq_of_append_cons_eq_singleton hds
    exact .inl ⟨.finished e, by simp⟩
  | failing e =>
    obtain ⟨rfl, rfl, rfl⟩ := History.eq_of_append_cons_eq_singleton hds
    exact .inl ⟨.failed e, by simp⟩
  | ended e =>
    -- the only account with two states due: it matters which of them is announced
    rcases a with _ | ⟨c, a⟩
    · obtain ⟨rfl, rfl⟩ : q = .running ∧ b = [.finished e] := by simpa using hds
      exact .inl ⟨.ending e, by simp⟩
    · obtain ⟨rfl, htail⟩ := List.cons.inj hds
      obtain ⟨rfl, rfl, rfl⟩ := History.eq_of_append_cons_eq_singleton htail
      exact .inr ⟨.due e, by simp⟩

/-- A move keeps an account standing, unless by it a state overtakes the running state. -/
lemma Standing.next {ahead : Prop} {a b : Account} (h : Standing a) (step : Next ahead a b) :
    (Standing b ∧ ¬ ahead) ∨ (Late b ∧ ahead) := by
  cases step with
  | same _ no => exact .inl ⟨h, no⟩
  | arrive no =>
    cases h
    exact .inl ⟨.queued, no⟩
  | start no =>
    cases h
    exact .inl ⟨.started, no⟩
  | finish e no hst =>
    refine .inl ⟨?_, no⟩
    cases h with
    | queued => exact .failing e
    | started => exact .ended e
    | running => exact .ending e
    | ended e' => exact absurd rfl (hst e')
    | ending e' => exact absurd rfl (hst e')
    | finished e' => exact absurd rfl (hst e')
    | failing e' => exact absurd rfl (hst e')
    | failed e' => exact absurd rfl (hst e')
  | publish hahead => exact h.publish hahead

/-- What was overtaken stays so. -/
lemma Late.next {ahead : Prop} {a b : Account} (h : Late a) (step : Next ahead a b) : Late b := by
  cases step with
  | same _ no => exact h
  | arrive no => cases h
  | start no => cases h
  | finish e no hst => cases h <;> exact absurd rfl (hst _)
  | @publish st r ts a b q hahead =>
    generalize hds : a ++ q :: b = ds at h
    cases h with
    | due e =>
      obtain ⟨rfl, rfl, rfl⟩ := History.eq_of_append_cons_eq_singleton hds
      exact .told e
    | told e => simp at hds

/-- The announced states are queued, running and finished as far as they go, or queued and finished
if the start failed. -/
def InOrder (a : Account) : Prop :=
  ∃ e, a.told <+: [.queued, .running, .finished e] ∨
    (a.ran = false ∧ a.told <+: [.queued, .finished e])

lemma Standing.inOrder {a : Account} (h : Standing a) : a.InOrder := by
  cases h with
  | absent => exact ⟨.completed, .inl List.nil_prefix⟩
  | queued => exact ⟨.completed, .inl ⟨[_, _], rfl⟩⟩
  | started => exact ⟨.completed, .inl ⟨[_, _], rfl⟩⟩
  | running => exact ⟨.completed, .inl ⟨[_], rfl⟩⟩
  | ended e => exact ⟨e, .inl ⟨[_, _], rfl⟩⟩
  | ending e => exact ⟨e, .inl ⟨[_], rfl⟩⟩
  | finished e => exact ⟨e, .inl (List.prefix_refl _)⟩
  | failing e => exact ⟨e, .inr ⟨rfl, [_], rfl⟩⟩
  | failed e => exact ⟨e, .inr ⟨rfl, List.prefix_refl _⟩⟩

lemma Late.not_inOrder {a : Account} (h : Late a) : ¬ a.InOrder := by
  rintro ⟨e', hp | ⟨hr, -⟩⟩
  · cases h <;> simp [List.cons_prefix_cons] at hp
  · cases h <;> cases hr

/-- The queued state is announced first, whatever is overtaken. -/
lemma queued_first {a : Account} (h : Standing a ∨ Late a) :
    a.told = [] ∨ ∃ l, a.told = .queued :: l ∧ .queued ∉ l := by
  rcases h with h | h <;> cases h <;> simp

end Account

namespace Manager

variable {J E : Type} {s : Setup J E} {m m' : Manager J E}

/-- The submission was started: it has a time of its start. -/
def ran (m : Manager J E) (n : Nat) : Bool := (m.handles[n]?.bind (·.startedAt)).isSome

lemma ran_congr (handles : m'.handles = m.handles) : m'.ran = m.ran := by
  funext n
  simp only [ran, handles]

lemma ran_of_append {h : Handle} (handles : m'.handles = m.handles ++ [h])
    (new : h.startedAt = none) : m'.ran = m.ran := by
  funext n
  unfold ran
  rw [handles]
  rcases Nat.lt_trichotomy n m.handles.length with hn | rfl | hn
  · rw [List.getElem?_append_left hn]
  · simp [new]
  · rw [List.getElem?_eq_none (Nat.le_of_lt hn), List.getElem?_eq_none]
    rw [List.length_append]
    exact hn

/-- A handle that there is enters a state: it was started if it was before, or is now. -/
lemma ran_of_modify {n k : Nat} {st st' : JobState} (h : m.state? n = some st')
    (handles : m'.handles = m.handles.modify n (·.enter st k)) :
    m'.ran = Function.update m.ran n (decide (st = .running) || m.ran n) := by
  obtain ⟨a, ha, -⟩ := Option.map_eq_some_iff.mp h
  funext i
  rcases eq_or_ne i n with rfl | hne
  · cases st <;> simp [ran, handles, ha, Handle.enter]
  · simp [ran, handles, Function.update_of_ne hne, List.getElem?_modify_ne _ _ hne.symm]

/-- A submission's handle enters a state, and the transition is due then. -/
lemma next_of_modify {t : Transition} {k : Nat} {st : JobState}
    (hst : m.state? t.ticket.number = some st)
    (handles : m'.handles = m.handles.modify t.ticket.number (·.enter t.state k))
    (forward : (st = .queued ∧ t.state = .running) ∨
      (∀ e, st ≠ .finished e) ∧ ∃ e, t.state = .finished e) {ahead : Prop} (no : ¬ ahead) (n : Nat)
    (ts ds : List JobState) :
    Account.Next ahead ⟨m.state? n, m.ran n, ts, ds⟩
      ⟨m'.state? n, m'.ran n, ts, ds ++ statesOf [t] n⟩ := by
  rw [state?_of_modify hst handles, ran_of_modify hst handles, statesOf_singleton]
  rcases eq_or_ne n t.ticket.number with rfl | hne
  · rw [Function.update_self, Function.update_self, if_pos rfl, hst]
    rcases forward with ⟨rfl, ht⟩ | ⟨hf, e, ht⟩
    · rw [ht]
      exact .start no
    · rw [ht]
      exact .finish e no hf
  · rw [Function.update_of_ne hne, Function.update_of_ne hne, if_neg hne.symm, List.append_nil]
    exact .same _ no

/-- A locked section moves one submission on at most, and leaves its transition. -/
lemma next_of_advance {arriving : List (Waiting J)} {out : List Nat} (h : Placed m arriving out)
    {d : Option Transition} (step : Advance s m d m') {ahead : Prop} (no : ¬ ahead) (n : Nat)
    (ts ds : List JobState) :
    Account.Next ahead ⟨m.state? n, m.ran n, ts, ds⟩
      ⟨m'.state? n, m'.ran n, ts, ds ++ statesOf d.toList n⟩ := by
  cases step with
  | rest es slot queue handles past told =>
    rw [state?_congr handles, ran_congr handles]
    simpa [statesOf] using .same _ no
  | started es free head slot queue handles past told =>
    exact next_of_modify (t := ⟨_, .running, none⟩) (h.queued_head head) handles
      (.inl ⟨rfl, rfl⟩) no n ts ds
  | startFailed es free head slot queue handles past failed told =>
    exact next_of_modify (t := ⟨_, .finished _, none⟩) (h.queued_head head) handles
      (.inr ⟨by simp, _, rfl⟩) no n ts ds
  | kept held next slot queue handles past attends =>
    rw [state?_congr handles, ran_congr handles]
    simpa [statesOf] using .same _ no
  | released held slot queue handles past attends exited =>
    exact next_of_modify (t := ⟨_, .finished _, some _⟩) (h.running held) handles
      (.inr ⟨by simp, _, rfl⟩) no n ts ds

end Manager

namespace Traffic

open Manager

variable {J E : Type} {s : Setup J E} {x y : Traffic J E} {mv : Move J E}

/-- What there is to the submission with the given number. -/
def account (x : Traffic J E) (n : Nat) : Account :=
  ⟨x.manager.state? n, x.manager.ran n, statesOf x.told n, statesOf x.due n⟩

/-- The move announces another state of the submission while its running state is due. -/
def Overtakes (x : Traffic J E) (mv : Move J E) (n : Nat) : Prop :=
  ∃ t ∈ x.announces mv, t.ticket.number = n ∧ t.state ≠ .running ∧ .running ∈ statesOf x.due n

instance (x : Traffic J E) (mv : Move J E) (n : Nat) : Decidable (x.Overtakes mv n) :=
  inferInstanceAs (Decidable (∃ t ∈ x.announces mv,
    t.ticket.number = n ∧ t.state ≠ .running ∧ .running ∈ statesOf x.due n))

/-- A move takes every submission's account one step on. -/
lemma next_of_effect (hx : Placed x.manager x.arriving x.out) (effect : Effect s x mv y) (n : Nat) :
    Account.Next (x.Overtakes mv n) (x.account n) (y.account n) := by
  have quiet : x.announces mv = none → ¬ x.Overtakes mv n := by
    rintro h ⟨t, ht, -⟩
    simp [h] at ht
  have same : x.announces mv = none → y.manager.handles = x.manager.handles → y.told = x.told →
      y.due = x.due → Account.Next (x.Overtakes mv n) (x.account n) (y.account n) := by
    intro silent handles told due
    rw [account, account, state?_congr handles, ran_congr handles, told, due]
    exact .same _ (quiet silent)
  cases effect with
  | quiet leaves silent alike arriving due told out records =>
    exact same silent alike.handles told due
  | @arrive j y t number alike arriving due told out records =>
    have handles : y.manager.handles =
        x.manager.handles ++ [.fresh t.id t.label (x.manager.now s)] := alike.handles
    rw [account, account, state?_of_append handles, ran_of_append handles rfl, told, due,
      statesOf_append, statesOf_singleton, ← number]
    rcases eq_or_ne n t.number with rfl | hne
    · have hnew : x.manager.state? t.number = none :=
        state?_eq_none_iff.mpr (Nat.le_of_eq number.symm)
      rw [hnew, Function.update_self, if_pos rfl]
      exact .arrive (quiet rfl)
    · rw [Function.update_of_ne hne, if_neg hne.symm, List.append_nil]
      exact .same _ (quiet rfl)
  | push arriving alike arriving' due told out records => exact same rfl alike.handles told due
  | advance silent advance arriving due told out =>
    rw [account, account, told, due, statesOf_append]
    exact next_of_advance hx advance (quiet silent) n _ _
  | @publish i y a b t due place alike arriving due' told out records =>
    rw [account, account, state?_congr alike.handles, ran_congr alike.handles, told, due, due',
      statesOf_append, statesOf_append, statesOf_append, ← List.singleton_append, statesOf_append,
      statesOf_singleton]
    have ahead : x.Overtakes (.publish i) n ↔
        t.ticket.number = n ∧ t.state ≠ .running ∧ .running ∈ statesOf x.due n := by
      constructor
      · rintro ⟨u, hu, h⟩
        obtain rfl := Option.some.inj (place.symm.trans hu)
        exact h
      · exact fun h => ⟨t, place, h⟩
    by_cases hn : t.ticket.number = n
    · rw [if_pos hn]
      refine .publish ?_
      rw [ahead, due, statesOf_append, ← List.singleton_append, statesOf_append,
        statesOf_singleton, if_pos hn, List.singleton_append]
      exact and_iff_right hn
    · rw [if_neg hn, List.nil_append, List.append_nil]
      exact .same _ fun h => hn (ahead.mp h).1
  | take held manager arriving due told out => exact same rfl (by rw [manager]) told due
  | @finish i y a b o e m alike out manager arriving due told out' records =>
    have hst : m.state? o.ticket.number = some .running := by
      rw [state?_congr alike.handles]
      exact (hx.running_iff _).mpr (by simp [Manager.busy, out])
    rw [account, account, told, due, statesOf_append, manager, ← state?_congr alike.handles,
      ← ran_congr alike.handles]
    exact next_of_modify (t := (m.finish s o e).1) hst rfl (.inr ⟨by simp, e, rfl⟩) (quiet rfl)
      n _ _
  | drain alike arriving due told out records => exact same rfl alike.handles told due

/-- A submission stands as long as its running state was not overtaken, and is late afterwards. -/
theorem standing_or_late {env : E} {trail : List (Traffic J E × Move J E)}
    (h : Run s (fresh env) trail x) (n : Nat) :
    ((x.account n).Standing ∧ ∀ p ∈ trail, ¬ p.1.Overtakes p.2 n) ∨
      ((x.account n).Late ∧ ∃ p ∈ trail, p.1.Overtakes p.2 n) := by
  induction h with
  | nil => exact .inl ⟨.absent, by simp⟩
  | @snoc trail x y mv past last ih =>
    -- the last move overtakes, or it does not; once something is late it stays so
    have next := next_of_effect (placed_of_run past) (effect_of_step last) n
    rcases ih with ⟨standing, no⟩ | ⟨late, p, hp, ahead⟩
    · rcases standing.next next with ⟨standing, hno⟩ | ⟨late, hahead⟩
      · refine .inl ⟨standing, ?_⟩
        rw [List.forall_mem_append, List.forall_mem_singleton]
        exact ⟨no, hno⟩
      · exact .inr ⟨late, (x, mv), by simp, hahead⟩
    · exact .inr ⟨late.next next, p, List.mem_append_left _ hp, ahead⟩

/-- The states of a submission are announced in order exactly when no move of the run announces
another state of it while its running state is due. Its queued state comes first and once in any
case. A sink is told of the announced transitions and of nothing else, in the same order. -/
theorem in_order_iff {env : E} {trail : List (Traffic J E × Move J E)}
    (h : Run s (fresh env) trail x) :
    (∀ n, (x.account n).InOrder ↔ ∀ p ∈ trail, ¬ p.1.Overtakes p.2 n) ∧
      (∀ n, (x.account n).told = [] ∨ ∃ l, (x.account n).told = .queued :: l ∧ .queued ∉ l) ∧
      (s.sink.isSome → x.manager.records = x.told.map Transition.record) := by
  refine ⟨?_, ?_, fun sink => records_of_run sink h⟩
  · intro n
    rcases standing_or_late h n with ⟨standing, no⟩ | ⟨late, p, hp, ahead⟩
    · exact iff_of_true standing.inOrder no
    · exact iff_of_false late.not_inOrder fun hno => hno p hp ahead
  · intro n
    exact Account.queued_first ((standing_or_late h n).imp And.left And.left)

/-- Workers under a manager with a sink that does not call back. -/
def watched : Setup Worker Host := { Setup.bare with sink := some .silent }

/-- A job is started, and before that is announced another caller kills it. -/
def haste : List (Move Worker Host) :=
  [.arrive (.reporting 1 (.always (.ok (some .completed)))), .push 0, .tick,
    .kill (.ofNat 1) .cancel]

lemma not_inOrder_haste : ∃ trail x,
    follow watched (fresh {}) (haste ++ [.publish 1, .publish 0]) = some (trail, x) ∧
      Record.statesFor (.ofNat 1) x.manager.records =
        [.queued, .finished (.killed .cancel), .running] ∧ ¬ (x.account 0).InOrder := by
  have late : ((follow watched (fresh {}) (haste ++ [.publish 1, .publish 0])).map fun r =>
      (Record.statesFor (.ofNat 1) r.2.manager.records, r.2.account 0)) =
        some ([.queued, .finished (.killed .cancel), .running],
          ⟨some (.finished (.killed .cancel)), true,
            [.queued, .finished (.killed .cancel), .running], []⟩) := by decide
  obtain ⟨⟨trail, x⟩, hr, hx⟩ := Option.map_eq_some_iff.mp late
  obtain ⟨hrecords, haccount⟩ := Prod.mk.inj hx
  refine ⟨trail, x, hr, hrecords, Account.Late.not_inOrder ?_⟩
  rw [haccount]
  exact .told _

/-- After `haste` the states of the job are in order if its start is announced before its end, and
if its end is announced first, then it overtakes the start. -/
theorem in_order_iff_haste :
    (∃ trail x, follow watched (fresh {}) (haste ++ [.publish 0, .publish 0]) = some (trail, x) ∧
      (x.account 0).InOrder) ∧
    ∃ trail x, follow watched (fresh {}) (haste ++ [.publish 1, .publish 0]) = some (trail, x) ∧
      ∃ p ∈ trail, p.1.Overtakes p.2 0 := by
  constructor
  · have orderly : ((follow watched (fresh {}) (haste ++ [.publish 0, .publish 0])).map fun r =>
        decide (∀ p ∈ r.1, ¬ p.1.Overtakes p.2 0)) = some true := by decide
    obtain ⟨⟨trail, x⟩, hr, hno⟩ := Option.map_eq_some_iff.mp orderly
    have no : ∀ p ∈ trail, ¬ p.1.Overtakes p.2 0 := of_decide_eq_true hno
    exact ⟨trail, x, hr, ((in_order_iff (run_of_follow hr)).1 0).mpr no⟩
  · obtain ⟨trail, x, hr, -, hx⟩ := not_inOrder_haste
    refine ⟨trail, x, hr, ?_⟩
    by_contra hno
    simp only [not_exists, not_and] at hno
    exact hx (((in_order_iff (run_of_follow hr)).1 0).mpr hno)

/-- A sink can be told of a submission that it has finished, and then that it is running. -/
theorem running_recorded_after_finished : ∃ trail x,
    Run watched (fresh ({} : Host)) trail x ∧
      Record.statesFor (.ofNat 1) x.manager.records =
        [.queued, .finished (.killed .cancel), .running] ∧ ¬ (x.account 0).InOrder := by
  obtain ⟨trail, x, hr, hx⟩ := not_inOrder_haste
  exact ⟨trail, x, run_of_follow hr, hx⟩

end Traffic
end SerialJobs
