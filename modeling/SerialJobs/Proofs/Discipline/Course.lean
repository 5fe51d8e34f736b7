import SerialJobs.Proofs.Attribution.Course
import SerialJobs.Proofs.Discipline

/-!
# The calls of a course of requests

Whatever is requested of a manager, the calls that it makes on each job are allowed one after the
other. A submission that was not taken from the queue was not dealt with, and the dealings with the
job in the slot go with its docket (`Disciplined`). Every locked section keeps that and makes calls
that are allowed when a request is served; what else is allowed is for stops and for the end of the
manager. `call_discipline` has it for every request after any others.
-/

namespace SerialJobs

/-- The occasion of the calls that serve a request. -/
def Request.occasion {J E : Type} : Request J E → Occasion
  | .stop => .stop
  | _ => .service

namespace Manager

variable {J E : Type} {s : Setup J E} {m m' m'' : Manager J E} {o : Occupant J}
  {w : Option WaitOutcome} {e : Exit} {occasion : Occasion}

/-! ## The dealings with one job -/

/-- The dealings with the job of the given number, in order. -/
def dealings (m : Manager J E) (n : Nat) : List Dealing := dealingsIn n m.past

lemma dealings_of_past {es : List Event} (past : m'.past = es ++ m.past) (fresh : Afresh es)
    (n : Nat) : m'.dealings n = m.dealings n ++ dealingsIn n es := by
  rw [dealings, past, dealingsIn_append fresh, dealings]

/-- Nobody is called. -/
lemma dealings_of_told (es : List Event) (past : m'.past = es ++ m.past)
    (told : ∀ e ∈ es, e.IsTold) (fresh : Afresh es) (n : Nat) : m'.dealings n = m.dealings n := by
  rw [dealings_of_past past fresh, dealingsIn_of_told told, List.append_nil]

/-- That a handle enters a state is not a call. -/
lemma dealings_of_moved {t : Transition} (es : List Event)
    (past : m'.past = .moved t :: es ++ m.past) (fresh : Afresh es) (n : Nat) :
    m'.dealings n = m.dealings n ++ dealingsIn n es := by
  have moved : Afresh [.moved t] := rfl
  have none : dealingsIn n [.moved t] = [] := rfl
  rw [dealings_of_past past (fresh.append moved), ← List.singleton_append, dealingsIn_append moved,
    none, List.append_nil]

lemma dealings_of_entered {t : Transition} (past : m'.past = .moved t :: m.past) (n : Nat) :
    m'.dealings n = m.dealings n :=
  (dealings_of_moved [] past rfl n).trans (List.append_nil _)

lemma dealings_of_ne {es : List Event} {t : Ticket} {n : Nat} (past : m'.past = es ++ m.past)
    (fresh : Afresh es) (attends : ∀ e ∈ es, e.Attends t) (hne : n ≠ t.number) :
    m'.dealings n = m.dealings n := by
  rw [dealings_of_past past fresh, dealingsIn_of_attends attends hne, List.append_nil]

lemma LastSignal.afresh {x : Outcome Unit} {es : List Event} (h : LastSignal o x es e) :
    Afresh es := by
  cases h <;> simp [Afresh, Event.tellsOverdue]

/-- The dealings of a departure, besides the ones before. -/
lemma Departed.dealt (h : Departed s m o w e m') :
    ∃ es, LastSignal o (s.kind.terminate .shutdown o.job m.env).outcome es e ∧
      ∀ n, m'.dealings n =
        m.dealings n ++ dealingsIn n es ++ dealingsIn n (waitCall o.ticket w) := by
  obtain ⟨told, es, remarks, past, last, hTold, hRemarks⟩ := h.past
  have fresh : Afresh (waitCall o.ticket w) := by
    cases w <;> simp [waitCall, Afresh, Event.tellsOverdue]
  refine ⟨es, last, fun n => ?_⟩
  rw [List.append_assoc, List.append_assoc, List.append_assoc] at past
  rw [dealings, past, dealingsIn_append (afresh_of_remarks hTold), dealingsIn_append fresh,
    dealingsIn_append last.afresh, dealingsIn_append (afresh_of_remarks hRemarks),
    dealingsIn_of_remarks hTold, dealingsIn_of_remarks hRemarks, List.append_nil, List.append_nil]
  rfl

/-- No other job is called when a job departs. -/
lemma Departed.dealings_of_ne (h : Departed s m o w e m') {n : Nat} (hne : n ≠ o.ticket.number) :
    m'.dealings n = m.dealings n := by
  obtain ⟨es, last, dealt⟩ := h.dealt
  rw [dealt, dealingsIn_of_attends last.attends hne, dealingsIn_waitCall, if_neg hne.symm,
    List.append_nil, List.append_nil]

/-- From `m` to `m'` every job is called as is allowed on the given occasion. -/
def Deals (s : Setup J E) (occasion : Occasion) (m m' : Manager J E) : Prop :=
  ∀ n, Follows s.config.statusErrorLimit.toNat occasion (m.dealings n) (m'.dealings n)

namespace Deals

lemma of_eq (h : ∀ n, m'.dealings n = m.dealings n) : Deals s occasion m m' := by
  intro n
  rw [h]
  exact .refl

lemma trans (h : Deals s occasion m m') (h' : Deals s occasion m' m'') : Deals s occasion m m'' :=
  fun n => (h n).trans (h' n)

lemma of_service (h : Deals s .service m m') (occasion : Occasion) : Deals s occasion m m' :=
  fun n => (h n).of_service occasion

/-- One job is called. -/
lemma one {k : Nat}
    (own : Follows s.config.statusErrorLimit.toNat occasion (m.dealings k) (m'.dealings k))
    (others : ∀ n, n ≠ k → m'.dealings n = m.dealings n) : Deals s occasion m m' := by
  intro n
  rcases eq_or_ne n k with rfl | hne
  · exact own
  · rw [others n hne]
    exact .refl

end Deals

/-! ## What holds at every moment -/

/-- Jobs that were not taken from the queue were not dealt with, and the dealings with the job in
the slot have led to its docket. -/
structure Disciplined (s : Setup J E) (arriving : List (Waiting J)) (m : Manager J E) : Prop where
  placed : ∃ out, Placed m arriving out
  unmet : ∀ n, (∀ st, m.state? n = some st → st = .queued) → m.dealings n = []
  held : ∀ o, m.slot = some o →
    Dealt s.config.statusErrorLimit.toNat (m.dealings o.ticket.number) o.docket

namespace Disciplined

variable {arriving arriving' : List (Waiting J)}

lemma fresh (s : Setup J E) (env : E) : Disciplined s [] (.fresh env) where
  placed := ⟨[], .fresh env⟩
  unmet _ _ := rfl
  held := by simp [Manager.fresh]

/-- No job is called, and no handle changes. -/
lemma quiet (h : Disciplined s arriving m) (placed : ∃ out, Placed m' arriving' out)
    (dealings : ∀ n, m'.dealings n = m.dealings n) (handles : m'.handles = m.handles)
    (slot : ∀ o, m'.slot = some o → m.slot = some o) : Disciplined s arriving' m' where
  placed := placed
  unmet n hn := by
    rw [state?_congr handles] at hn
    rw [dealings]
    exact h.unmet n hn
  held o ho := by
    rw [dealings]
    exact h.held o (slot o ho)

/-- One job is called that is not queued any more, and no other handle changes. -/
lemma move (h : Disciplined s arriving m) {k : Nat} {st : JobState}
    (placed : ∃ out, Placed m' arriving' out)
    (states : m'.state? = Function.update m.state? k (some st)) (hst : st ≠ .queued)
    (others : ∀ n, n ≠ k → m'.dealings n = m.dealings n)
    (held : ∀ o, m'.slot = some o →
      Dealt s.config.statusErrorLimit.toNat (m'.dealings o.ticket.number) o.docket) :
    Disciplined s arriving' m' where
  placed := placed
  unmet n hn := by
    rw [states] at hn
    rcases eq_or_ne n k with rfl | hne
    · exact absurd (hn st (Function.update_self ..)) hst
    · rw [Function.update_of_ne hne] at hn
      rw [others n hne]
      exact h.unmet n hn
  held := held

/-- The head of the queue is called to start, whatever comes of it. -/
lemma launch (h : Disciplined s arriving m) {v : Waiting J} {vs : List (Waiting J)}
    (head : m.queue = v :: vs) {t : Transition} {es : List Event} {x : Outcome Unit}
    (past : m'.past = .moved t :: es ++ .call v.ticket (.start x) :: m.past)
    (told : ∀ e ∈ es, e.IsRemark) :
    m.dealings v.ticket.number = [] ∧ m'.dealings v.ticket.number = [⟨.start x, false⟩] ∧
      ∀ n, n ≠ v.ticket.number → m'.dealings n = m.dealings n := by
  obtain ⟨out, placed⟩ := h.placed
  have before : m.dealings v.ticket.number = [] := by
    refine h.unmet _ fun st hst => ?_
    rw [placed.queued_head head] at hst
    exact (Option.some.inj hst).symm
  have dealt : ∀ n, m'.dealings n =
      m.dealings n ++ if v.ticket.number = n then [⟨.start x, false⟩] else [] := by
    intro n
    rw [dealings_of_moved (es ++ [.call v.ticket (.start x)])
      (past.trans (List.append_cons ..)) (afresh_append_call _),
      dealingsIn_call (fun e he => (told e he).isTold) (afresh_of_remarks told)]
  refine ⟨before, ?_, ?_⟩
  · rw [dealt, before, if_pos rfl, List.nil_append]
  · intro n hn
    rw [dealt, if_neg hn.symm, List.append_nil]

/-- A locked section calls one job at most, as is allowed. -/
theorem advance (h : Disciplined s arriving m) {d : Option Transition} (step : Advance s m d m') :
    Disciplined s arriving m' ∧ Deals s .service m m' := by
  obtain ⟨out, placed⟩ := h.placed
  have placed' : ∃ out, Placed m' arriving out := ⟨out, placed.advance step⟩
  have states := placed.state?_advance step
  cases step with
  | rest es slot queue handles past told =>
    have same := dealings_of_told _ past (fun e he => (told e he).isTold) (afresh_of_remarks told)
    exact ⟨h.quiet placed' same handles fun o ho => slot ▸ ho, .of_eq same⟩
  | started es free head slot queue handles past told =>
    obtain ⟨before, own, others⟩ := h.launch head past told
    refine ⟨h.move placed' states (by simp) others ?_, .one ?_ others⟩
    · intro o ho
      obtain rfl := Option.some.inj (slot.symm.trans ho)
      rw [own]
      exact .start _
    · rw [before, own]
      exact .single (y := ⟨.start _, false⟩) (allowed_start ..)
  | startFailed es free head slot queue handles past failed told cause =>
    obtain ⟨before, own, others⟩ := h.launch head past told
    refine ⟨h.move placed' states (by simp) others (by simp [slot]), .one ?_ others⟩
    rw [before, own]
    exact .single (y := ⟨.start _, false⟩) (allowed_start ..)
  | @kept o j n p es m' held next slot queue handles past attends tended =>
    obtain ⟨follows, dealt⟩ := (h.held o held).tend tended
    have own := dealings_of_past past tended.afresh o.ticket.number
    have others : ∀ k, k ≠ o.ticket.number → m'.dealings k = m.dealings k := fun k =>
      dealings_of_ne past tended.afresh attends
    have running : m'.state? = Function.update m.state? o.ticket.number (some .running) := by
      rw [← placed.running held, Function.update_eq_self]
      exact states
    refine ⟨h.move placed' running (by simp) others ?_, .one (own ▸ follows) others⟩
    intro o' ho
    obtain rfl := Option.some.inj (slot.symm.trans ho)
    exact own ▸ dealt
  | @released o e x d es n m' held slot queue handles past attends exited yielded =>
    obtain ⟨fresh, follows⟩ := (h.held o held).exited yielded
    have dealt := dealings_of_moved _ past fresh
    have others : ∀ k, k ≠ o.ticket.number → m'.dealings k = m.dealings k := by
      intro k hk
      rw [dealt, dealingsIn_of_attends attends hk, List.append_nil]
    exact ⟨h.move placed' states (by simp) others (by simp [slot]),
      .one (dealt o.ticket.number ▸ follows) others⟩

/-- A new submission has not been dealt with. -/
lemma register (h : Disciplined s [] m) (j : J) :
    Disciplined s [⟨m.nextTicket s j, j⟩] (m.register s (m.nextTicket s j)) := by
  have same : ∀ n, (m.register s (m.nextTicket s j)).dealings n = m.dealings n := fun n =>
    dealings_of_entered rfl n
  have states : (m.register s (m.nextTicket s j)).state? =
      Function.update m.state? m.handles.length (some .queued) :=
    state?_of_append (h := .fresh (m.nextTicket s j).id (m.nextTicket s j).label (m.now s)) rfl
  obtain ⟨out, placed⟩ := h.placed
  refine ⟨⟨out, placed.register j rfl⟩, ?_, ?_⟩
  · intro n hn
    rw [same]
    refine h.unmet n fun st hst => ?_
    have hne : n ≠ m.handles.length := by
      rintro rfl
      rw [state?_eq_none_iff.mpr (Nat.le_refl _)] at hst
      cases hst
    rw [states, Function.update_of_ne hne] at hn
    exact hn st hst
  · intro o ho
    rw [same]
    exact h.held o ho

/-- A job that departs is called as is allowed, a wait only on the occasion of a stop. -/
lemma depart (h : Disciplined s [] m) (departed : Departed s m o w e m')
    (hocc : occasion ≠ .service) (waits : w.isSome → occasion = .stop) :
    Disciplined s [] m' ∧ Deals s occasion m m' := by
  obtain ⟨out, placed⟩ := h.placed
  obtain ⟨es, last, dealt⟩ := departed.dealt
  obtain ⟨follows, ongoing⟩ := (h.held o departed.held).signalLast last hocc
  have running : m'.state? = Function.update m.state? o.ticket.number (some .running) := by
    rw [← placed.running departed.held, Function.update_eq_self]
    exact state?_congr departed.handles
  have others : ∀ n, n ≠ o.ticket.number → m'.dealings n = m.dealings n := fun n =>
    departed.dealings_of_ne
  refine ⟨h.move ⟨_, departed.placed placed⟩ running (by simp) others (by simp [departed.slot]),
    .one ?_ others⟩
  rw [dealt, dealingsIn_waitCall, if_pos rfl]
  cases w with
  | none => simpa using follows
  | some x =>
    obtain rfl := waits rfl
    exact follows.snoc (ongoing.allowed_wait x)

/-- That a job which has departed is finished is not a call. -/
lemma finish (h : Disciplined s [] m) (departed : Departed s m o w e m')
    (h' : Disciplined s [] m') : Disciplined s [] (m'.finish s o e).2 := by
  obtain ⟨out, placed⟩ := h.placed
  have placed' := departed.placed placed
  have running : m'.state? o.ticket.number = some .running :=
    (placed'.running_iff _).mpr (by simp [busy])
  have same : ∀ n, (m'.finish s o e).2.dealings n = m'.dealings n := fun n =>
    dealings_of_entered rfl n
  refine h'.move ⟨_, Placed.finish (a := []) placed' e⟩ (state?_of_modify running rfl) (by simp)
    (fun n _ => same n) ?_
  intro o' ho
  rw [show (m'.finish s o e).2.slot = none from departed.slot] at ho
  cases ho

end Disciplined

/-- Since `m₀` every job was called as is allowed on the given occasion. -/
def Since (s : Setup J E) (occasion : Occasion) (m₀ : Manager J E) (arriving : List (Waiting J))
    (m : Manager J E) : Prop :=
  Disciplined s arriving m ∧ Deals s occasion m₀ m

variable {m₀ : Manager J E}

/-- Everything that serves a request makes calls that are allowed on any occasion. -/
lemma admitting_since (s : Setup J E) (occasion : Occasion) (m₀ : Manager J E) :
    Admitting s (Since s occasion m₀) where
  lasting _ :=
    { happen := by
        rintro m e ⟨h, deals⟩ news
        have same : ∀ n, (m.happen e).dealings n = m.dealings n :=
          dealings_of_told [e] rfl (List.forall_mem_singleton.mpr news.isTold)
            (afresh_of_forall (List.forall_mem_singleton.mpr news.not_tellsOverdue))
        obtain ⟨out, placed⟩ := h.placed
        exact ⟨h.quiet ⟨out, placed.congr ⟨rfl, rfl, rfl⟩⟩ same rfl fun _ ho => ho,
          deals.trans (.of_eq same)⟩
      advance := by
        rintro m m' t ⟨h, deals⟩ step
        obtain ⟨h', allowed⟩ := h.advance step
        exact ⟨h', deals.trans (allowed.of_service occasion)⟩ }
  pass := by
    rintro arriving m env ⟨h, deals⟩
    obtain ⟨out, placed⟩ := h.placed
    exact ⟨h.quiet ⟨out, placed.congr ⟨rfl, rfl, rfl⟩⟩ (fun _ => rfl) rfl fun _ ho => ho, deals⟩
  register := by
    rintro m j ⟨h, deals⟩
    refine ⟨h.register j, deals.trans (.of_eq fun n => ?_)⟩
    exact dealings_of_entered rfl n
  enqueue := by
    rintro m w ⟨h, deals⟩
    obtain ⟨out, placed⟩ := h.placed
    exact ⟨h.quiet ⟨out, Placed.enqueue (a := []) placed⟩ (fun _ => rfl) rfl fun _ ho => ho, deals⟩

lemma Since.drain (h : Since s occasion m₀ [] m) :
    Since s occasion m₀ [] { m with queue := [] } := by
  obtain ⟨disciplined, deals⟩ := h
  obtain ⟨out, placed⟩ := disciplined.placed
  exact ⟨disciplined.quiet ⟨out, placed.drain⟩ (fun _ => rfl) rfl fun _ ho => ho, deals⟩

lemma Since.depart (h : Since s occasion m₀ [] m) (departed : Departed s m o w e m')
    (hocc : occasion ≠ .service) (waits : w.isSome → occasion = .stop) :
    Since s occasion m₀ [] m' ∧ Since s occasion m₀ [] (m'.finish s o e).2 := by
  obtain ⟨disciplined, deals⟩ := h
  obtain ⟨left, called⟩ := disciplined.depart departed hocc waits
  have finished : Deals s occasion m' (m'.finish s o e).2 := .of_eq fun n =>
    dealings_of_entered rfl n
  exact ⟨⟨left, deals.trans called⟩, disciplined.finish departed left,
    (deals.trans called).trans finished⟩

/-- Everything that requests are made of makes calls that are allowed when a stop is served. -/
lemma abiding_since (s : Setup J E) (m₀ : Manager J E) : Abiding s (Since s .stop m₀) where
  toAdmitting := admitting_since s .stop m₀
  depart h departed := (h.depart departed (by simp) fun _ => rfl).1
  finish h departed := (h.depart departed (by simp) fun _ => rfl).2
  drain h := h.drain

lemma since_serve (h : Disciplined s [] m) (r : Request J E) :
    Since s r.occasion m [] (m.serve s r).2 := by
  by_cases hr : r = .stop
  · subst hr
    exact (abiding_since s m).serve ⟨h, .of_eq fun _ => rfl⟩ .stop
  · have service : r.occasion = .service := by
      cases r with
      | stop => exact absurd rfl hr
      | _ => rfl
    rw [service]
    exact (admitting_since s .service m).serve ⟨h, .of_eq fun _ => rfl⟩ hr

lemma since_drop (h : Disciplined s [] m) : Since s .drop m [] (m.drop s) := by
  have start : Since s .drop m [] m := ⟨h, .of_eq fun _ => rfl⟩
  have dropped := dropped_drop s m
  generalize m.drop s = m' at dropped
  cases dropped with
  | idle free => exact start.drain
  | ended departed =>
    have finished := (start.depart departed (by simp) (by simp)).2
    exact (((admitting_since s .drop m).lasting []).announceLast finished _).drain

theorem since_after (s : Setup J E) (env : E) (rs : List (Request J E)) :
    Since s .stop (.fresh env) [] (after s (.fresh env) rs) :=
  (abiding_since s _).after ⟨.fresh s env, .of_eq fun _ => rfl⟩ rs

/-! ## Submissions that were drained -/

/-- The submission of the given number is queued as far as its handle says, but it does not wait any
more. -/
def Withdrawn (k : Nat) (arriving : List (Waiting J)) (m : Manager J E) : Prop :=
  (∃ out, Placed m arriving out) ∧ m.state? k = some .queued ∧ k ∉ m.waiting arriving

/-- A locked section moves no submission that was withdrawn. -/
lemma Withdrawn.advance {k : Nat} {arriving : List (Waiting J)} (h : Withdrawn k arriving m)
    {d : Option Transition} (step : Advance s m d m') : Withdrawn k arriving m' := by
  obtain ⟨⟨out, placed⟩, queued, away⟩ := h
  refine ⟨⟨out, placed.advance step⟩, ?_, ?_⟩
  · have head : ∀ {w : Waiting J} {ws : List (Waiting J)}, m.queue = w :: ws →
        k ≠ w.ticket.number := by
      rintro w ws hw rfl
      exact away (by simp [waiting, hw])
    have states := placed.state?_advance step
    cases step with
    | rest es slot queue handles past told => rw [states]; exact queued
    | started es free hw slot queue handles past told =>
      rw [states]
      exact (Function.update_of_ne (head hw) ..).trans queued
    | startFailed es free hw slot queue handles past failed told =>
      rw [states]
      exact (Function.update_of_ne (head hw) ..).trans queued
    | kept held next slot queue handles past attends => rw [states]; exact queued
    | @released o e x d es n m' held slot queue handles past attends exited =>
      have hne : k ≠ o.ticket.number := by
        rintro rfl
        simp [placed.running held] at queued
      rw [states]
      exact (Function.update_of_ne hne ..).trans queued
  · intro hk
    refine away ?_
    have waits := step.queue_suffix.subset
    simp only [waiting, List.map_append, List.mem_append, List.mem_map] at hk ⊢
    rcases hk with ⟨w, hw, eq⟩ | hw
    · exact .inl ⟨w, waits hw, eq⟩
    · exact .inr hw

/-- No other handle than that of a busy submission is touched when a job is finished. -/
lemma Withdrawn.finish {k : Nat} (h : Withdrawn k [] m) (departed : Departed s m o w e m') :
    Withdrawn k [] m' ∧ Withdrawn k [] (m'.finish s o e).2 := by
  obtain ⟨⟨out, placed⟩, queued, away⟩ := h
  have placed' := departed.placed placed
  have running : m'.state? o.ticket.number = some .running :=
    (placed'.running_iff _).mpr (by simp [busy])
  have queued' : m'.state? k = some .queued := by
    rw [state?_congr departed.handles]
    exact queued
  have away' : k ∉ m'.waiting [] := by
    rw [waiting, departed.queue]
    exact away
  have hne : k ≠ o.ticket.number := by
    rintro rfl
    simp [running] at queued'
  refine ⟨⟨⟨_, placed'⟩, queued', away'⟩, ⟨_, Placed.finish (a := []) placed' e⟩, ?_, away'⟩
  rw [state?_of_modify running rfl]
  exact (Function.update_of_ne hne ..).trans queued'

lemma lifelong_withdrawn (s : Setup J E) (k : Nat) :
    Lifelong s (Withdrawn k : List (Waiting J) → Manager J E → Prop) where
  lasting _ :=
    { happen := fun ⟨⟨out, h⟩, hk⟩ _ => ⟨⟨out, h.congr ⟨rfl, rfl, rfl⟩⟩, hk⟩
      advance := fun h step => h.advance step }
  pass := fun ⟨⟨out, h⟩, hk⟩ => ⟨⟨out, h.congr ⟨rfl, rfl, rfl⟩⟩, hk⟩
  register {m} j := by
    rintro ⟨⟨out, h⟩, queued, away⟩
    have hlt : k ≠ m.handles.length := by
      rintro rfl
      rw [state?_eq_none_iff.mpr (Nat.le_refl _)] at queued
      cases queued
    refine ⟨⟨out, h.register j rfl⟩, ?_, ?_⟩
    · rw [state?_of_append (m := m) (h := .fresh (m.nextTicket s j).id (m.nextTicket s j).label
        (m.now s)) rfl]
      exact (Function.update_of_ne hlt ..).trans queued
    · simpa [waiting, Manager.register, nextTicket, hlt] using away
  enqueue := fun ⟨⟨out, h⟩, queued, away⟩ =>
    ⟨⟨out, Placed.enqueue (a := []) h⟩, queued, by simpa [waiting, enqueue] using away⟩
  depart h departed := (h.finish departed).1
  finish h departed := (h.finish departed).2
  drain := fun ⟨⟨out, h⟩, queued, _⟩ => ⟨⟨out, h.drain⟩, queued, by simp [waiting]⟩
  ends h departed := (h.finish departed).2

/-- A stop withdraws what it drains. -/
lemma withdrawn_of_stop {out : List Nat} (placed : Placed m [] out) {r : Report J}
    (hr : (m.stop s).1 = .ok r) {v : Waiting J} (hv : v ∈ r.drained) :
    Withdrawn v.ticket.number [] (m.stop s).2 := by
  have drained : ∀ {m' : Manager J E} {out : List Nat} {d : Diagnostic}, Placed m' [] out →
      v ∈ m'.queue →
        Withdrawn v.ticket.number [] (({ m' with queue := [] } : Manager J E).note d) :=
    fun {m' out d} placed hv => ⟨⟨out, placed.drain.congr ⟨rfl, rfl, rfl⟩⟩,
      placed.queued _ (by simpa [waiting] using ⟨v, hv, rfl⟩), by simp [waiting]⟩
  have halted := halted_stop s m
  generalize (m.stop s).1 = x, (m.stop s).2 = m' at halted hr
  cases halted with
  | idle free =>
    obtain rfl := Except.ok.inj hr
    exact drained placed hv
  | @ended o x e m₁ m₂ departed ends announced =>
    obtain rfl := Except.ok.inj hr
    have finished := Placed.finish (s := s) (a := []) (departed.placed placed) e
    obtain ⟨out', placed₂⟩ := ((abiding_placed s).lasting []).announce ⟨_, finished⟩
      (m₁.finish s o e).1
    exact drained (announced ▸ placed₂) hv
  | broken departed panics => cases hr

/-! ## Every call -/

/-- After any requests, the calls made on every job have been allowed one after the other, and so
are those that the next request makes, as a stop or another request, and those that the end of the
manager makes. The job in the slot has a termination pending exactly if it is doomed and was not
sent a signal that was delivered. A submission whose handle is still queued has received no call,
and neither has one that a stop has drained. -/
theorem call_discipline (s : Setup J E) (env : E) {rs : List (Request J E)}
    (run : Reached s (.fresh env) rs m') :
    let limit := s.config.statusErrorLimit.toNat
    let m := after s (.fresh env) rs
    (∀ n, Follows limit .stop [] (m.dealings n) ∧
        (∀ r, Follows limit r.occasion (m.dealings n) ((m.serve s r).2.dealings n)) ∧
        Follows limit .drop (m.dealings n) ((m.drop s).dealings n)) ∧
      (∀ o, m.slot = some o → ((∃ p, o.stop = some p ∧ p.signalled = false) ↔
        Doomed limit (m.dealings o.ticket.number) ∧
          Undelivered (calls (m.dealings o.ticket.number)))) ∧
      (∀ n, m'.state? n = some .queued → m'.dealings n = []) ∧
      ∀ rs₁ rs₂ r, rs = rs₁ ++ .stop :: rs₂ → ((after s (.fresh env) rs₁).stop s).1 = .ok r →
        ∀ w ∈ r.drained, m'.dealings w.ticket.number = [] := by
  obtain ⟨disciplined, deals⟩ := since_after s env rs
  have ended : Disciplined s [] m' := by
    cases run with
    | after => exact disciplined
    | dropped => exact (since_drop disciplined).1
  have unmet : ∀ n, m'.state? n = some .queued → m'.dealings n = [] := by
    intro n hn
    exact ended.unmet n fun st hst => Option.some.inj (hst.symm.trans hn)
  refine ⟨fun n => ⟨deals n, fun r => (since_serve disciplined r).2 n,
    (since_drop disciplined).2 n⟩, ?_, unmet, ?_⟩
  · exact fun o held => (disciplined.held o held).pending_iff
  · rintro rs₁ rs₂ r rfl hr w hw
    obtain ⟨out, placed⟩ := placed_after s env rs₁
    have withdrawn := withdrawn_of_stop placed hr hw
    have rest : Reached s ((after s (.fresh env) rs₁).stop s).2 rs₂ m' := by
      have whole : Reached s (.fresh env) ((rs₁ ++ [.stop]) ++ rs₂) m' := by simpa using run
      have tail := whole.of_append
      rwa [after_append] at tail
    exact unmet _ ((lifelong_withdrawn s _).reached withdrawn rest).2.1

/-- Jobs may run for a nanosecond. -/
def hasty : Setup Worker Host :=
  { Setup.bare with config := { jobTimeout := some (.ofNanos 1) } }

/-- A job is found overdue, but the signal of the timeout does not get through to it; then a stop
comes, while another job is queued. -/
def overstay : List (Request Worker Host) :=
  [.submit reluctant, .submit (.endless 3), .work, .work, .stop]

/-- In `overstay` the first job is sent the signal of the timeout, and at last one to shut down. The
second one is drained. -/
theorem call_discipline_overstay :
    let m := after hasty (.fresh {}) overstay
    m.dealings 0 = [⟨.start (.ok ()), false⟩, ⟨.tryExit (.ok none), true⟩,
      ⟨.terminate .timeout (.error (.terminateFailed "busy")), false⟩,
      ⟨.terminate .shutdown (.ok ()), false⟩, ⟨.wait (.exited .completed), false⟩] ∧
    Follows 10 .stop [] (m.dealings 0) ∧ m.state? 1 = some .queued ∧ m.dealings 1 = [] := by
  have queued : (after hasty (.fresh {}) overstay).state? 1 = some .queued :=
    of_decide_eq_true (by cbv)
  have run : Reached hasty (.fresh {}) overstay (after hasty (.fresh {}) overstay) := .after
  obtain ⟨follows, -, unmet, -⟩ := call_discipline hasty {} run
  exact ⟨of_decide_eq_true (by cbv), (follows 0).1, queued, unmet 1 queued⟩

end Manager
end SerialJobs
