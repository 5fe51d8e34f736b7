import SerialJobs.Proofs.Supervision

/-!
# A service is a supervised manager

A `Service` has room for one loop, and makes a whole round of it at a time. What it does is among
the runs of a `Supervision`, with all its loops: the service shows the one that is live, if there is
one (`Shows`), and whatever is done with the service is a row of moves (`shows_of_call`). So what is
true of all runs of a supervision is true of services.
-/

namespace SerialJobs

variable {J E : Type}

/-- What is done with a service: the calls of those who hold it, and the turns of its loop. -/
inductive ServiceCall (J E : Type)
  | start (runtime : Bool)
  | serve (r : Request J E)
  | turn
  | stop
  | drop

namespace Service

/-- The service after a call. All but the turns of the loop are made by those who hold it. -/
def call (s : Setup J E) (v : Service J E) : ServiceCall J E → Option (Service J E)
  | .start runtime => if v.held then some (v.start s runtime).2 else none
  | .serve r =>
    if v.held && r.isCall then some { v with manager := (v.manager.serve s r).2 } else none
  | .turn => some (v.turn s)
  | .stop => if v.held then some (v.stop s).2 else none
  | .drop => if v.held then some (v.drop s) else none

/-- The service after the calls, if they can be made. -/
def calls (s : Setup J E) (v : Service J E) (cs : List (ServiceCall J E)) :
    Option (Service J E) :=
  cs.foldlM (·.call s ·) v

/-- A turn of a loop: it ends, or it works and then ends if it was told to. -/
lemma turn_some {s : Setup J E} {v : Service J E} {l l' : Loop} {m : Manager J E}
    (hl : v.loop = some l) (hr : iterate s l v.manager = (l', m)) :
    v.turn s =
      if !v.held || (l.told && l.lastBeat.isSome) then v.endLoop
      else if l'.told then ({ v with manager := m } : Service J E).endLoop
      else { v with manager := m, loop := some l' } := by
  rw [turn]
  split
  next absent => simp [hl] at absent
  next present =>
    obtain rfl := Option.some.inj (hl.symm.trans present)
    refine if_congr Iff.rfl rfl ?_
    rw [hr]
    rfl

/-- A loop that is told to end has ended after its next turn. -/
lemma loop_turn_tell (s : Setup J E) (v : Service J E) : (v.tell.turn s).loop = none := by
  rcases hl : v.loop with _ | l
  · have quiet : v.tell = v := by
      rcases v with ⟨m, loop, held⟩
      subst hl
      rfl
    rw [quiet]
    unfold turn
    simp [hl]
  · have told : v.tell.loop = some { l with told := true } := by simp [tell, hl]
    rcases hr : iterate s { l with told := true } v.tell.manager with ⟨l', m⟩
    have told' := Supervision.told_iterate s { l with told := true } v.tell.manager
    rw [hr] at told'
    rw [turn_some told hr]
    split_ifs <;> rfl

end Service

namespace Supervision

variable {s : Setup J E} {x y : Supervision J E} {v w : Service J E} {i : Nat} {a : Spawned}

/-- The service shows the manager, and the loop that is live. While someone holds the manager that
is all there is to the loop. -/
inductive Shows (x : Supervision J E) : Service J E → Prop
  | quiet (dead : ∀ i, ¬x.isLive i) : Shows x ⟨x.manager, none, x.held⟩
  | looping {i : Nat} {a : Spawned} {l : Loop} (here : x.loops[i]? = some a)
      (live : a.phase ≠ .ended)
      (same : x.held → a.loop = l ∧ (a.phase = .asleep ↔ l.lastBeat.isSome)) :
      Shows x ⟨x.manager, some l, x.held⟩

lemma shows_fresh (env : E) : Shows (fresh (J := J) env) { manager := .fresh env } :=
  .quiet fun i live => by cases live

/-! ## One loop -/

lemma step_heed (here : x.loops[i]? = some a) (asleep : a.phase = .asleep)
    (signal : a.loop.told = true ∨ x.held = false) :
    x.step s (.heed i) = some (x.endLoop i a) := by
  have hears : (a.loop.told || !x.held) = true := by simpa using signal
  simp only [step, loopAt?_eq_some_iff.mpr ⟨here, asleep⟩, Option.bind_some, hears, if_true]

lemma step_expire (gone : x.held = false) (here : x.loops[i]? = some a)
    (poised : a.phase = .poised) : x.step s (.expire i) = some (x.endLoop i a) := by
  simp [step, gone, loopAt?_eq_some_iff.mpr ⟨here, poised⟩]

lemma step_iterate (held : x.held) (here : x.loops[i]? = some a) (poised : a.phase = .poised) :
    x.step s (.iterate i) = some (x.round s i a) := by
  simp [step, held, loopAt?_eq_some_iff.mpr ⟨here, poised⟩]

lemma step_wake (here : x.loops[i]? = some a) (asleep : a.phase = .asleep) :
    x.step s (.wake i) = some { x with loops := x.loops.set i { a with phase := .poised } } := by
  simp [step, loopAt?_eq_some_iff.mpr ⟨here, asleep⟩]

/-- A live loop can go on to work while someone holds the manager. -/
lemma run_round (s : Setup J E) (held : x.held) (here : x.loops[i]? = some a)
    (live : a.phase ≠ .ended) : ∃ mvs, x.run s mvs = some (x.round s i a) := by
  cases hp : a.phase with
  | poised => exact ⟨[.iterate i], by simp [run, step_iterate held here hp]⟩
  | asleep =>
    have lt : i < x.loops.length := (List.getElem?_eq_some_iff.mp here).1
    have wakes := step_wake (s := s) here hp
    have works := step_iterate (s := s) (i := i) (a := { a with phase := .poised })
      (x := { x with loops := x.loops.set i { a with phase := .poised } }) held (by simp [lt]) rfl
    refine ⟨[.wake i, .iterate i], ?_⟩
    simp only [run, List.foldlM_cons, List.foldlM_nil, wakes, works, Option.bind_eq_bind,
      Option.bind_some, Option.pure_def, round, List.set_set]
  | ended => exact absurd hp live

/-- A live loop ends when nobody holds the manager, or when it sleeps and was told to end. -/
lemma step_end (s : Setup J E) (here : x.loops[i]? = some a) (live : a.phase ≠ .ended)
    (heard : x.held = false ∨ (a.phase = .asleep ∧ a.loop.told = true)) :
    ∃ mv, x.step s mv = some (x.endLoop i a) := by
  cases hp : a.phase with
  | poised =>
    have gone : x.held = false := heard.resolve_right fun h => by simp [hp] at h
    exact ⟨.expire i, step_expire gone here hp⟩
  | asleep => exact ⟨.heed i, step_heed here hp (heard.symm.imp_left (·.2))⟩
  | ended => exact absurd hp live

/-- With the last loop that was live, all have ended. -/
lemma shows_endLoop (hx : Supervised x) (here : x.loops[i]? = some a) (live : a.phase ≠ .ended) :
    Shows (x.endLoop i a) ⟨x.manager.note .loopExited, none, x.held⟩ := by
  refine .quiet (x := x.endLoop i a) fun j hj => ?_
  obtain ⟨hj, others⟩ := (isLive_set here live rfl j).mp hj
  have last := hx.last j hj
  have last' := hx.last i (isLive_iff.mpr ⟨a, here, live⟩)
  exact others (by omega) rfl

/-! ## What is done with a service -/

namespace Shows

lemma manager_eq (h : Shows x v) : v.manager = x.manager := by
  cases h <;> rfl

lemma held_eq (h : Shows x v) : v.held = x.held := by
  cases h <;> rfl

/-- Nothing but the manager, the loops and who holds them is shown. -/
lemma congr (h : Shows x v) (loops : y.loops = x.loops) (held : y.held = x.held) :
    Shows y { v with manager := y.manager } := by
  cases h with
  | quiet dead =>
    rw [← held]
    exact .quiet fun i live => dead i (isLive_congr loops i ▸ live)
  | looping here live same =>
    rw [← held]
    exact .looping (loops ▸ here) live (held ▸ same)

/-- A service without a loop shows that all loops have ended. -/
lemma none_live (h : Shows x v) (none : v.loop = none) (i : Nat) : ¬x.isLive i := by
  cases h with
  | quiet dead => exact dead i
  | looping here live same => cases none

/-- The loop that is shown is on record. -/
lemma isAlive_eq (h : Shows x v) (hx : Supervised x) (isOpen : x.isOpen) :
    v.isAlive = x.isAlive := by
  obtain ⟨held, idle⟩ := isOpen_iff.mp isOpen
  cases h with
  | quiet dead =>
    have none : x.record = none := by
      by_contra some
      obtain ⟨i, hi⟩ := Option.ne_none_iff_exists'.mp some
      exact dead i (hx.isLive hi)
    simp [Service.isAlive, isAlive, none]
  | @looping i a l here live same =>
    obtain ⟨rfl, -⟩ := same held
    have isLive := isLive_iff.mpr ⟨a, here, live⟩
    have record : x.record = some i :=
      (hx.known held i isLive).resolve_right (by simp [idle])
    obtain ⟨-, -, b, hb, -, told⟩ := hx.recorded i record
    obtain rfl := Option.some.inj (here.symm.trans hb)
    simp [Service.isAlive, isAlive, record, isLive, told]

/-- A loop is started or refused alike. -/
lemma start (h : Shows x v) (hx : Supervised x) (isOpen : x.isOpen) (runtime : Bool) :
    (v.start s runtime).1 = (x.start s runtime).1 ∧
      Shows (x.start s runtime).2 (v.start s runtime).2 := by
  have alive := h.isAlive_eq hx isOpen
  simp only [Service.start, Supervision.start, alive, h.manager_eq]
  split_ifs
  · exact ⟨rfl, h⟩
  · exact ⟨rfl, h⟩
  · refine ⟨rfl, ?_⟩
    rw [h.held_eq]
    refine .looping (x := { x with manager := _, loops := x.loops ++ [.new], record := _ })
      (i := x.loops.length) (a := .new) ?_ (by simp [Spawned.new]) fun _ => ⟨rfl, ?_⟩
    · simp
    · simp [Spawned.new]

/-- A turn of the loop is a row of moves: its end, or a round, or a round and its end. -/
lemma turn (h : Shows x v) (hx : Supervised x) (s : Setup J E) :
    ∃ mvs y, x.run s mvs = some y ∧ y.stopping = x.stopping ∧ Shows y (v.turn s) := by
  cases h with
  | quiet dead => exact ⟨[], x, rfl, rfl, .quiet dead⟩
  | @looping i a l here live same =>
    rcases hr : Service.iterate s l x.manager with ⟨l', m⟩
    rw [Service.turn_some rfl hr]
    by_cases heard : x.held = false ∨ (l.told = true ∧ l.lastBeat.isSome)
    · have ends : x.held = false ∨ (a.phase = .asleep ∧ a.loop.told = true) := by
        rcases held : x.held with _ | _
        · exact .inl rfl
        · obtain ⟨rfl, asleep⟩ := same held
          obtain ⟨told, worked⟩ := heard.resolve_left (by simp [held])
          exact .inr ⟨asleep.mpr worked, told⟩
      obtain ⟨mv, hmv⟩ := step_end s here live ends
      rw [if_pos (by simpa using heard)]
      exact ⟨[mv], x.endLoop i a, by simpa [run] using hmv, rfl, shows_endLoop hx here live⟩
    · have held : x.held = true := by simpa using (not_or.mp heard).1
      obtain ⟨rfl, -⟩ := same held
      obtain ⟨mvs, hy⟩ := run_round s held here live
      rw [round_eq hr] at hy
      have lt : i < x.loops.length := (List.getElem?_eq_some_iff.mp here).1
      have here' : (x.loops.set i ⟨l', .asleep⟩)[i]? = some ⟨l', .asleep⟩ := by simp [lt]
      rw [if_neg (by simpa using heard)]
      by_cases told : l'.told = true
      · rw [if_pos told]
        have ends := step_heed (s := s) (x := { x with
          manager := m, loops := x.loops.set i ⟨l', .asleep⟩ }) here' rfl (.inl told)
        exact ⟨mvs ++ [.heed i],
          endLoop i ⟨l', .asleep⟩ { x with manager := m, loops := x.loops.set i ⟨l', .asleep⟩ },
          (run_append_singleton hy _).trans ends, rfl, shows_endLoop (hx.run hy) here' (by simp)⟩
      · rw [if_neg told]
        have worked := lastBeat_iterate s a.loop x.manager
        rw [hr] at worked
        refine ⟨mvs, _, hy, rfl, ?_⟩
        exact .looping (x := { x with manager := m, loops := x.loops.set i ⟨l', .asleep⟩ }) here'
          (by simp) fun _ => ⟨rfl, by simpa using worked⟩

/-- A stop tells the loop that is shown. -/
lemma tell (h : Shows x v) (hx : Supervised x) (isOpen : x.isOpen) (s : Setup J E) :
    ∃ y, x.step s .tell = some y ∧ y.stopping = some x.record ∧ Shows y v.tell := by
  obtain ⟨held, idle⟩ := isOpen_iff.mp isOpen
  refine ⟨x.tell, by simp only [step, isOpen, if_true], rfl, ?_⟩
  cases h with
  | quiet dead =>
    refine .quiet (x := x.tell) fun i live => ?_
    rw [isLive_tell] at live
    exact dead i live
  | @looping i a l here live same =>
    have record : x.record = some i :=
      (hx.known held i (isLive_iff.mpr ⟨a, here, live⟩)).resolve_right (by simp [idle])
    obtain ⟨rfl, asleep⟩ := same held
    refine .looping (x := x.tell) (i := i)
      (a := { a with loop := { a.loop with told := true } }) ?_ live fun _ => ⟨rfl, asleep⟩
    simp [Supervision.tell, record, signal, here]

lemma stop (h : Shows x v) (hx : Supervised x) (isOpen : x.isOpen) (s : Setup J E) :
    ∃ mvs y, x.run s mvs = some y ∧ y.stopping = none ∧ Shows y (v.stop s).2 := by
  obtain ⟨x₁, told, stopping, shows₁⟩ := h.tell hx isOpen s
  have hx₁ := hx.moved (moved_of_step told)
  obtain ⟨mvs, y, turned, waits, shows₂⟩ := shows₁.turn hx₁ s
  have dead := shows₂.none_live (Service.loop_turn_tell s v)
  have concludes : y.step s .conclude =
      some { y with manager := (y.manager.stop s).2, stopping := none } := by
    simp [step, waits, stopping, dead]
  have told_turned : x.run s (.tell :: mvs) = some y := by
    simpa only [run, List.foldlM_cons, told, Option.bind_eq_bind, Option.bind_some] using turned
  refine ⟨.tell :: mvs ++ [.conclude], { y with
    manager := (y.manager.stop s).2, stopping := none },
    (run_append_singleton told_turned _).trans concludes, rfl, ?_⟩
  have shown := shows₂.congr
    (y := { y with manager := (y.manager.stop s).2, stopping := none }) rfl rfl
  have stopped : (v.stop s).2 =
      { v.tell.turn s with manager := (y.manager.stop s).2 } := by
    rw [← shows₂.manager_eq]
    rfl
  rw [stopped]
  exact shown

lemma drop (h : Shows x v) (isOpen : x.isOpen) (s : Setup J E) :
    ∃ y, x.step s .drop = some y ∧ y.stopping = x.stopping ∧ Shows y (v.drop s) := by
  refine ⟨{ x with manager := x.manager.drop s, record := none, held := false },
    by simp only [step, isOpen, if_true], rfl, ?_⟩
  cases h with
  | quiet dead =>
    exact .quiet (x := { x with manager := x.manager.drop s, record := none, held := false }) dead
  | @looping i a l here live same =>
    exact .looping (x := { x with manager := x.manager.drop s, record := none, held := false }) here
      live fun held => by cases held

end Shows

/-- Whatever is done with a service is a row of moves. -/
theorem shows_of_call (h : Shows x v) (hx : Supervised x) (idle : x.stopping = none)
    {c : ServiceCall J E} (hc : v.call s c = some w) :
    ∃ mvs y, x.run s mvs = some y ∧ y.stopping = none ∧ Shows y w := by
  have isOpen (held : v.held) : x.isOpen := isOpen_iff.mpr ⟨h.held_eq ▸ held, idle⟩
  cases c with
  | start runtime =>
    obtain ⟨held, hc⟩ := Option.ite_none_right_eq_some.mp hc
    cases hc
    obtain ⟨-, shown⟩ := h.start (s := s) hx (isOpen held) runtime
    have started : x.step s (.start runtime) = some (x.start s runtime).2 := by
      simp only [step, isOpen held, if_true]
    have stopping : (x.start s runtime).2.stopping = none := by
      simp only [start]
      split_ifs <;> exact idle
    exact ⟨[.start runtime], _, by simpa [run] using started, stopping, shown⟩
  | serve r =>
    obtain ⟨call, hc⟩ := Option.ite_none_right_eq_some.mp hc
    cases hc
    have served : x.step s (.serve r) =
        some { x with manager := (x.manager.serve s r).2 } := by
      simp only [step, ← h.held_eq, call, if_true]
    have shown := h.congr (y := { x with manager := (x.manager.serve s r).2 }) rfl rfl
    rw [h.manager_eq]
    exact ⟨[.serve r], { x with manager := (x.manager.serve s r).2 }, by simpa [run] using served,
      idle, shown⟩
  | turn =>
    cases hc
    obtain ⟨mvs, y, hy, stopping, shown⟩ := h.turn hx s
    exact ⟨mvs, y, hy, stopping.trans idle, shown⟩
  | stop =>
    obtain ⟨held, hc⟩ := Option.ite_none_right_eq_some.mp hc
    cases hc
    exact h.stop hx (isOpen held) s
  | drop =>
    obtain ⟨held, hc⟩ := Option.ite_none_right_eq_some.mp hc
    cases hc
    obtain ⟨y, hy, stopping, shown⟩ := h.drop (isOpen held) s
    exact ⟨[.drop], y, by simpa [run] using hy, stopping.trans idle, shown⟩

/-- All that is ever done with a service is a row of moves. -/
theorem shows_of_calls {env : E} {cs : List (ServiceCall J E)}
    (h : ({ manager := .fresh env } : Service J E).calls s cs = some v) :
    ∃ mvs x, (fresh env).run s mvs = some x ∧ x.stopping = none ∧ Shows x v := by
  induction cs using List.reverseRecOn generalizing v with
  | nil =>
    cases h
    exact ⟨[], fresh env, rfl, rfl, shows_fresh env⟩
  | append_singleton cs c ih =>
    rw [Service.calls, List.foldlM_append] at h
    obtain ⟨u, hu, last⟩ := Option.bind_eq_some_iff.mp h
    obtain ⟨mvs, x, hx, idle, shown⟩ := ih hu
    obtain ⟨mvs', y, hy, idle', shown'⟩ :=
      shows_of_call shown (.of_run hx) idle (c := c) (by simpa using last)
    exact ⟨mvs ++ mvs', y, by rw [run_append, hx]; exact hy, idle', shown'⟩

end Supervision
end SerialJobs
