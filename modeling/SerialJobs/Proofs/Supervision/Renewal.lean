import SerialJobs.Proofs.Renewal
import SerialJobs.Proofs.Supervision

/-!
# Loops that are started anew

A supervision with no loop left, whose manager has nothing to do, goes on like one that has just
begun. Its loops get later numbers, as its submissions do (`Supervision.resume`). It can make
exactly the moves of a fresh one, and what they lead to is the same with the past behind it
(`Supervision.run_resume_iff`).
-/

namespace SerialJobs

variable {J E : Type}

/-- The same move, after `n` other loops were started. -/
def LoopMove.later (n : Nat) : LoopMove J E → LoopMove J E
  | iterate i => .iterate (i + n)
  | wake i => .wake (i + n)
  | heed i => .heed (i + n)
  | expire i => .expire (i + n)
  | mv => mv

namespace Supervision

/-- The supervision `x`, which was fresh once, with all that `old` has behind it. -/
def resume (old x : Supervision J E) : Supervision J E where
  manager := old.manager.resume x.manager
  loops := old.loops ++ x.loops
  record := x.record.map (· + old.loops.length)
  stopping := x.stopping.map (Option.map (· + old.loops.length))
  held := x.held

variable (s : Setup J E) (old x : Supervision J E) (i : Nat) (a : Spawned)

/-- With no loop left, a manager that has nothing to do has only just begun to go on. -/
lemma resume_fresh {x : Supervision J E} (free : x.manager.slot = none)
    (empty : x.manager.queue = []) (record : x.record = none) (idle : x.stopping = none)
    (held : x.held) : x.resume (.fresh x.manager.env) = x := by
  rcases x with ⟨m, loops, _, _, _⟩
  obtain rfl := record
  obtain rfl := idle
  obtain rfl := held
  simp [resume, fresh, Manager.resume_fresh free empty]

lemma getElem?_resume : (old.resume x).loops[i + old.loops.length]? = x.loops[i]? := by
  simp [resume, List.getElem?_append_right]

lemma set_resume :
    (old.resume x).loops.set (i + old.loops.length) a = old.loops ++ x.loops.set i a := by
  simp [resume]

lemma isLive_resume : (old.resume x).isLive (i + old.loops.length) = x.isLive i := by
  simp only [isLive, getElem?_resume]

lemma loopAt?_resume (p : LoopPhase) :
    (old.resume x).loopAt? (i + old.loops.length) p = x.loopAt? i p := by
  simp only [loopAt?, getElem?_resume]

lemma isAlive_resume : (old.resume x).isAlive = x.isAlive := by
  simp only [isAlive]
  rcases hr : x.record with _ | i
  · simp [resume, hr]
  · simpa [resume, hr] using isLive_resume old x i

lemma isOpen_resume : (old.resume x).isOpen = x.isOpen := by
  simp [isOpen, resume]

/-! ## Moves -/

lemma start_resume (runtime : Bool) :
    (old.resume x).start s runtime =
      (x.start (s.since old.manager.records) runtime).map id old.resume := by
  have waiting : (old.resume x).manager.queue.length = x.manager.queue.length :=
    List.length_map ..
  simp only [start, isAlive_resume, waiting]
  split_ifs
  · rfl
  · rfl
  · simp [resume, Setup.since, Nat.add_comm]

lemma tell_resume : (old.resume x).tell = old.resume x.tell := by
  rcases hr : x.record with _ | i
  · simp [tell, resume, hr]
  · simp [tell, resume, hr, signal, Manager.modify_append]

lemma endLoop_resume :
    (old.resume x).endLoop (i + old.loops.length) a = old.resume (x.endLoop i a) := by
  simp only [endLoop, set_resume]
  rfl

lemma round_resume :
    (old.resume x).round s (i + old.loops.length) a =
      old.resume (x.round (s.since old.manager.records) i a) := by
  have iterated := Manager.iterate_resume s old.manager x.manager a.loop
  -- without a name for it the kernel would run the iteration
  rcases hm : Service.iterate (s.since old.manager.records) a.loop x.manager with ⟨l, m⟩
  rw [hm] at iterated
  rw [round_eq hm, round_eq (x := old.resume x) iterated, set_resume]
  rfl

/-- The end of the loop that a stop waits for. -/
lemma waits_resume :
    (old.resume x).stopping.any (·.all (!(old.resume x).isLive ·)) =
      x.stopping.any (·.all (!x.isLive ·)) := by
  rcases hs : x.stopping with _ | _ | i
  · simp [resume, hs]
  · simp [resume, hs]
  · simpa [resume, hs] using congrArg (!·) (isLive_resume old x i)

/-- A move does the same to the supervision that goes on as to the fresh one. -/
lemma step_resume (mv : LoopMove J E) :
    (old.resume x).step s (mv.later old.loops.length) =
      (x.step (s.since old.manager.records) mv).map old.resume := by
  have held : (old.resume x).held = x.held := rfl
  cases mv with
  | start runtime =>
    simp only [LoopMove.later, step, isOpen_resume, start_resume]
    split_ifs <;> rfl
  | tell =>
    simp only [LoopMove.later, step, isOpen_resume, tell_resume]
    split_ifs <;> rfl
  | conclude =>
    have stopped := Manager.stop_resume s old.manager x.manager
    simp only [LoopMove.later, step, waits_resume]
    split_ifs
    · exact congrArg (fun m => some ({ old.resume x with manager := m, stopping := none } :
        Supervision J E)) (congrArg Prod.snd stopped)
    · rfl
  | serve r =>
    have served := Manager.serve_resume s old.manager x.manager r
    simp only [LoopMove.later, step, held]
    split_ifs
    · exact congrArg (fun m => some ({ old.resume x with manager := m } : Supervision J E))
        (congrArg Prod.snd served)
    · rfl
  | drop =>
    have dropped := Manager.drop_resume s old.manager x.manager
    simp only [LoopMove.later, step, isOpen_resume]
    split_ifs
    · exact congrArg (fun m => some ({ old.resume x with
        manager := m, record := none, held := false } : Supervision J E)) dropped
    · rfl
  | iterate i =>
    simp only [LoopMove.later, step, held, loopAt?_resume, round_resume]
    split_ifs
    · simp [Function.comp_def]
    · rfl
  | wake i =>
    simp only [LoopMove.later, step, loopAt?_resume, set_resume, Option.map_map]
    rfl
  | heed i =>
    simp only [LoopMove.later, step, held, loopAt?_resume, endLoop_resume, Option.map_bind]
    refine congrArg (Option.bind _) (funext fun a => ?_)
    dsimp only [Function.comp_apply]
    split_ifs <;> rfl
  | expire i =>
    simp only [LoopMove.later, step, held, loopAt?_resume, endLoop_resume]
    split_ifs
    · rfl
    · simp [Function.comp_def]

/-- So do all moves of a run. -/
lemma run_resume (mvs : List (LoopMove J E)) :
    (old.resume x).run s (mvs.map (·.later old.loops.length)) =
      (x.run (s.since old.manager.records) mvs).map old.resume := by
  induction mvs using List.reverseRecOn with
  | nil => rfl
  | append_singleton mvs mv ih =>
    rw [List.map_append, run_append, ih, run_append]
    rcases x.run (s.since old.manager.records) mvs with _ | y
    · rfl
    · simpa [run] using step_resume s old y mv

/-! ## All moves -/

section Ended

variable {s old x} (ended : ∀ i, ¬old.isLive i)

include ended

/-- A loop that is live was started since. -/
lemma exists_add_of_isLive {i : Nat} (live : (old.resume x).isLive i) :
    ∃ j, j + old.loops.length = i := by
  have since : old.loops.length ≤ i := by
    by_contra before
    refine ended i ?_
    simpa only [isLive, resume, List.getElem?_append_left (Nat.not_le.mp before)] using live
  exact ⟨i - old.loops.length, Nat.sub_add_cancel since⟩

/-- Loops that have ended make no moves, so that every move is one of those made since. -/
lemma exists_later_of_step {mv : LoopMove J E} {y : Supervision J E}
    (h : (old.resume x).step s mv = some y) :
    ∃ mv' : LoopMove J E, mv'.later old.loops.length = mv := by
  have moved := moved_of_step h
  have started {i : Nat} {a : Spawned} (here : (old.resume x).loops[i]? = some a)
      (live : a.phase ≠ .ended) : ∃ j, j + old.loops.length = i :=
    exists_add_of_isLive ended (isLive_iff.mpr ⟨a, here, live⟩)
  cases moved with
  | iterated held here poised told =>
    obtain ⟨j, rfl⟩ := started here (by simp [poised])
    exact ⟨.iterate j, rfl⟩
  | woken here asleep =>
    obtain ⟨j, rfl⟩ := started here (by simp [asleep])
    exact ⟨.wake j, rfl⟩
  | heeded here asleep signal =>
    obtain ⟨j, rfl⟩ := started here (by simp [asleep])
    exact ⟨.heed j, rfl⟩
  | expired gone here poised =>
    obtain ⟨j, rfl⟩ := started here (by simp [poised])
    exact ⟨.expire j, rfl⟩
  | refused isOpen answer => exact ⟨.start _, rfl⟩
  | started isOpen dead => exact ⟨.start true, rfl⟩
  | told isOpen => exact ⟨.tell, rfl⟩
  | concluded stopping ended => exact ⟨.conclude, rfl⟩
  | served held => exact ⟨.serve _, rfl⟩
  | dropped isOpen => exact ⟨.drop, rfl⟩

/-- The runs of the supervision that goes on are those of the fresh one. -/
theorem run_resume_iff {mvs : List (LoopMove J E)} {y : Supervision J E} :
    (old.resume x).run s mvs = some y ↔
      ∃ mvs' x', x.run (s.since old.manager.records) mvs' = some x' ∧
        mvs = mvs'.map (·.later old.loops.length) ∧ y = old.resume x' := by
  constructor
  · intro h
    refine run_keeps (fun mvs y => ∃ mvs' x', x.run (s.since old.manager.records) mvs' = some x' ∧
      mvs = mvs'.map (·.later old.loops.length) ∧ y = old.resume x') ⟨[], x, rfl, rfl, rfl⟩ ?_ h
    rintro _ _ mv z - ⟨mvs', x', hx, rfl, rfl⟩ last
    obtain ⟨mv', rfl⟩ := exists_later_of_step ended last
    rw [step_resume] at last
    obtain ⟨x'', step, rfl⟩ := Option.map_eq_some_iff.mp last
    exact ⟨mvs' ++ [mv'], x'', (run_append_singleton hx mv').trans step, by simp, rfl⟩
  · rintro ⟨mvs', x', hx, rfl, rfl⟩
    rw [run_resume, hx]
    rfl

end Ended

end Supervision
end SerialJobs
