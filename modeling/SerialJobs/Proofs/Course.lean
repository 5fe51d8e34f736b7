import Mathlib.Data.List.Induction
import SerialJobs.Proofs.Shutdown
import SerialJobs.Service
import SerialJobs.Worker

/-!
# Courses of requests

What one caller does to a manager, request after request: submissions, iterations of the loop, kills
and stops, in any order and any number. Between two requests the surroundings may turn into any
others, so that workers and the clock go on as they like. `Served` relates a manager to the manager
after a list of requests that all completed, together with their answers.

A property of a fresh manager that every request keeps holds after every course of requests
(`Served.keeps`).
-/

namespace SerialJobs

namespace History

/-- Where the first of a marked element and an append's seam falls. -/
lemma append_eq_split {α : Type} {h l a b : List α} {x : α} (eq : h ++ l = a ++ x :: b) :
    (∃ b', h = a ++ x :: b' ∧ b = b' ++ l) ∨ ∃ a', l = a' ++ x :: b ∧ a = h ++ a' := by
  rcases List.append_eq_append_iff.mp eq with ⟨a', ha, hl⟩ | ⟨c, hh, hc⟩
  · exact .inr ⟨a', hl, ha⟩
  · cases c with
    | nil => exact .inr ⟨[], by simpa using hc.symm, by simpa using hh.symm⟩
    | cons y c =>
      rw [List.cons_append, List.cons.injEq] at hc
      obtain ⟨rfl, rfl⟩ := hc
      exact .inl ⟨c, hh, rfl⟩

lemma eq_of_append_cons_eq_singleton {α : Type} {a b : List α} {q c : α}
    (h : a ++ q :: b = [c]) : a = [] ∧ q = c ∧ b = [] := by
  simpa [List.append_eq_cons_iff] using h

end History

/-- A request to a manager, or something that happens between two of them. -/
inductive Request (J E : Type)
  | submit (j : J)
  /-- One iteration of the scheduling loop, asked for by a caller. -/
  | work
  /-- One iteration of the scheduling loop, made by the loop. -/
  | iterate (l : Loop)
  | kill (id : JobId) (command : KillCommand)
  | stop
  /-- The surroundings turn into the given ones. -/
  | pass (env : E)

/-- What comes back from a request that completed. -/
inductive Answer (J : Type)
  | ticket (t : Ticket)
  | tick (k : Tick)
  | loop (l : Loop)
  | delivered (b : Bool)
  | report (r : Report J)
  | passed

namespace Manager

variable {J E : Type}

/-- Serves a request. Only a stop may fail to complete, by a panic. -/
def serve (s : Setup J E) (m : Manager J E) :
    Request J E → Except PanicPayload (Answer J) × Manager J E
  | .submit j => ((.ok (.ticket (m.submit s j).1)), (m.submit s j).2)
  | .work => (.ok (.tick (m.work s).1), (m.work s).2)
  | .iterate l => (.ok (.loop (Service.iterate s l m).1), (Service.iterate s l m).2)
  | .kill id c => (.ok (.delivered (m.kill s id c).1), (m.kill s id c).2)
  | .stop => ((m.stop s).1.map .report, (m.stop s).2)
  | .pass env => (.ok .passed, { m with env := env })

/-- The requests all completed, with the given answers. -/
inductive Served (s : Setup J E) (m : Manager J E) :
    List (Request J E) → List (Answer J) → Manager J E → Prop
  | nil : Served s m [] [] m
  | snoc {rs : List (Request J E)} {as : List (Answer J)} {m₁ m₂ : Manager J E} {r : Request J E}
      {a : Answer J} (past : Served s m rs as m₁) (last : m₁.serve s r = (.ok a, m₂)) :
      Served s m (rs ++ [r]) (as ++ [a]) m₂

/-- What every request keeps holds after every course of requests. -/
theorem Served.keeps {s : Setup J E} {P : List (Answer J) → Manager J E → Prop} {m : Manager J E}
    (start : P [] m)
    (step : ∀ as m₁ r a m₂, P as m₁ → m₁.serve s r = (.ok a, m₂) → P (as ++ [a]) m₂)
    {rs : List (Request J E)} {as : List (Answer J)} {m' : Manager J E}
    (h : Served s m rs as m') : P as m' := by
  induction h with
  | nil => exact start
  | snoc _ last ih => exact step _ _ _ _ _ ih last

/-- The manager after the requests. -/
def after (s : Setup J E) (m : Manager J E) (rs : List (Request J E)) : Manager J E :=
  rs.foldl (fun m r => (m.serve s r).2) m

lemma after_append (s : Setup J E) (m : Manager J E) (rs rs' : List (Request J E)) :
    m.after s (rs ++ rs') = (m.after s rs).after s rs' :=
  List.foldl_append ..

lemma Served.eq_after {s : Setup J E} {m m' : Manager J E} {rs : List (Request J E)}
    {as : List (Answer J)} (h : Served s m rs as m') : m' = m.after s rs := by
  induction h with
  | nil => rfl
  | snoc past last ih =>
    rw [after_append, ← ih]
    exact (congrArg Prod.snd last).symm

lemma Served.of_nil {s : Setup J E} {m m' : Manager J E} {as : List (Answer J)}
    (h : Served s m [] as m') : as = [] ∧ m' = m := by
  generalize hrs : ([] : List (Request J E)) = rs at h
  cases h with
  | nil => exact ⟨rfl, rfl⟩
  | snoc past last => simp at hrs

/-- The first request was served before the others. -/
lemma Served.of_cons {s : Setup J E} {m m' : Manager J E} {r : Request J E}
    {rs : List (Request J E)} {as : List (Answer J)} (h : Served s m (r :: rs) as m') :
    ∃ a as' m₁, as = a :: as' ∧ m.serve s r = (.ok a, m₁) ∧ Served s m₁ rs as' m' := by
  generalize hrs : r :: rs = l at h
  induction h generalizing rs with
  | nil => cases hrs
  | @snoc l as m₁ m₂ r' a past last ih =>
    cases l with
    | nil =>
      obtain ⟨rfl, rfl⟩ := past.of_nil
      obtain ⟨rfl, rfl⟩ := List.cons.inj hrs
      exact ⟨a, [], m₂, rfl, last, .nil⟩
    | cons q l =>
      obtain ⟨rfl, rfl⟩ := List.cons.inj hrs
      obtain ⟨b, as', m₀, rfl, first, rest⟩ := ih rfl
      exact ⟨b, as' ++ [a], m₀, rfl, first, rest.snoc last⟩

/-- What comes back from the requests, whether they complete or not. -/
def answers (s : Setup J E) (m : Manager J E) :
    List (Request J E) → List (Except PanicPayload (Answer J))
  | [] => []
  | r :: rs => (m.serve s r).1 :: answers s (m.serve s r).2 rs

lemma answers_append (s : Setup J E) (m : Manager J E) (rs rs' : List (Request J E)) :
    answers s m (rs ++ rs') = answers s m rs ++ answers s (m.after s rs) rs' := by
  induction rs generalizing m with
  | nil => rfl
  | cons r rs ih => exact congrArg _ (ih _)

/-- Requests that all give an answer have been served. -/
theorem served_of_answers {s : Setup J E} {m : Manager J E} {rs : List (Request J E)}
    (h : (answers s m rs).all (·.isOk)) :
    ∃ as, answers s m rs = as.map .ok ∧ Served s m rs as (m.after s rs) := by
  induction rs using List.reverseRecOn with
  | nil => exact ⟨[], rfl, .nil⟩
  | append_singleton rs r ih =>
    rw [answers_append, List.all_append, Bool.and_eq_true] at h
    obtain ⟨as, has, served⟩ := ih h.1
    rcases hr : (m.after s rs).serve s r with ⟨p | a, m'⟩
    · simp [answers, hr, Except.isOk, Except.toBool] at h
    · refine ⟨as ++ [a], ?_, ?_⟩
      · rw [answers_append, has]
        simp [answers, hr]
      · rw [after_append]
        have next : (m.after s rs).after s [r] = m' := congrArg Prod.snd hr
        rw [next]
        exact served.snoc hr

/-- Of all requests only a stop can fail to complete. -/
lemma serve_completes (s : Setup J E) (m : Manager J E) {r : Request J E} (h : r ≠ .stop) :
    ∃ a, (m.serve s r).1 = .ok a := by
  cases r with
  | stop => exact absurd rfl h
  | _ => exact ⟨_, rfl⟩

/-- Requests other than stops complete, after any course of requests. -/
theorem Served.extend {s : Setup J E} {m m₁ : Manager J E} {rs : List (Request J E)}
    {as : List (Answer J)} (h : Served s m rs as m₁) (rs' : List (Request J E))
    (noStop : ∀ r ∈ rs', r ≠ .stop) :
    ∃ as', Served s m (rs ++ rs') (as ++ as') (m₁.after s rs') := by
  induction rs' using List.reverseRecOn with
  | nil => exact ⟨[], by simpa [after] using h⟩
  | append_singleton rs' r ih =>
    obtain ⟨as', has⟩ := ih fun r' hr => noStop r' (List.mem_append_left _ hr)
    obtain ⟨a, ha⟩ := serve_completes s (m₁.after s rs') (noStop r (by simp))
    refine ⟨as' ++ [a], ?_⟩
    rw [← List.append_assoc, ← List.append_assoc]
    refine has.snoc (Prod.ext ha ?_)
    rw [after_append]
    rfl

theorem served_of_noStop (s : Setup J E) (m : Manager J E) (rs : List (Request J E))
    (noStop : ∀ r ∈ rs, r ≠ .stop) : ∃ as, Served s m rs as (m.after s rs) := by
  simpa using (Served.nil (s := s) (m := m)).extend rs noStop

lemma stop_of_serve {s : Setup J E} {m m' : Manager J E} {a : Answer J}
    (h : m.serve s .stop = (.ok a, m')) : ∃ r, a = .report r ∧ Stopped s m r m' := by
  rcases hs : m.stop s with ⟨_ | r, m₂⟩
  · simp [serve, hs, Except.map] at h
  · simp only [serve, hs, Except.map, Prod.mk.injEq, Except.ok.injEq] at h
    obtain ⟨rfl, rfl⟩ := h
    exact ⟨r, rfl, stopped_of_stop s hs⟩

/-- An iteration of the loop takes a moment, works, and may tell the audit log of a heartbeat. -/
lemma Steady.iterate {s : Setup J E} {P : Manager J E → Prop} (hP : Steady s P)
    (pass : ∀ m env, P m → P { m with env := env }) {m : Manager J E} (h : P m) (l : Loop) :
    P (Service.iterate s l m).2 := by
  have hw : P (({ m with env := s.kind.moment m.env } : Manager J E).work s).2 :=
    hP.work (pass m _ h)
  rcases hr : ({ m with env := s.kind.moment m.env } : Manager J E).work s with ⟨k, m'⟩
  rw [hr] at hw
  simp only [Service.iterate, hr]
  split
  · exact hP.happen (e := .audited (.heartbeat _)) hw trivial rfl
  · exact hw

lemma Lasting.iterate {s : Setup J E} {P : Manager J E → Prop} (hP : Lasting s P)
    (pass : ∀ m env, P m → P { m with env := env }) {m : Manager J E} (h : P m) (l : Loop) :
    P (Service.iterate s l m).2 :=
  hP.steady.iterate pass h l

/-- A property that no request but a stop ends, where `P arriving` is what holds while the jobs
`arriving` are on their way to the queue. -/
structure Admitting (s : Setup J E) (P : List (Waiting J) → Manager J E → Prop) : Prop where
  lasting : ∀ arriving, Lasting s (P arriving)
  pass : ∀ {arriving : List (Waiting J)} {m : Manager J E} {env : E},
    P arriving m → P arriving { m with env := env }
  register : ∀ {m : Manager J E} (j : J),
    P [] m → P [⟨m.nextTicket s j, j⟩] (m.register s (m.nextTicket s j))
  enqueue : ∀ {m : Manager J E} {w : Waiting J}, P [w] m → P [] (m.enqueue w)

namespace Admitting

variable {s : Setup J E} {P : List (Waiting J) → Manager J E → Prop} (hP : Admitting s P)
  {m : Manager J E}

include hP

lemma submit (h : P [] m) (j : J) : P [] (m.submit s j).2 := by
  have ha := (hP.lasting _).announce (hP.register j h) ⟨m.nextTicket s j, .queued, none⟩
  exact (hP.lasting _).happen (e := .noted (.jobQueued ..)) (hP.enqueue ha) trivial

lemma serve (h : P [] m) {r : Request J E} (hr : r ≠ .stop) : P [] (m.serve s r).2 := by
  cases r with
  | submit j => exact hP.submit h j
  | work => exact (hP.lasting []).work h
  | iterate l =>
    have hi := (hP.lasting []).iterate (fun _ _ h => hP.pass h) h l
    -- without a name for it the kernel would run the iteration
    rcases hm : Service.iterate s l m with ⟨l', m'⟩
    simpa only [Manager.serve, hm] using hi
  | kill id c => exact (hP.lasting []).kill h id c
  | stop => exact absurd rfl hr
  | pass env => exact hP.pass h

end Admitting

/-- A lasting property that does not depend on the surroundings and that a submission does not end
either. -/
structure Enduring (s : Setup J E) (P : Manager J E → Prop) : Prop extends Lasting s P where
  pass : ∀ {m : Manager J E} {env : E}, P m → P { m with env := env }
  register : ∀ {m : Manager J E} {t : Ticket}, P m → P (m.register s t)
  enqueue : ∀ {m : Manager J E} {w : Waiting J}, P m → P (m.enqueue w)

namespace Enduring

variable {s : Setup J E} {P : Manager J E → Prop} (hP : Enduring s P) {m : Manager J E}

include hP

/-- What is on its way to the queue does not matter. -/
lemma admitting : Admitting s fun _ => P where
  lasting _ := hP.toLasting
  pass h := hP.pass h
  register _ h := hP.register h
  enqueue h := hP.enqueue h

lemma serve_of_ne_stop (h : P m) {r : Request J E} (hr : r ≠ .stop) : P (m.serve s r).2 :=
  hP.admitting.serve h hr

/-- Only a stop may end the property. -/
lemma serve (h : P m) {r : Request J E} {a : Answer J} {m' : Manager J E}
    (hr : m.serve s r = (.ok a, m')) (stop : ∀ x, r = .stop → Stopped s m x m' → P m') : P m' := by
  by_cases hstop : r = .stop
  · subst hstop
    obtain ⟨x, -, hx⟩ := stop_of_serve hr
    exact stop x rfl hx
  · have hm := hP.serve_of_ne_stop h hstop
    rw [hr] at hm
    exact hm

end Enduring

end Manager

/-! ## Scripts for small courses -/

/-- The default configuration, without a sink. -/
def Setup.bare : Setup Worker Host := ⟨Worker.kind, {}, none⟩

/-- A script whose status checks have the given outcomes, and whose other calls succeed. -/
def Worker.reporting (n : Nat) (checks : Lines (Outcome (Option Exit))) : Worker :=
  .script ⟨.ofNat n, "scan", .always (.ok ()), checks, .always (.ok ()),
    .always ⟨0, some (.ok .completed)⟩⟩

/-- A script that keeps running until it is waited for. -/
def Worker.endless (n : Nat) : Worker := .reporting n (.always (.ok none))

end SerialJobs
