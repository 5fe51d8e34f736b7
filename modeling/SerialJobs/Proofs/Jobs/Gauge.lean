import Mathlib
import SerialJobs.Proofs.Jobs.Puppets

/-!
# What the gauge counts

Puppets that share a gauge are a troupe, and a call on one of them is a cue. The gauge is to count
the puppets on stage, those that have started and have not finished, and its peak is to be the
greatest number of them that there ever was.

It does so until a puppet that is not on stage finishes or a puppet that has finished is started
(`Troupe.gauge_counts_iff`). A termination does not ask whether the puppet was started. One that
gets through at once makes the puppet finish, and the gauge is lowered for somebody else
(`Troupe.gauge_misses_running`); and if the puppet is started after that, it is never off the gauge
again.

A wait is nothing but a row of status checks, so that the calls which are made while somebody waits
come between these checks.
-/

namespace SerialJobs

namespace Puppet

/-- The puppet was started and has not finished, and it has to do with the gauge. -/
def onStage (p : Puppet) : Bool := p.gauged && p.startedAt.isSome && p.finished.isNone

/-- The call makes the gauge go wrong, where so many puppets are on stage. -/
def Slips (p : Puppet) (others : Nat) : JobCall → Prop
  | .start => p.gauged ∧ p.behavior ≠ .failStart ∧ p.finished.isSome
  | .terminate _ => p.gauged ∧ p.terminateFailures = 0 ∧ p.killLag = 0 ∧
      p.startedAt = none ∧ p.finished = none ∧ 0 < others
  | _ => False

instance (p : Puppet) (others : Nat) : ∀ c, Decidable (p.Slips others c)
  | .start => inferInstanceAs (Decidable (_ ∧ _))
  | .terminate _ => inferInstanceAs (Decidable (_ ∧ _))
  | .tryExit => inferInstanceAs (Decidable False)
  | .wait _ => inferInstanceAs (Decidable False)

end Puppet

/-- A call on one of several puppets. -/
structure Cue where
  puppet : Nat
  call : JobCall
  /-- The surroundings in which the call is made, but for the gauge. -/
  host : Host

/-- The puppet that is started. -/
def Cue.starts? (c : Cue) : Option Nat := if c.call = .start then some c.puppet else none

/-- Puppets and the gauge that they share. -/
structure Troupe where
  puppets : List Puppet
  gauge : Gauge := {}

namespace Troupe

/-- The puppets on stage. -/
def headcount (t : Troupe) : Nat := t.puppets.countP (·.onStage)

/-- Makes a call on one of the puppets. -/
def act (t : Troupe) (c : Cue) : Troupe :=
  match t.puppets[c.puppet]? with
  | none => t
  | some p =>
    let r := Puppet.kind.call c.call p { c.host with gauge := t.gauge }
    ⟨t.puppets.set c.puppet r.job, r.env.gauge⟩

/-- Makes calls, one after the other. -/
def play (t : Troupe) (cs : List Cue) : Troupe := cs.foldl act t

/-- No call makes the gauge go wrong. -/
def Flawless (t : Troupe) : List Cue → Prop
  | [] => True
  | c :: cs => (∀ p ∈ t.puppets[c.puppet]?, ¬ p.Slips t.headcount c.call) ∧ (t.act c).Flawless cs

instance : ∀ (t : Troupe) (cs : List Cue), Decidable (t.Flawless cs)
  | _, [] => inferInstanceAs (Decidable True)
  | t, c :: cs =>
    have := instDecidableFlawless (t.act c) cs
    inferInstanceAs (Decidable (_ ∧ _))

/-- No puppet is started twice. -/
def StartsOnce (cs : List Cue) : Prop := (cs.filterMap Cue.starts?).Nodup

instance (cs : List Cue) : Decidable (StartsOnce cs) :=
  inferInstanceAs (Decidable (cs.filterMap Cue.starts?).Nodup)

/-- The gauge counts the puppets on stage, and its peak is the greatest number of them that there
was on the way. -/
def Counts (t : Troupe) (cs : List Cue) : Prop :=
  (t.play cs).gauge.current = (t.play cs).headcount ∧
    IsGreatest {n | ∃ cs', cs' <+: cs ∧ (t.play cs').headcount = n} (t.play cs).gauge.peak

variable {t t' t'' : Troupe} {i : Nat} {p q : Puppet} {h : Host} {c : Cue}

lemma act_of_absent (absent : t.puppets[c.puppet]? = none) : t.act c = t := by
  simp only [act, absent]

lemma act_of_cast (cast : t.puppets[c.puppet]? = some p) :
    t.act c =
      let r := Puppet.kind.call c.call p { c.host with gauge := t.gauge }
      ⟨t.puppets.set c.puppet r.job, r.env.gauge⟩ := by
  simp only [act, cast]

lemma play_concat (cs : List Cue) : t.play (cs ++ [c]) = (t.play cs).act c := by
  simp [play]

lemma flawless_concat (cs : List Cue) : t.Flawless (cs ++ [c]) ↔
    t.Flawless cs ∧ ∀ p ∈ (t.play cs).puppets[c.puppet]?, ¬ p.Slips (t.play cs).headcount c.call := by
  induction cs generalizing t with
  | nil => simp [Flawless, play]
  | cons d cs ih =>
    have step : t.play (d :: cs) = (t.act d).play cs := rfl
    rw [List.cons_append, Flawless, Flawless, ih, step, and_assoc]

/-! ## Puppets that come and go -/

/-- One puppet has changed, and the gauge. -/
structure Recast (t : Troupe) (i : Nat) (p q : Puppet) (t' : Troupe) : Prop where
  cast : t.puppets[i]? = some p
  puppets : t'.puppets = t.puppets.set i q

/-- The number of the puppets on stage differs by the one that has changed. -/
lemma Recast.headcount (recast : Recast t i p q t') :
    t'.headcount + p.onStage.toNat = t.headcount + q.onStage.toNat := by
  obtain ⟨inside, rfl⟩ := List.getElem?_eq_some_iff.mp recast.cast
  have present : t.puppets[i].onStage = true → 0 < t.puppets.countP (·.onStage) := fun on =>
    List.countP_pos_iff.mpr ⟨_, List.getElem_mem inside, on⟩
  simp only [Troupe.headcount, recast.puppets, List.countP_set inside]
  cases on : t.puppets[i].onStage with
  | false => cases q.onStage <;> simp
  | true =>
    have := present on
    cases q.onStage <;> simp <;> omega

/-- Nobody comes on stage, and the gauge goes down with the number of those who are. -/
structure Wanes (t t' : Troupe) : Prop where
  counts : t.gauge.current = t.headcount → t'.gauge.current = t'.headcount
  headcount : t'.headcount ≤ t.headcount
  peak : t'.gauge.peak = t.gauge.peak

lemma Wanes.refl (t : Troupe) : Wanes t t := ⟨id, Nat.le_refl _, rfl⟩

lemma Wanes.trans (first : Wanes t t') (second : Wanes t' t'') : Wanes t t'' :=
  ⟨second.counts ∘ first.counts, second.headcount.trans first.headcount,
    second.peak.trans first.peak⟩

/-- One puppet comes on stage. -/
structure Grows (t t' : Troupe) : Prop where
  headcount : t'.headcount = t.headcount + 1
  gauge : t'.gauge = t.gauge.enter

namespace Recast

variable (recast : Recast t i p q t')

include recast

lemma wanes (same : q.onStage = p.onStage) (gauge : t'.gauge = t.gauge) : Wanes t t' := by
  have count := recast.headcount
  rw [same] at count
  refine ⟨fun counts => ?_, by omega, by rw [gauge]⟩
  rw [gauge]
  omega

/-- A puppet finishes, which was on stage if any was. -/
lemma wanes_of_leave (finished : q.onStage = false)
    (present : p.gauged → p.startedAt.isSome ∧ p.finished = none ∨ t.headcount = 0)
    (gauge : t'.gauge = p.leaves t.gauge) : Wanes t t' := by
  have count := recast.headcount
  by_cases gauged : p.gauged
  · have current : t'.gauge.current = t.gauge.current - 1 := by
      rw [gauge, Puppet.leaves, if_pos gauged]
      rfl
    have peak : t'.gauge.peak = t.gauge.peak := by
      rw [gauge, Puppet.leaves, if_pos gauged]
      rfl
    simp only [finished, Bool.toNat_false] at count
    rcases present gauged with ⟨started, unfinished⟩ | empty
    · have on : p.onStage = true := by simp [Puppet.onStage, gauged, started, unfinished]
      simp only [on, Bool.toNat_true] at count
      exact ⟨fun counts => by omega, by omega, peak⟩
    · exact ⟨fun counts => by omega, by omega, peak⟩
  · have off : p.onStage = false := by simp [Puppet.onStage, gauged]
    have same : t'.gauge = t.gauge := by rw [gauge, Puppet.leaves, if_neg gauged]
    exact recast.wanes (finished.trans off.symm) same

/-- A puppet comes on stage, which has not been there. -/
lemma grows (gauged : p.gauged) (unstarted : p.startedAt = none) (started : q.onStage = true)
    (gauge : t'.gauge = p.enters t.gauge) : Grows t t' := by
  have count := recast.headcount
  have off : p.onStage = false := by simp [Puppet.onStage, unstarted]
  simp only [off, started, Bool.toNat_true, Bool.toNat_false] at count
  refine ⟨by omega, ?_⟩
  rw [gauge, Puppet.enters, if_pos gauged]

/-- A puppet that is not on stage, and does not get there, does not change the number of those who
are. -/
lemma headcount_of_off (off : p.onStage = false) (off' : q.onStage = false) :
    t'.headcount = t.headcount := by
  have count := recast.headcount
  rw [off, off'] at count
  omega

end Recast

/-! ## The calls -/

/-- A call changes the puppet that it is made on. -/
lemma recast_act (cast : t.puppets[c.puppet]? = some p) :
    Recast t c.puppet p (Puppet.kind.call c.call p { c.host with gauge := t.gauge }).job
        (t.act c) ∧
      (t.act c).gauge = (Puppet.kind.call c.call p { c.host with gauge := t.gauge }).env.gauge := by
  rw [act_of_cast cast]
  exact ⟨⟨cast, rfl⟩, rfl⟩

/-- After a status check there is no more to count than before. -/
lemma wanes_of_checked {r : Reply Puppet Host (Outcome (Option Exit))} (checked : p.Checked h r)
    (recast : Recast t i p r.job t') (before : h.gauge = t.gauge)
    (after : t'.gauge = r.env.gauge) : Wanes t t' := by
  cases checked with
  | known finished gauge => exact recast.wanes rfl (after.trans (gauge.trans before))
  | quiet unfinished silent gauge => exact recast.wanes rfl (after.trans (gauge.trans before))
  | finishes unfinished started gauge =>
    rw [before] at gauge
    exact recast.wanes_of_leave (by simp [Puppet.onStage]) (fun _ => .inl ⟨started, unfinished⟩)
      (after.trans gauge)

/-- After a termination that does not slip there is no more to count than before. -/
lemma wanes_of_ended {k : KillCommand} {r : Reply Puppet Host (Outcome Unit)}
    (ended : p.Ended k h r) (recast : Recast t i p r.job t') (before : h.gauge = t.gauge)
    (after : t'.gauge = r.env.gauge) (steady : ¬ p.Slips t.headcount (.terminate k)) :
    Wanes t t' := by
  cases ended with
  | failed fails gauge => exact recast.wanes rfl (after.trans (gauge.trans before))
  | noted delivers lags gauge => exact recast.wanes rfl (after.trans (gauge.trans before))
  | known delivers ready finished gauge =>
    exact recast.wanes rfl (after.trans (gauge.trans before))
  | finishes delivers ready unfinished gauge =>
    rw [before] at gauge
    refine recast.wanes_of_leave (by simp [Puppet.onStage]) (fun gauged => ?_) (after.trans gauge)
    rcases started : p.startedAt with _ | n
    · -- it is not on stage, and nobody is
      exact .inr (by simpa [Puppet.Slips, gauged, delivers, ready, started, unfinished] using steady)
    · exact .inl ⟨rfl, unfinished⟩

/-- A termination that slips makes the gauge go down, but nobody leaves the stage. -/
lemma miscounts_of_ended {k : KillCommand} {r : Reply Puppet Host (Outcome Unit)}
    (ended : p.Ended k h r) (recast : Recast t i p r.job t') (before : h.gauge = t.gauge)
    (after : t'.gauge = r.env.gauge) (slips : p.Slips t.headcount (.terminate k))
    (counts : t.gauge.current = t.headcount) : t'.gauge.current ≠ t'.headcount := by
  obtain ⟨gauged, delivers, ready, unstarted, unfinished, others⟩ := slips
  cases ended with
  | failed fails => omega
  | noted delivers lags => omega
  | known delivers ready finished => simp [unfinished] at finished
  | finishes delivers ready unfinished gauge =>
    have same := recast.headcount_of_off (by simp [Puppet.onStage, unstarted])
      (by simp [Puppet.onStage])
    have current : t'.gauge.current = t.gauge.current - 1 := by
      rw [after, gauge, before, Puppet.leaves, if_pos gauged]
      rfl
    omega

/-- After a start that does not slip all is as it was, or one more puppet is on stage. -/
lemma wanes_or_grows_of_begun {r : Reply Puppet Host (Outcome Unit)} (begun : p.Begun h r)
    (recast : Recast t i p r.job t') (before : h.gauge = t.gauge) (after : t'.gauge = r.env.gauge)
    (unstarted : p.startedAt = none) (steady : ¬ p.Slips t.headcount .start) :
    Wanes t t' ∨ Grows t t' := by
  cases begun with
  | failed fails gauge => exact .inl (recast.wanes rfl (after.trans (gauge.trans before)))
  | started starts gauge =>
    rw [before] at gauge
    by_cases gauged : p.gauged
    · have unfinished : p.finished = none := by
        simpa [Puppet.Slips, gauged, starts] using steady
      exact .inr (recast.grows gauged unstarted (by simp [Puppet.onStage, gauged, unfinished])
        (after.trans gauge))
    · have same : p.enters t.gauge = t.gauge := if_neg gauged
      exact .inl (recast.wanes (by simp [Puppet.onStage, gauged])
        (after.trans (gauge.trans same)))

/-- A start that slips makes the gauge go up, but nobody comes on stage. -/
lemma miscounts_of_begun {r : Reply Puppet Host (Outcome Unit)} (begun : p.Begun h r)
    (recast : Recast t i p r.job t') (before : h.gauge = t.gauge) (after : t'.gauge = r.env.gauge)
    (slips : p.Slips t.headcount .start) (counts : t.gauge.current = t.headcount) :
    t'.gauge.current ≠ t'.headcount := by
  obtain ⟨gauged, starts, finished⟩ := slips
  have closed : p.finished.isNone = false := by simp [finished]
  cases begun with
  | failed fails => exact absurd fails starts
  | started _ gauge =>
    have same := recast.headcount_of_off (by simp [Puppet.onStage, closed])
      (by simp [Puppet.onStage, closed])
    have current : t'.gauge.current = t.gauge.current + 1 := by
      rw [after, gauge, before, Puppet.enters, if_pos gauged]
      rfl
    omega

/-! ## Waits -/

lemma wanes_check (t : Troupe) (i : Nat) (h : Host) : Wanes t (t.act ⟨i, .tryExit, h⟩) := by
  rcases cast : t.puppets[i]? with _ | p
  · rw [act_of_absent cast]
    exact .refl t
  · obtain ⟨recast, after⟩ := recast_act (c := ⟨i, .tryExit, h⟩) cast
    exact wanes_of_checked (p.checked_tryExit _) recast rfl after

/-- Status checks on one of the puppets, each in surroundings of its own. -/
def checks (i : Nat) (hs : List Host) : List Cue := hs.map fun h => ⟨i, .tryExit, h⟩

lemma wanes_checks (t : Troupe) (i : Nat) (hs : List Host) : Wanes t (t.play (checks i hs)) := by
  induction hs generalizing t with
  | nil => exact .refl t
  | cons h hs ih => exact (wanes_check t i h).trans (ih _)

/-- A look in the shared surroundings is a status check. -/
lemma act_of_look {x y : Puppet × Host} {o : Option WaitOutcome}
    (looked : Puppet.look x = (o, y)) (cast : t.puppets[i]? = some x.1)
    (shared : x.2.gauge = t.gauge) :
    t.act ⟨i, .tryExit, x.2⟩ = ⟨t.puppets.set i y.1, y.2.gauge⟩ := by
  obtain ⟨-, rfl⟩ := Prod.mk.inj looked
  have same : { x.2 with gauge := t.gauge } = x.2 := by rw [← shared]
  rw [act_of_cast cast, same]
  rfl

/-- Looking again and again at a puppet is a row of status checks. -/
lemma play_of_looked {x : Puppet × Host} {r : Option WaitOutcome × Puppet × Host}
    (looked : Stage.Looked Puppet.look Puppet.Undisturbed x r) {t : Troupe}
    (cast : t.puppets[i]? = some x.1) (shared : x.2.gauge = t.gauge) :
    ∃ hs, t.play (checks i hs) = ⟨t.puppets.set i r.2.1, r.2.2.gauge⟩ := by
  induction looked generalizing t with
  | @seen x y o looked => exact ⟨[x.2], act_of_look looked cast shared⟩
  | @last x y z looked passes =>
    have gauge : z.2.gauge = y.2.gauge := congrArg Prod.fst passes.2
    refine ⟨[x.2], ?_⟩
    simp only [passes.1, gauge]
    exact act_of_look looked cast shared
  | @again x y z r looked passes rest ih =>
    have gauge : z.2.gauge = y.2.gauge := congrArg Prod.fst passes.2
    have inside := (List.getElem?_eq_some_iff.mp cast).1
    obtain ⟨hs, played⟩ := ih (t := ⟨t.puppets.set i y.1, y.2.gauge⟩)
      (by simp [inside, passes.1]) gauge
    refine ⟨x.2 :: hs, ?_⟩
    show (t.act ⟨i, .tryExit, x.2⟩).play (checks i hs) = _
    rw [act_of_look looked cast shared, played, List.set_set]

/-- A wait is a row of status checks. -/
lemma act_wait (t : Troupe) (i : Nat) (limit : Duration) (h : Host) :
    ∃ hs, t.act ⟨i, .wait limit, h⟩ = t.play (checks i hs) := by
  rcases cast : t.puppets[i]? with _ | p
  · exact ⟨[], act_of_absent cast⟩
  · obtain ⟨seen, -, looked⟩ := p.looked_wait { h with gauge := t.gauge } limit
    obtain ⟨hs, played⟩ := play_of_looked looked cast rfl
    exact ⟨hs, (act_of_cast cast).trans played.symm⟩

/-! ## Runs -/

/-- A call that does not slip. -/
lemma act_of_steady (unstarted : c.call = .start → ∀ p ∈ t.puppets[c.puppet]?, p.startedAt = none)
    (steady : ∀ p ∈ t.puppets[c.puppet]?, ¬ p.Slips t.headcount c.call) :
    Wanes t (t.act c) ∨ Grows t (t.act c) := by
  obtain ⟨i, call, h⟩ := c
  rcases cast : t.puppets[i]? with _ | p
  · rw [act_of_absent cast]
    exact .inl (.refl t)
  · obtain ⟨recast, after⟩ := recast_act (c := ⟨i, call, h⟩) cast
    have steady := steady p cast
    cases call with
    | start =>
      exact wanes_or_grows_of_begun (p.begun_start _) recast rfl after (unstarted rfl p cast) steady
    | tryExit => exact .inl (wanes_check t i h)
    | terminate k => exact .inl (wanes_of_ended (p.ended_terminate _ k) recast rfl after steady)
    | wait limit =>
      obtain ⟨hs, row⟩ := t.act_wait i limit h
      rw [row]
      exact .inl (wanes_checks t i hs)

/-- A call that slips. -/
lemma miscounts_of_slip (cast : t.puppets[c.puppet]? = some p)
    (slips : p.Slips t.headcount c.call) (counts : t.gauge.current = t.headcount) :
    (t.act c).gauge.current ≠ (t.act c).headcount := by
  obtain ⟨i, call, h⟩ := c
  obtain ⟨recast, after⟩ := recast_act (c := ⟨i, call, h⟩) cast
  cases call with
  | start => exact miscounts_of_begun (p.begun_start _) recast rfl after slips counts
  | terminate k => exact miscounts_of_ended (p.ended_terminate _ k) recast rfl after slips counts
  | _ => exact slips.elim

/-- When the puppets were started. -/
def startTimes (t : Troupe) : List (Option Nat) := t.puppets.map (·.startedAt)

lemma Recast.startTimes (recast : Recast t i p q t') :
    t'.startTimes = t.startTimes.set i q.startedAt := by
  rw [Troupe.startTimes, recast.puppets, List.map_set]
  rfl

lemma Recast.startTimes_of_same (recast : Recast t i p q t') (same : q.startedAt = p.startedAt) :
    t'.startTimes = t.startTimes := by
  obtain ⟨inside, rfl⟩ := List.getElem?_eq_some_iff.mp recast.cast
  have inside' : i < t.startTimes.length := by simpa [Troupe.startTimes] using inside
  have there : t.puppets[i].startedAt = t.startTimes[i] := by simp [Troupe.startTimes]
  rw [recast.startTimes, same, there]
  exact List.set_getElem_self inside'

lemma startTimes_checks (t : Troupe) (i : Nat) (hs : List Host) :
    (t.play (checks i hs)).startTimes = t.startTimes := by
  induction hs generalizing t with
  | nil => rfl
  | cons h hs ih =>
    refine (ih _).trans ?_
    rcases cast : t.puppets[i]? with _ | p
    · rw [act_of_absent cast]
    · obtain ⟨recast, -⟩ := recast_act (c := ⟨i, .tryExit, h⟩) cast
      exact recast.startTimes_of_same (p.checked_tryExit _).startedAt

/-- Only a start of a puppet changes when it was started. -/
lemma startTimes_act (other : c.starts? ≠ some i) :
    (t.act c).startTimes[i]? = t.startTimes[i]? := by
  obtain ⟨n, call, h⟩ := c
  rcases cast : t.puppets[n]? with _ | p
  · rw [act_of_absent cast]
  · obtain ⟨recast, -⟩ := recast_act (c := ⟨n, call, h⟩) cast
    cases call with
    | start =>
      have elsewhere : n ≠ i := by simpa [Cue.starts?] using other
      rw [recast.startTimes, List.getElem?_set_ne elsewhere]
    | tryExit => rw [recast.startTimes_of_same (p.checked_tryExit _).startedAt]
    | terminate k => rw [recast.startTimes_of_same (p.ended_terminate _ k).startedAt]
    | wait limit =>
      obtain ⟨hs, row⟩ := t.act_wait n limit h
      rw [row, startTimes_checks]

lemma startTimes_play {cs : List Cue} (other : i ∉ cs.filterMap Cue.starts?) :
    (t.play cs).startTimes[i]? = t.startTimes[i]? := by
  induction cs generalizing t with
  | nil => rfl
  | cons c cs ih =>
    simp only [List.mem_filterMap, List.mem_cons, exists_eq_or_imp, not_or] at other ih
    exact (ih other.2).trans (startTimes_act other.1)

/-- A puppet that is started last of all was not started before. -/
lemma unstarted_of_once {ps : List Puppet} (new : ∀ p ∈ ps, p.IsNew) {cs : List Cue}
    (once : StartsOnce (cs ++ [c])) (start : c.call = .start) :
    ∀ p ∈ ((Troupe.mk ps {}).play cs).puppets[c.puppet]?, p.startedAt = none := by
  intro p cast
  have other : c.puppet ∉ cs.filterMap Cue.starts? := by
    have nodup : (cs.filterMap Cue.starts? ++ [c].filterMap Cue.starts?).Nodup := by
      simpa [StartsOnce] using once
    intro started
    exact (List.nodup_append.mp nodup).2.2 _ started _ (by simp [Cue.starts?, start]) rfl
  have same := startTimes_play (t := ⟨ps, {}⟩) other
  simp only [startTimes, List.getElem?_map, Option.mem_def.mp cast, Option.map_some] at same
  obtain ⟨p₀, there, unstarted⟩ := Option.map_eq_some_iff.mp same.symm
  rw [← unstarted, (new p₀ (List.mem_of_getElem? there)).startedAt]

/-! ## The count is right until a call slips -/

/-- The numbers of puppets on stage that there have been on the way. -/
lemma onTheWay_concat (t : Troupe) (cs : List Cue) (c : Cue) :
    {n | ∃ cs', cs' <+: cs ++ [c] ∧ (t.play cs').headcount = n} =
      insert (t.play (cs ++ [c])).headcount
        {n | ∃ cs', cs' <+: cs ∧ (t.play cs').headcount = n} := by
  ext n
  simp only [Set.mem_ofPred_eq, Set.mem_insert_iff, List.prefix_concat_iff]
  constructor
  · rintro ⟨cs', rfl | before, rfl⟩
    · exact .inl rfl
    · exact .inr ⟨cs', before, rfl⟩
  · rintro (rfl | ⟨cs', before, rfl⟩)
    · exact ⟨_, .inl rfl, rfl⟩
    · exact ⟨cs', .inr before, rfl⟩

lemma Counts.concat {cs : List Cue} (counts : t.Counts cs)
    (step : Wanes (t.play cs) ((t.play cs).act c) ∨ Grows (t.play cs) ((t.play cs).act c)) :
    t.Counts (cs ++ [c]) := by
  obtain ⟨current, peak⟩ := counts
  have highest := peak.insert (t.play (cs ++ [c])).headcount
  rw [← onTheWay_concat, play_concat] at highest
  rcases step with wanes | grows
  · have low : ((t.play cs).act c).headcount ≤ (t.play cs).gauge.peak :=
      wanes.headcount.trans (peak.2 ⟨cs, List.prefix_rfl, rfl⟩)
    rw [max_eq_right low, ← wanes.peak, ← play_concat] at highest
    exact ⟨by rw [play_concat]; exact wanes.counts current, highest⟩
  · have up : max ((t.play cs).act c).headcount (t.play cs).gauge.peak =
        ((t.play cs).act c).gauge.peak := by
      rw [grows.gauge, grows.headcount, ← current, max_comm]
      rfl
    rw [up, ← play_concat] at highest
    refine ⟨?_, highest⟩
    rw [play_concat, grows.gauge, grows.headcount, ← current]
    rfl

/-- New puppets that share a new gauge, each of which is started at most once. The gauge counts
those on stage and its peak is their greatest number so far, at every moment, exactly if no call
slips: if no puppet is started after it has finished, and none that was not started is made to
finish while others are on stage. A wait is a row of status checks, between which there may be
other calls. -/
theorem gauge_counts_iff {ps : List Puppet} (new : ∀ p ∈ ps, p.IsNew) {cs : List Cue}
    (once : StartsOnce cs) :
    ((∀ cs', cs' <+: cs → (Troupe.mk ps {}).Counts cs') ↔ (Troupe.mk ps {}).Flawless cs) ∧
      ∀ (t : Troupe) i limit h, ∃ hs, t.act ⟨i, .wait limit, h⟩ = t.play (checks i hs) := by
  refine ⟨?_, act_wait⟩
  induction cs using List.reverseRecOn with
  | nil =>
    have empty : (Troupe.mk ps {}).headcount = 0 := by
      refine List.countP_eq_zero.mpr fun p hp => ?_
      simp [Puppet.onStage, (new p hp).startedAt]
    have counts : (Troupe.mk ps {}).Counts [] := by
      refine ⟨empty.symm, ⟨[], List.prefix_rfl, empty⟩, ?_⟩
      rintro n ⟨cs', before, rfl⟩
      rw [List.prefix_nil.mp before]
      exact empty.le
    simp [Flawless, List.prefix_nil, counts]
  | append_singleton cs c ih =>
    have once' : StartsOnce cs := by
      have nodup : (cs.filterMap Cue.starts? ++ [c].filterMap Cue.starts?).Nodup := by
        simpa [StartsOnce] using once
      exact nodup.of_append_left
    rw [flawless_concat, ← ih once']
    constructor
    · intro counts
      refine ⟨fun cs' before => counts cs' (before.trans (List.prefix_append ..)), ?_⟩
      intro p cast slips
      have before := (counts cs (List.prefix_append ..)).1
      have after := (counts (cs ++ [c]) List.prefix_rfl).1
      rw [play_concat] at after
      exact miscounts_of_slip cast slips before after
    · rintro ⟨counts, steady⟩ cs' before
      rcases List.prefix_concat_iff.mp before with rfl | before
      · exact (counts cs List.prefix_rfl).concat (act_of_steady (unstarted_of_once new once) steady)
      · exact counts cs' before

/-- Two puppets that share a gauge, the second of which takes its time to finish. -/
def duo : List Puppet :=
  let p : Puppet := ⟨.ofNat 1, "mock", .untilKilled, .completed, 0, false, 0, 0, true, 0, none, none,
    none⟩
  [p, { p with terminateFailures := 1, killLag := 1 }]

lemma new_duo : ∀ p ∈ duo, p.IsNew := by
  simp only [duo, List.mem_cons, List.not_mem_nil, or_false, forall_eq_or_imp, forall_eq]
  exact ⟨⟨rfl, rfl, rfl⟩, rfl, rfl, rfl⟩

/-- Both are started and terminated, and somebody waits for the second one. -/
def scene : List Cue :=
  [⟨0, .start, {}⟩, ⟨1, .start, {}⟩, ⟨0, .terminate .cancel, {}⟩, ⟨0, .terminate .pause, {}⟩,
    ⟨1, .terminate .cancel, {}⟩, ⟨1, .terminate .cancel, {}⟩, ⟨1, .wait (.ofNanos 20000000), {}⟩]

/-- The gauge counts up to two and back to none. -/
theorem gauge_counts_iff_duo :
    let t : Troupe := ⟨duo, {}⟩
    (∀ p ∈ duo, p.IsNew) ∧ StartsOnce scene ∧ t.Flawless scene ∧
      (t.play (scene.take 4)).gauge = ⟨1, 2⟩ ∧ (t.play scene).gauge = ⟨0, 2⟩ ∧
      ∀ cs', cs' <+: scene → t.Counts cs' := by
  have once : StartsOnce scene := by decide
  have flawless : (Troupe.mk duo {}).Flawless scene := of_decide_eq_true (by cbv)
  exact ⟨new_duo, once, flawless, of_decide_eq_true (by cbv), of_decide_eq_true (by cbv),
    (gauge_counts_iff new_duo once).1.mpr flawless⟩

/-- The first one is started and the other one, which is not, is terminated. -/
def mixUp : List Cue := [⟨1, .start, {}⟩, ⟨0, .terminate .cancel, {}⟩]

/-- The gauge does not count a puppet that runs, once another one was terminated before its start. -/
theorem gauge_misses_running :
    let t : Troupe := ⟨duo, {}⟩
    (∀ p ∈ duo, p.IsNew) ∧ StartsOnce mixUp ∧
      (t.play mixUp).headcount = 1 ∧ (t.play mixUp).gauge.current = 0 ∧ ¬ t.Counts mixUp := by
  have headcount : ((Troupe.mk duo {}).play mixUp).headcount = 1 := of_decide_eq_true (by cbv)
  have current : ((Troupe.mk duo {}).play mixUp).gauge.current = 0 := of_decide_eq_true (by cbv)
  refine ⟨new_duo, by decide, headcount, current, fun counts => ?_⟩
  have same := counts.1
  omega

end Troupe
end SerialJobs
