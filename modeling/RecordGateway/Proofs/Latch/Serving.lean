import RecordGateway.Proofs.Latch

/-!
# Callers served in any order

Callers that come to a latch at once and do not give up are served in some order until all of them
have returned.  Whatever that order is, one of them shuts down if the latch was open, and none
otherwise; the latch is closed behind them if there were any.
-/

namespace RecordGateway.Latch

variable {l l' : Latch} {n : Nat} {a : LatchAction} {as bs past : List LatchAction}

/-- All callers have returned. -/
def Quiet (l : Latch) : Prop := ∀ i p, l.phase? i = some p → ∃ won, p = .returned won

/-- A latch to which callers have come that did not give up, and have all returned. -/
structure Settled (past : List LatchAction) (l : Latch) : Prop where
  tells : Tells past l
  kept : ∀ i, .drop i ∉ past
  quiet : l.Quiet

/-- The next `n` callers come, are served in some order, and have all returned in the end. -/
structure Serves (n : Nat) (as : List LatchAction) (l l' : Latch) : Prop where
  run : l.run as = some l'
  arrivals : as.count .arrive = n
  kept : ∀ i, .drop i ∉ as
  quiet : l'.Quiet

theorem settled_fresh : Settled [] fresh where
  tells := tells_fresh
  kept i hi := by cases hi
  quiet i p hi := by cases hi

theorem Settled.serves (hl : Settled past l) (h : Serves n as l l') : Settled (past ++ as) l' where
  tells := hl.tells.run h.run
  kept i hi := (List.mem_append.1 hi).elim (hl.kept i) (h.kept i)
  quiet := h.quiet

/-! ## How many callers there are -/

@[simp] theorem nextCaller_update (l : Latch) (i : Nat) (f : LatchCall → LatchCall) :
    (l.update i f).nextCaller = l.nextCaller := List.length_modify ..

/-- Callers are counted as they come, and no other action adds one or takes one away. -/
theorem nextCaller_step (h : l.step a = some l') :
    l'.nextCaller = l.nextCaller + [a].count .arrive := by
  cases a with
  | arrive =>
    cases h
    exact List.length_append
  | start i | finish i | observe i =>
    rw [step] at h
    split at h
    · cases h
      exact nextCaller_update l i _
    · cases h
  | drop i =>
    rw [step] at h
    split at h
    · cases h
      exact nextCaller_update l i _
    · split at h
      · cases h
        exact nextCaller_update l i _
      · cases h

theorem nextCaller_run (h : l.run as = some l') :
    l'.nextCaller = l.nextCaller + as.count .arrive := by
  induction as generalizing l with
  | nil =>
    cases h
    rfl
  | cons a as ih =>
    obtain ⟨l₁, hstep, hrun⟩ := run_cons_eq_some_iff.1 h
    rw [ih hrun, nextCaller_step hstep, Nat.add_assoc, ← List.count_append, List.singleton_append]

theorem phase?_eq_none_iff {i : Nat} : l.phase? i = none ↔ l.nextCaller ≤ i := by
  rw [phase?, Option.map_eq_none_iff]
  exact List.getElem?_eq_none_iff

theorem nextCallers_eq (l : Latch) (n : Nat) : l.nextCallers n = List.range' l.nextCaller n :=
  List.range'_eq_map_range.symm

/-! ## Who shuts down -/

theorem answer?_eq_true_iff {i : Nat} :
    l.answer? i = some true ↔ l.phase? i = some (.returned true) := by
  rw [answer?]
  split <;> simp_all

theorem Tells.exists_finish (ht : Tells as l) (hclosed : l.closed = true) :
    ∃ i, .finish i ∈ as := by
  apply Classical.byContradiction
  intro hnone
  have halive := ht.alive_iff.2 fun i hi ↦ hnone ⟨i, hi⟩
  rw [alive_eq_true_iff, hclosed] at halive
  cases halive

namespace Settled

variable (hl : Settled past l)

include hl

theorem permit_eq_none : l.permit = none := by
  rw [Option.eq_none_iff_forall_ne_some]
  intro i hi
  obtain ⟨won, hwon⟩ := hl.quiet i _ ((hl.tells.permit_iff i).1 hi)
  cases hwon

/-- So many shutdowns were started as latches have been closed. -/
theorem countP_isStart : past.countP LatchAction.isStart = l.closed.toNat := by
  rw [hl.tells.countP_isStart hl.kept, hl.permit_eq_none]
  rfl

/-- Nothing happens at a settled latch to which nobody comes. -/
theorem eq_nil_of_run (h : l.run as = some l') (hnone : as.count .arrive = 0) : as = [] := by
  cases as with
  | nil => rfl
  | cons a as =>
    obtain ⟨l₁, hstep, -⟩ := run_cons_eq_some_iff.1 h
    cases takes_of_step hstep with
    | arrive => simp at hnone
    | start hphase | finish hphase | observe hphase | giveUp hphase | cancel hphase =>
      obtain ⟨won, hwon⟩ := hl.quiet _ _ hphase
      cases hwon

/-- A latch is closed behind its callers, if there are any. -/
theorem closed_serves (h : Serves n as l l') : l'.closed = (l.closed || n != 0) := by
  cases hclosed : l.closed with
  | true => rw [(closed_run h.run hclosed).1, Bool.true_or]
  | false =>
    rw [Bool.false_or]
    by_cases hn : n = 0
    · have hnil := hl.eq_nil_of_run h.run (h.arrivals.trans hn)
      have hrun := h.run
      rw [hnil] at hrun
      cases hrun
      rw [hclosed, hn]
      rfl
    · have hcount := nextCaller_run h.run
      rw [h.arrivals] at hcount
      cases hphase : l'.phase? l.nextCaller with
      | none =>
        have hle := phase?_eq_none_iff.1 hphase
        omega
      | some p =>
        obtain ⟨won, rfl⟩ := h.quiet _ _ hphase
        rw [(hl.serves h).tells.closed_of_returned _ won hphase]
        simp [hn]

/-- One of the callers shuts down if the latch was open, and none otherwise. -/
theorem countP_isStart_serves (h : Serves n as l l') :
    as.countP LatchAction.isStart = (!l.closed && n != 0).toNat := by
  have hpast := hl.countP_isStart
  have hall := (hl.serves h).countP_isStart
  rw [List.countP_append, hpast, hl.closed_serves h] at hall
  cases hclosed : l.closed <;> simp_all

/-- Of the callers just served as many return `true` as have shut down. -/
theorem winners_serves (h : Serves n as l l') :
    l'.winners (l.nextCallers n) = (!l.closed && n != 0).toNat := by
  have hl' := hl.serves h
  have hcount := nextCaller_run h.run
  rw [h.arrivals] at hcount
  rw [winners, nextCallers_eq]
  cases hclosed : l.closed with
  | true =>
    -- Somebody has shut down before, and nobody does so again.
    rw [List.countP_eq_zero.2]
    · rfl
    intro i hi hwon
    obtain ⟨j, hj⟩ := hl.tells.exists_finish hclosed
    have hwon' := answer?_eq_true_iff.1 (beq_iff_eq.1 hwon)
    obtain rfl :=
      hl'.tells.eq_of_finish ((hl'.tells.won_iff i).1 hwon') (List.mem_append_left as hj)
    have hnone := phase?_eq_none_iff.2 (List.mem_range'_1.1 hi).1
    rw [(hl.tells.won_iff i).2 hj] at hnone
    cases hnone
  | false =>
    by_cases hn : n = 0
    · rw [hn]
      rfl
    -- The one who shuts down is one of those just served.
    have hclosed' := hl.closed_serves h
    rw [hclosed, Bool.false_or, bne_iff_ne.2 hn] at hclosed'
    obtain ⟨j, hj⟩ := hl'.tells.exists_finish hclosed'
    have hwon := (hl'.tells.won_iff j).2 hj
    have hmem : j ∈ List.range' l.nextCaller n := by
      rw [List.mem_range'_1]
      constructor
      · rw [← phase?_eq_none_iff, Option.eq_none_iff_forall_ne_some]
        intro p hp
        obtain ⟨won, rfl⟩ := hl.quiet j p hp
        rw [hl.tells.closed_of_returned j won hp] at hclosed
        cases hclosed
      · rw [← hcount, ← Nat.not_le, ← phase?_eq_none_iff, hwon]
        intro hnone
        cases hnone
    have heq : ∀ i ∈ List.range' l.nextCaller n,
        (l'.answer? i == some true) = true ↔ (i == j) = true := by
      intro i _
      rw [beq_iff_eq, beq_iff_eq, answer?_eq_true_iff]
      constructor
      · intro hi
        exact hl'.tells.eq_of_finish ((hl'.tells.won_iff i).1 hi) hj
      · rintro rfl
        exact hwon
    rw [List.countP_congr heq, ← List.count, List.Nodup.count (List.nodup_range' 1), if_pos hmem,
      bne_iff_ne.2 hn]
    rfl

end Settled

/-! ## Schedules -/

/-- Of some actions those can be taken, in order, that are taken when they are played, and all
arrivals are among them. -/
theorem exists_run_of_play (l : Latch) (as : List LatchAction) :
    ∃ bs, bs.Sublist as ∧ l.run bs = some (l.play as) ∧ bs.count .arrive = as.count .arrive := by
  induction as generalizing l with
  | nil => exact ⟨[], .slnil, rfl, rfl⟩
  | cons a as ih =>
    cases hstep : l.step a with
    | none =>
      obtain ⟨bs, hsub, hrun, hcount⟩ := ih l
      have ha : a ≠ .arrive := by
        rintro rfl
        cases hstep
      refine ⟨bs, hsub.cons a, ?_, ?_⟩
      · rw [hrun, play, play, List.foldl_cons, hstep]
        rfl
      · rw [hcount, List.count_cons_of_ne ha]
    | some l₁ =>
      obtain ⟨bs, hsub, hrun, hcount⟩ := ih l₁
      refine ⟨a :: bs, hsub.cons_cons a, ?_, ?_⟩
      · rw [run_cons_eq_some_iff]
        refine ⟨l₁, hstep, ?_⟩
        rw [hrun, play, play, List.foldl_cons, hstep]
        rfl
      · rw [List.count_cons, List.count_cons, hcount]

theorem play_append (l : Latch) (as bs : List LatchAction) :
    l.play (as ++ bs) = (l.play as).play bs := List.foldl_append

theorem play_cons (l : Latch) (a : LatchAction) (as : List LatchAction) :
    l.play (a :: as) = ((l.step a).getD l).play as := rfl

/-- What becomes of a waiting caller in its turn, at a closed latch or an open one. -/
def turn (closed : Bool) (c : LatchCall) : LatchCall :=
  if closed then c.answer else (c.goTo .running).setFlag.answer

/-- The latch when the turn of a waiting caller is over. -/
def served (l : Latch) (i : Nat) : Latch :=
  { l.update i (turn l.closed) with closed := true, permit := none }

theorem phase?_served {i : Nat} (h : l.phase? i = some .waiting) (j : Nat) :
    (l.served i).phase? j
      = if i = j then some (.returned (!l.closed || l.flag i)) else l.phase? j := by
  refine phase?_update h (fun c hc ↦ ?_) j
  rw [flag, hc]
  cases l.closed <;> rfl

theorem step_finish_served {i : Nat} (h : l.phase? i = some .waiting) :
    (l.served i).step (.finish i) = none := by
  rw [step, if_neg]
  rw [phase?_served h, if_pos rfl]
  intro hrunning
  cases hrunning

theorem step_observe_served {i : Nat} (h : l.phase? i = some .waiting) :
    (l.served i).step (.observe i) = none := by
  rw [step, if_neg]
  rw [phase?_served h, if_pos rfl]
  rintro ⟨hwaiting, -⟩
  cases hwaiting

/-- In its turn a waiting caller shuts down, or finds the latch closed. -/
theorem play_turn {i : Nat} (h : l.phase? i = some .waiting) (hfree : l.permit = none) :
    l.play [.start i, .finish i, .observe i] = l.served i
      ∧ l.play [.start i, .observe i, .finish i] = l.served i := by
  obtain ⟨closed, permit, calls⟩ := l
  obtain rfl : permit = none := hfree
  cases closed with
  | false =>
    let running : Latch := ⟨false, some i, calls.modify i (.goTo .running)⟩
    have hstart : step ⟨false, none, calls⟩ (.start i) = some running := if_pos ⟨h, rfl, rfl⟩
    have hphase : running.phase? i = some .running :=
      (phase?_goTo h .running i).trans (if_pos rfl)
    have hobserve : running.step (.observe i) = none := by
      rw [step, if_neg]
      rw [hphase]
      rintro ⟨hwaiting, -⟩
      cases hwaiting
    have hfinish : running.step (.finish i) = some (served ⟨false, none, calls⟩ i) := by
      rw [step, if_pos hphase]
      simp only [running, served, update, List.modify_modify_eq]
      rfl
    constructor
    · rw [play_cons, hstart, Option.getD_some, play_cons, hfinish, Option.getD_some, play_cons,
        step_observe_served h]
      rfl
    · rw [play_cons, hstart, Option.getD_some, play_cons, hobserve, Option.getD_none, play_cons,
        hfinish]
      rfl
  | true =>
    have hstart : step ⟨true, none, calls⟩ (.start i) = none := by
      rw [step, if_neg]
      rintro ⟨-, -, hopen⟩
      cases hopen
    have hfinish : step ⟨true, none, calls⟩ (.finish i) = none := by
      rw [step, if_neg]
      rw [h]
      intro hrunning
      cases hrunning
    have hobserve : step ⟨true, none, calls⟩ (.observe i) = some (served ⟨true, none, calls⟩ i) :=
      if_pos ⟨h, rfl⟩
    constructor
    · rw [play_cons, hstart, Option.getD_none, play_cons, hfinish, Option.getD_none, play_cons,
        hobserve]
      rfl
    · rw [play_cons, hstart, Option.getD_none, play_cons, hobserve, Option.getD_some, play_cons,
        step_finish_served h]
      rfl

theorem play_arrivals (l : Latch) (cs : List Nat) :
    l.play (cs.map fun _ ↦ .arrive)
      = { l with calls := l.calls ++ List.replicate cs.length {} } := by
  induction cs generalizing l with
  | nil => simp [play]
  | cons c cs ih =>
    rw [List.map_cons, play_cons, step, Option.getD_some, ih]
    simp [List.replicate_succ]

/-- When every waiting caller has had its turn, all have returned. -/
theorem quiet_play_turns {cs : List Nat} (hcs : cs.Nodup) (hfree : l.permit = none)
    (hwaiting : ∀ i ∈ cs, l.phase? i = some .waiting)
    (hother : ∀ i p, l.phase? i = some p → i ∈ cs ∨ ∃ won, p = .returned won) :
    (l.play (cs.flatMap fun i ↦ [.start i, .finish i, .observe i])).Quiet := by
  induction cs generalizing l with
  | nil =>
    intro i p hp
    exact (hother i p hp).resolve_left List.not_mem_nil
  | cons c cs ih =>
    obtain ⟨hc, hcs⟩ := List.nodup_cons.1 hcs
    have hturn := hwaiting c List.mem_cons_self
    rw [List.flatMap_cons, play_append, (play_turn hturn hfree).1]
    refine ih hcs rfl ?_ ?_
    · intro i hi
      have hne : c ≠ i := by
        rintro rfl
        exact hc hi
      rw [phase?_served hturn, if_neg hne]
      exact hwaiting i (List.mem_cons_of_mem c hi)
    · intro i p hp
      rw [phase?_served hturn] at hp
      split at hp
      · cases hp
        exact .inr ⟨_, rfl⟩
      next hne =>
        refine (hother i p hp).imp_left fun hmem ↦ ?_
        exact (List.mem_cons.1 hmem).resolve_left (Ne.symm hne)

/-- Behind the arrival of callers they wait, and all others have returned. -/
theorem Settled.phase?_arrivals (hl : Settled past l) (n : Nat) :
    (∀ i ∈ l.nextCallers n,
      (l.play ((l.nextCallers n).map fun _ ↦ .arrive)).phase? i = some .waiting) ∧
    ∀ i p, (l.play ((l.nextCallers n).map fun _ ↦ .arrive)).phase? i = some p →
      i ∈ l.nextCallers n ∨ ∃ won, p = .returned won := by
  rw [play_arrivals, nextCallers_eq, List.length_range']
  constructor
  · intro i hi
    obtain ⟨hle, hlt⟩ := List.mem_range'_1.1 hi
    change ((l.calls ++ List.replicate n ({} : LatchCall))[i]?).map LatchCall.phase = _
    have hnew : i - l.calls.length < n := by
      rw [nextCaller] at hle hlt
      omega
    rw [List.getElem?_append_right hle, List.getElem?_replicate, if_pos hnew]
    rfl
  · intro i p hp
    change ((l.calls ++ List.replicate n ({} : LatchCall))[i]?).map LatchCall.phase = _ at hp
    by_cases hold : i < l.calls.length
    · rw [List.getElem?_append_left hold] at hp
      exact .inr (hl.quiet i p hp)
    · rw [List.getElem?_append_right (Nat.not_lt.1 hold)] at hp
      obtain ⟨c, hc, -⟩ := Option.map_eq_some_iff.1 hp
      obtain ⟨hlt, -⟩ := List.getElem?_eq_some_iff.1 hc
      rw [List.length_replicate] at hlt
      left
      rw [List.mem_range'_1, nextCaller]
      omega

/-- To race is to be served in some order. -/
theorem Settled.serves_race (hl : Settled past l) (n : Nat) :
    ∃ as, Serves n as l (l.race n) := by
  obtain ⟨hwaiting, hother⟩ := hl.phase?_arrivals n
  have hfree : (l.play ((l.nextCallers n).map fun _ ↦ .arrive)).permit = none := by
    rw [play_arrivals]
    exact hl.permit_eq_none
  have hturns : ((l.nextCallers n).flatMap
      fun i ↦ [LatchAction.start i, .finish i, .observe i]).count .arrive = 0 := by
    rw [List.count_eq_zero]
    simp
  obtain ⟨as, hsub, hrun, hcount⟩ := l.exists_run_of_play
    ((l.nextCallers n).map (fun _ ↦ .arrive)
      ++ (l.nextCallers n).flatMap fun i ↦ [.start i, .finish i, .observe i])
  refine ⟨as, hrun, ?_, ?_, ?_⟩
  · rw [hcount, List.count_append, hturns, List.map_const', List.count_replicate_self,
      nextCallers_eq, List.length_range', Nat.add_zero]
  · intro i hi
    have hmem := hsub.subset hi
    simp at hmem
  · rw [race, play_append]
    refine quiet_play_turns ?_ hfree hwaiting hother
    rw [nextCallers_eq]
    exact List.nodup_range' 1

/-- To call is to race alone. -/
theorem Settled.call_eq_race (hl : Settled past l) : l.call = l.race 1 := by
  obtain ⟨hwaiting, -⟩ := hl.phase?_arrivals 1
  have hcaller : l.nextCallers 1 = [l.nextCaller] := rfl
  rw [hcaller] at hwaiting
  obtain ⟨hrace, hcall⟩ := play_turn (hwaiting l.nextCaller List.mem_cons_self) hl.permit_eq_none
  have hplay : l.race 1 = (l.play [.arrive]).play
      [.start l.nextCaller, .finish l.nextCaller, .observe l.nextCaller] := rfl
  rw [hplay]
  exact hcall.trans hrace.symm

end RecordGateway.Latch
