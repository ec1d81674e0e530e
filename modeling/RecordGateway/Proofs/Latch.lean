import RecordGateway.Latch

/-!
# One shutdown closes a latch

Callers may arrive, run their shutdowns, wait and give up in any order.  All the same one shutdown
at most is running, and one at most comes to its end, which closes the latch for good.  A call
returns from a closed latch only, and its flag is set exactly if its own shutdown closed it.  What a
latch shows at any time is tied to the actions that were taken at it (`Tells`); this is kept by
every action and so by every run.
-/

namespace RecordGateway

namespace LatchAction

/-- Does the action start a shutdown? -/
def isStart : LatchAction → Bool
  | start _ => true
  | _ => false

/-- Does the action bring a shutdown to its end? -/
def isFinish : LatchAction → Bool
  | finish _ => true
  | _ => false

end LatchAction

namespace Latch

variable {l l' : Latch} {i j : Nat} {a : LatchAction} {as bs : List LatchAction}

/-! ## What an action does -/

theorem getElem?_nextCaller (l : Latch) : l.calls[l.nextCaller]? = none :=
  List.getElem?_eq_none (Nat.le_refl _)

theorem phase?_nextCaller (l : Latch) : l.phase? l.nextCaller = none := by
  rw [phase?, getElem?_nextCaller, Option.map_none]

/-- A new call gets the next number. -/
theorem getElem?_arrive (l : Latch) (j : Nat) :
    (l.calls ++ [({} : LatchCall)])[j]? = if l.nextCaller = j then some {} else l.calls[j]? := by
  rw [nextCaller]
  split
  next h => rw [← h, List.getElem?_concat_length]
  next h =>
    by_cases hj : j < l.calls.length
    · rw [List.getElem?_append_left hj]
    · rw [List.getElem?_eq_none (by simp; omega), List.getElem?_eq_none (by omega)]

theorem phase?_arrive (l : Latch) (j : Nat) :
    phase? { l with calls := l.calls ++ [{}] } j
      = if l.nextCaller = j then some .waiting else l.phase? j := by
  rw [phase?, getElem?_arrive, phase?]
  split <;> rfl

/-- The flag of a new call is not set. -/
theorem flag_arrive (l : Latch) (j : Nat) :
    flag { l with calls := l.calls ++ [{}] } j = l.flag j := by
  rw [flag, getElem?_arrive, flag]
  split
  next h =>
    rw [← h, getElem?_nextCaller]
    rfl
  next => rfl

section update

variable {p : CallPhase} {f : LatchCall → LatchCall}

/-- A call that is there goes into the phase that its change says, and all others stay in theirs. -/
theorem phase?_update (h : l.phase? i = some p) {q : CallPhase}
    (hf : ∀ c ∈ l.calls[i]?, (f c).phase = q) (j : Nat) :
    (l.update i f).phase? j = if i = j then some q else l.phase? j := by
  obtain ⟨c, hc, -⟩ := Option.map_eq_some_iff.1 h
  rw [phase?, update, List.getElem?_modify, phase?]
  split
  next hij =>
    subst hij
    rw [hc]
    exact congrArg some (hf c hc)
  next => simp

theorem phase?_goTo (h : l.phase? i = some p) (q : CallPhase) (j : Nat) :
    (l.update i (.goTo q)).phase? j = if i = j then some q else l.phase? j :=
  phase?_update h (fun c _ ↦ c.phase_goTo q) j

/-- A call returns what its flag says. -/
theorem phase?_answer (h : l.phase? i = some p) (j : Nat) :
    (l.update i LatchCall.answer).phase? j
      = if i = j then some (.returned (l.flag i)) else l.phase? j := by
  refine phase?_update h (fun c hc ↦ ?_) j
  rw [flag, hc]
  rfl

/-- The flags do not change if that of the call does not. -/
theorem flag_update (hf : ∀ c, (f c).ran = c.ran) (i j : Nat) :
    (l.update i f).flag j = l.flag j := by
  rw [flag, update, List.getElem?_modify, flag]
  cases l.calls[j]? with
  | none => rfl
  | some c =>
    change (if i = j then f c else c).ran = c.ran
    split
    · exact hf c
    · rfl

/-- The shutdown of a call sets its flag and no other. -/
theorem flag_setFlag (h : l.phase? i = some p) (j : Nat) :
    (l.update i fun c ↦ c.setFlag.answer).flag j = (i == j || l.flag j) := by
  obtain ⟨c, hc, -⟩ := Option.map_eq_some_iff.1 h
  rw [flag, update, List.getElem?_modify, flag]
  by_cases hij : i = j
  · subst hij
    rw [hc, beq_self_eq_true, Bool.true_or]
    simp [LatchCall.setFlag, LatchCall.answer, LatchCall.goTo]
  · rw [beq_false_of_ne hij, Bool.false_or]
    simp [hij]

end update

/-- What an action needs, and what is seen behind it. -/
inductive Takes (l l' : Latch) : LatchAction → Prop
  | arrive (hphase : ∀ j, l'.phase? j = if l.nextCaller = j then some .waiting else l.phase? j)
      (hflag : ∀ j, l'.flag j = l.flag j) (hpermit : l'.permit = l.permit)
      (hclosed : l'.closed = l.closed) : Takes l l' .arrive
  | start {i : Nat} (hwaiting : l.phase? i = some .waiting) (hfree : l.permit = none)
      (hopen : l.closed = false)
      (hphase : ∀ j, l'.phase? j = if i = j then some .running else l.phase? j)
      (hflag : ∀ j, l'.flag j = l.flag j) (hpermit : l'.permit = some i)
      (hclosed : l'.closed = false) : Takes l l' (.start i)
  | finish {i : Nat} (hrunning : l.phase? i = some .running)
      (hphase : ∀ j, l'.phase? j = if i = j then some (.returned true) else l.phase? j)
      (hflag : ∀ j, l'.flag j = (i == j || l.flag j)) (hpermit : l'.permit = none)
      (hclosed : l'.closed = true) : Takes l l' (.finish i)
  | observe {i : Nat} (hwaiting : l.phase? i = some .waiting)
      (hphase : ∀ j, l'.phase? j = if i = j then some (.returned (l.flag i)) else l.phase? j)
      (hflag : ∀ j, l'.flag j = l.flag j) (hpermit : l'.permit = l.permit)
      (hold : l.closed = true) (hclosed : l'.closed = true) : Takes l l' (.observe i)
  | giveUp {i : Nat} (hwaiting : l.phase? i = some .waiting)
      (hphase : ∀ j, l'.phase? j = if i = j then some .dropped else l.phase? j)
      (hflag : ∀ j, l'.flag j = l.flag j) (hpermit : l'.permit = l.permit)
      (hclosed : l'.closed = l.closed) : Takes l l' (.drop i)
  | cancel {i : Nat} (hrunning : l.phase? i = some .running)
      (hphase : ∀ j, l'.phase? j = if i = j then some .dropped else l.phase? j)
      (hflag : ∀ j, l'.flag j = l.flag j) (hpermit : l'.permit = none)
      (hclosed : l'.closed = l.closed) : Takes l l' (.drop i)

theorem takes_of_step (h : l.step a = some l') : l.Takes l' a := by
  cases a with
  | arrive =>
    cases h
    exact .arrive l.phase?_arrive l.flag_arrive rfl rfl
  | start i =>
    rw [step] at h
    split at h
    next hcan =>
      cases h
      obtain ⟨hwaiting, hfree, hopen⟩ := hcan
      exact .start hwaiting hfree hopen (phase?_goTo hwaiting .running)
        (flag_update (LatchCall.ran_goTo .running) i) rfl hopen
    next => cases h
  | finish i =>
    rw [step] at h
    split at h
    next hrunning =>
      cases h
      exact .finish hrunning (phase?_update hrunning fun _ _ ↦ rfl) (flag_setFlag hrunning) rfl rfl
    next => cases h
  | observe i =>
    rw [step] at h
    split at h
    next hcan =>
      cases h
      obtain ⟨hwaiting, hclosed⟩ := hcan
      exact .observe hwaiting (phase?_answer hwaiting) (flag_update LatchCall.ran_answer i) rfl
        hclosed hclosed
    next => cases h
  | drop i =>
    rw [step] at h
    split at h
    next hwaiting =>
      cases h
      exact .giveUp hwaiting (phase?_goTo hwaiting .dropped)
        (flag_update (LatchCall.ran_goTo .dropped) i) rfl rfl
    next =>
      split at h
      next hrunning =>
        cases h
        exact .cancel hrunning (phase?_goTo hrunning .dropped)
          (flag_update (LatchCall.ran_goTo .dropped) i) rfl rfl
      next => cases h

/-- A running shutdown goes on as long as it neither ends nor is given up. -/
theorem Takes.running_of_ne (h : l.Takes l' a) (hj : l.phase? j = some .running)
    (hfinish : a ≠ .finish j) (hdrop : a ≠ .drop j) : l'.phase? j = some .running := by
  cases h with
  | arrive hphase => grind [phase?_nextCaller]
  | start _ _ _ hphase | observe _ hphase | giveUp _ hphase => grind
  | finish _ hphase | cancel _ hphase => grind

/-! ## What a latch tells -/

/-- What a latch tells of the actions that were taken at it. -/
structure Tells (as : List LatchAction) (l : Latch) : Prop where
  /-- The caller that holds the permit is the one whose shutdown is running. -/
  permit_iff : ∀ i, l.permit = some i ↔ l.phase? i = some .running
  /-- Nobody holds the permit of a closed latch. -/
  free_of_closed : l.closed = true → l.permit = none
  /-- A call has returned from a closed latch. -/
  closed_of_returned : ∀ i won, l.phase? i = some (.returned won) → l.closed = true
  /-- The flags that are set are those of the calls whose shutdown came to its end. -/
  flag_iff : ∀ i, l.flag i = true ↔ .finish i ∈ as
  /-- The calls that returned `true` are those whose shutdown came to its end. -/
  won_iff : ∀ i, l.phase? i = some (.returned true) ↔ .finish i ∈ as
  /-- One shutdown has come to its end if the latch is closed, and none otherwise. -/
  countP_isFinish : as.countP LatchAction.isFinish = l.closed.toNat
  /-- If nobody has given up, every shutdown that was started is running or has come to its end. -/
  countP_isStart : (∀ i, .drop i ∉ as) →
    as.countP LatchAction.isStart = l.closed.toNat + l.permit.isSome.toNat

theorem tells_fresh : Tells [] fresh where
  permit_iff i := by simp [fresh, phase?]
  free_of_closed h := by cases h
  closed_of_returned i won h := by cases h
  flag_iff i := by simp [fresh, flag]
  won_iff i := by simp [fresh, phase?]
  countP_isFinish := rfl
  countP_isStart _ := rfl

namespace Tells

variable (ht : Tells as l)

include ht

/-- The running shutdown is that of an open latch. -/
theorem open_of_running (h : l.phase? i = some .running) : l.closed = false := by
  rw [Bool.eq_false_iff]
  intro hclosed
  have hpermit := (ht.permit_iff i).2 h
  rw [ht.free_of_closed hclosed] at hpermit
  cases hpermit

theorem eq_of_running (hi : l.phase? i = some .running) (hj : l.phase? j = some .running) :
    i = j := by
  have h := (ht.permit_iff i).2 hi
  rw [(ht.permit_iff j).2 hj] at h
  exact (Option.some.inj h).symm

/-- The flag of a call that waits is not set. -/
theorem flag_of_waiting (h : l.phase? i = some .waiting) : l.flag i = false := by
  rw [Bool.eq_false_iff]
  intro hflag
  have hwon := (ht.won_iff i).2 ((ht.flag_iff i).1 hflag)
  rw [h] at hwon
  cases hwon

variable (h : l.Takes l' a)

include h

theorem permit_iff_step (j : Nat) : l'.permit = some j ↔ l'.phase? j = some .running := by
  have hj := ht.permit_iff j
  cases h with
  | arrive hphase _ hpermit => grind [phase?_nextCaller]
  | start hwaiting hfree _ hphase _ hpermit => grind
  | finish hrunning hphase _ hpermit | cancel hrunning hphase _ hpermit =>
    have heq := ht.eq_of_running (j := j) hrunning
    grind
  | observe hwaiting hphase _ hpermit | giveUp hwaiting hphase _ hpermit =>
    grind

theorem free_of_closed_step (hclosed' : l'.closed = true) : l'.permit = none := by
  have hold := ht.free_of_closed
  cases h with
  | arrive _ _ hpermit hclosed | giveUp _ _ _ hpermit hclosed =>
    rw [hpermit]
    exact hold (hclosed ▸ hclosed')
  | start _ _ _ _ _ _ hclosed =>
    rw [hclosed] at hclosed'
    cases hclosed'
  | finish _ _ _ hpermit | cancel _ _ _ hpermit => exact hpermit
  | observe _ _ _ hpermit hclosed =>
    rw [hpermit]
    exact hold hclosed

theorem closed_of_returned_step (j : Nat) (won : Bool)
    (hj : l'.phase? j = some (.returned won)) : l'.closed = true := by
  have hold := ht.closed_of_returned j won
  cases h with
  | arrive hphase _ _ hclosed => grind
  | start _ _ _ hphase => grind
  | finish _ _ _ _ hclosed => exact hclosed
  | observe _ _ _ _ _ hclosed => exact hclosed
  | giveUp _ hphase _ _ hclosed | cancel _ hphase _ _ hclosed => grind

theorem flag_iff_step (j : Nat) : l'.flag j = true ↔ .finish j ∈ as ++ [a] := by
  have hj := ht.flag_iff j
  cases h with
  | arrive _ hflag | start _ _ _ _ hflag | observe _ _ hflag | giveUp _ _ hflag
  | cancel _ _ hflag =>
    rw [hflag, hj]
    simp
  | finish _ _ hflag => grind

theorem won_iff_step (j : Nat) :
    l'.phase? j = some (.returned true) ↔ .finish j ∈ as ++ [a] := by
  have hj := ht.won_iff j
  cases h with
  | arrive hphase => grind [phase?_nextCaller]
  | start hwaiting _ _ hphase | giveUp hwaiting hphase => grind
  | observe hwaiting hphase =>
    -- what is returned is a flag that nobody has set
    have hflag := ht.flag_of_waiting hwaiting
    grind
  | finish hrunning hphase => grind
  | cancel hrunning hphase => grind

theorem countP_isFinish_step : (as ++ [a]).countP LatchAction.isFinish = l'.closed.toNat := by
  rw [List.countP_append, ht.countP_isFinish]
  cases h with
  | arrive _ _ _ hclosed | giveUp _ _ _ _ hclosed | cancel _ _ _ _ hclosed =>
    rw [hclosed]
    rfl
  | start _ _ hopen _ _ _ hclosed =>
    rw [hclosed, hopen]
    rfl
  | finish hrunning _ _ _ hclosed =>
    rw [hclosed, ht.open_of_running hrunning]
    rfl
  | observe _ _ _ _ hold hclosed =>
    rw [hclosed, hold]
    rfl

theorem countP_isStart_step (hdrop : ∀ i, .drop i ∉ as ++ [a]) :
    (as ++ [a]).countP LatchAction.isStart = l'.closed.toNat + l'.permit.isSome.toNat := by
  have hold : ∀ i, .drop i ∉ as := fun i hi ↦ hdrop i (List.mem_append_left _ hi)
  rw [List.countP_append, ht.countP_isStart hold]
  cases h with
  | arrive _ _ hpermit hclosed =>
    rw [hpermit, hclosed]
    rfl
  | start _ hfree hopen _ _ hpermit hclosed =>
    rw [hpermit, hclosed, hfree, hopen]
    rfl
  | finish hrunning _ _ hpermit hclosed =>
    rw [hpermit, hclosed, (ht.permit_iff _).2 hrunning, ht.open_of_running hrunning]
    rfl
  | observe _ _ _ hpermit hold hclosed =>
    rw [hpermit, hclosed, hold]
    rfl
  | @giveUp i | @cancel i =>
    exact absurd (List.mem_append_right as (List.mem_singleton.2 rfl)) (hdrop i)

omit h in
/-- A latch is left open, with nobody running, until a shutdown is started. -/
theorem untouched_step (h : l.Takes l' a) (hopen : l.closed = false) (hfree : l.permit = none)
    (hstart : a.isStart = false) : l'.closed = false ∧ l'.permit = none := by
  cases h with
  | arrive _ _ hpermit hclosed | giveUp _ _ _ hpermit hclosed =>
    exact ⟨hclosed.trans hopen, hpermit.trans hfree⟩
  | start => cases hstart
  | finish hrunning | cancel hrunning =>
    have hpermit := (ht.permit_iff _).2 hrunning
    rw [hfree] at hpermit
    cases hpermit
  | observe _ _ _ _ hclosed =>
    rw [hopen] at hclosed
    cases hclosed

end Tells

/-- What a latch tells is kept by every action. -/
theorem Tells.step (ht : Tells as l) (h : l.step a = some l') : Tells (as ++ [a]) l' where
  permit_iff := ht.permit_iff_step (takes_of_step h)
  free_of_closed := ht.free_of_closed_step (takes_of_step h)
  closed_of_returned := ht.closed_of_returned_step (takes_of_step h)
  flag_iff := ht.flag_iff_step (takes_of_step h)
  won_iff := ht.won_iff_step (takes_of_step h)
  countP_isFinish := ht.countP_isFinish_step (takes_of_step h)
  countP_isStart := ht.countP_isStart_step (takes_of_step h)

/-! ## Runs -/

theorem run_cons_eq_some_iff :
    l.run (a :: as) = some l' ↔ ∃ l₁, l.step a = some l₁ ∧ l₁.run as = some l' := by
  rw [run, Option.bind_eq_some_iff]

theorem run_append_eq_some_iff :
    l.run (as ++ bs) = some l' ↔ ∃ l₁, l.run as = some l₁ ∧ l₁.run bs = some l' := by
  induction as generalizing l with
  | nil => simp [run]
  | cons a as ih =>
    simp only [List.cons_append, run_cons_eq_some_iff, ih]
    constructor
    · rintro ⟨l₁, hstep, l₂, has, hbs⟩
      exact ⟨l₂, ⟨l₁, hstep, has⟩, hbs⟩
    · rintro ⟨l₂, ⟨l₁, hstep, has⟩, hbs⟩
      exact ⟨l₁, hstep, l₂, has, hbs⟩

/-- What a latch tells is kept by every run. -/
theorem Tells.run (ht : Tells as l) (h : l.run bs = some l') : Tells (as ++ bs) l' := by
  induction bs generalizing l as with
  | nil =>
    cases h
    rwa [List.append_nil]
  | cons b bs ih =>
    obtain ⟨l₁, hstep, hrun⟩ := run_cons_eq_some_iff.1 h
    have h := ih (ht.step hstep) hrun
    rwa [List.append_assoc, List.singleton_append] at h

theorem tells_of_run (h : fresh.run as = some l) : Tells as l := tells_fresh.run h

/-! ## Closed latches -/

theorem closed_step (h : l.step a = some l') (hclosed : l.closed = true) :
    l'.closed = true ∧ a.isStart = false := by
  cases takes_of_step h with
  | arrive _ _ _ heq | giveUp _ _ _ _ heq | cancel _ _ _ _ heq => exact ⟨heq ▸ hclosed, rfl⟩
  | start _ _ hopen =>
    rw [hopen] at hclosed
    cases hclosed
  | finish _ _ _ _ hclosed' | observe _ _ _ _ _ hclosed' => exact ⟨hclosed', rfl⟩

/-- A closed latch stays closed, and no shutdown is started at it any more. -/
theorem closed_run (h : l.run as = some l') (hclosed : l.closed = true) :
    l'.closed = true ∧ ∀ a ∈ as, a.isStart = false := by
  induction as generalizing l with
  | nil =>
    cases h
    refine ⟨hclosed, ?_⟩
    intro a ha
    cases ha
  | cons a as ih =>
    obtain ⟨l₁, hstep, hrun⟩ := run_cons_eq_some_iff.1 h
    obtain ⟨hclosed₁, ha⟩ := closed_step hstep hclosed
    obtain ⟨hclosed', has⟩ := ih hrun hclosed₁
    refine ⟨hclosed', ?_⟩
    intro b hb
    rcases List.mem_cons.1 hb with rfl | hb
    · exact ha
    · exact has b hb

/-! ## One shutdown -/

/-- What can be relied on at a latch behind the actions that were taken at it. -/
structure OneShutdown (as : List LatchAction) (l : Latch) : Prop where
  /-- One shutdown at most is running. -/
  eq_of_running : ∀ i j, l.phase? i = some .running → l.phase? j = some .running → i = j
  /-- One shutdown at most has come to its end. -/
  finished_once : as.countP LatchAction.isFinish ≤ 1
  /-- No shutdown is started once one has come to its end. -/
  no_start_after : ∀ before i after j, as = before ++ .finish i :: after → .start j ∉ after
  /-- The latch is alive as long as no shutdown has come to its end. -/
  alive_iff : l.alive = true ↔ ∀ i, .finish i ∉ as
  /-- A latch that is not alive will never be alive again. -/
  dead_forever : l.alive = false → ∀ bs l', l.run bs = some l' → l'.alive = false
  /-- A call returns from a latch that is not alive. -/
  dead_of_returned : ∀ i won, l.phase? i = some (.returned won) → l.alive = false
  /-- A call returns `true` if its own shutdown has come to its end, and `false` otherwise. -/
  won_iff : ∀ i won, l.phase? i = some (.returned won) → (won = true ↔ .finish i ∈ as)
  /-- One call at most returns `true`. -/
  eq_of_won : ∀ i j, l.phase? i = some (.returned true) → l.phase? j = some (.returned true) → i = j
  /-- If a call has returned and none was given up, just one shutdown was started. -/
  started_once : (∃ i won, l.phase? i = some (.returned won)) → (∀ i, .drop i ∉ as) →
    as.countP LatchAction.isStart = 1
  /-- A shutdown may be given up while it is running, which leaves the latch alive. -/
  alive_of_drop : ∀ i, l.phase? i = some .running →
    ∃ l', l.step (.drop i) = some l' ∧ l'.alive = true ∧ ∀ j, l'.phase? j ≠ some .running
  /-- Whoever waits at a latch that is alive can start its shutdown if none is running. -/
  start_of_waiting : l.alive = true → (∀ j, l.phase? j ≠ some .running) →
    ∀ i, l.phase? i = some .waiting →
      ∃ l', l.step (.start i) = some l' ∧ l'.phase? i = some .running

theorem alive_eq_true_iff : l.alive = true ↔ l.closed = false := by
  rw [alive, Bool.not_eq_true']

theorem alive_eq_false_iff : l.alive = false ↔ l.closed = true := by
  rw [alive, Bool.not_eq_false']

namespace Tells

variable (ht : Tells as l)

include ht

theorem alive_iff : l.alive = true ↔ ∀ i, .finish i ∉ as := by
  have hcount := ht.countP_isFinish
  rw [alive_eq_true_iff]
  constructor
  · intro hopen i hi
    rw [hopen, Bool.toNat_false, List.countP_eq_zero] at hcount
    exact hcount _ hi rfl
  · intro hnone
    have hzero : as.countP LatchAction.isFinish = 0 := by
      rw [List.countP_eq_zero]
      intro a ha hfinish
      cases a with
      | finish i => exact hnone i ha
      | arrive | start | observe | drop => cases hfinish
    rw [hzero] at hcount
    exact Bool.toNat_eq_zero.1 hcount.symm

/-- Of two shutdowns that have come to their end one would be too many. -/
theorem eq_of_finish (hi : .finish i ∈ as) (hj : .finish j ∈ as) : i = j := by
  obtain ⟨before, after, rfl⟩ := List.append_of_mem hi
  have hcount := ht.countP_isFinish
  have hle := l.closed.toNat_le
  rw [List.countP_append, List.countP_cons_of_pos rfl] at hcount
  have hbefore : before.countP LatchAction.isFinish = 0 := by omega
  have hafter : after.countP LatchAction.isFinish = 0 := by omega
  rw [List.countP_eq_zero] at hbefore hafter
  rcases List.mem_append.1 hj with hj | hj
  · exact absurd rfl (hbefore _ hj)
  · rcases List.mem_cons.1 hj with heq | hj
    · exact (LatchAction.finish.inj heq).symm
    · exact absurd rfl (hafter _ hj)

theorem won_iff_finish {won : Bool} (h : l.phase? i = some (.returned won)) :
    won = true ↔ .finish i ∈ as := by
  rw [← ht.won_iff i, h, Option.some.injEq, CallPhase.returned.injEq]

theorem countP_isStart_of_returned {won : Bool} (h : l.phase? i = some (.returned won))
    (hdrop : ∀ i, .drop i ∉ as) : as.countP LatchAction.isStart = 1 := by
  have hclosed := ht.closed_of_returned i won h
  rw [ht.countP_isStart hdrop, ht.free_of_closed hclosed, hclosed]
  rfl

theorem alive_of_drop (h : l.phase? i = some .running) :
    ∃ l', l.step (.drop i) = some l' ∧ l'.alive = true ∧ ∀ j, l'.phase? j ≠ some .running := by
  have hstep : l.step (.drop i) = some { l.update i (.goTo .dropped) with permit := none } := by
    rw [Latch.step, if_neg (by simp [h]), if_pos h]
  refine ⟨_, hstep, alive_eq_true_iff.2 (ht.open_of_running h), ?_⟩
  intro j hj
  have hpermit := ((ht.step hstep).permit_iff j).2 hj
  cases hpermit

theorem start_of_waiting (halive : l.alive = true) (hnone : ∀ j, l.phase? j ≠ some .running)
    (h : l.phase? i = some .waiting) :
    ∃ l', l.step (.start i) = some l' ∧ l'.phase? i = some .running := by
  have hfree : l.permit = none := by
    rw [Option.eq_none_iff_forall_ne_some]
    intro j hj
    exact hnone j ((ht.permit_iff j).1 hj)
  refine ⟨_, if_pos ⟨h, hfree, alive_eq_true_iff.1 halive⟩, ?_⟩
  exact (phase?_goTo h .running i).trans (if_pos rfl)

end Tells

/-- Behind the end of a shutdown none is started. -/
theorem no_start_after_finish {before after : List LatchAction}
    (h : fresh.run (before ++ .finish i :: after) = some l) : .start j ∉ after := by
  obtain ⟨l₁, -, hrun⟩ := run_append_eq_some_iff.1 h
  obtain ⟨l₂, hstep, hrest⟩ := run_cons_eq_some_iff.1 hrun
  cases takes_of_step hstep with
  | finish _ _ _ _ hclosed =>
    intro hj
    have hstart := (closed_run hrest hclosed).2 _ hj
    cases hstart

/-- **One shutdown.**  Whatever callers do at a latch, in whatever order they arrive, start, end
their shutdowns and give up, one of them at most shuts down, and all that return find it done. -/
theorem oneShutdown_of_run (h : fresh.run as = some l) : OneShutdown as l where
  eq_of_running _ _ hi hj := (tells_of_run h).eq_of_running hi hj
  finished_once := (tells_of_run h).countP_isFinish ▸ l.closed.toNat_le
  no_start_after before i after j heq := no_start_after_finish (heq ▸ h)
  alive_iff := (tells_of_run h).alive_iff
  dead_forever hdead bs l' hrun :=
    alive_eq_false_iff.2 (closed_run hrun (alive_eq_false_iff.1 hdead)).1
  dead_of_returned i won hi := alive_eq_false_iff.2 ((tells_of_run h).closed_of_returned i won hi)
  won_iff _ _ hi := (tells_of_run h).won_iff_finish hi
  eq_of_won i j hi hj :=
    (tells_of_run h).eq_of_finish (((tells_of_run h).won_iff i).1 hi)
      (((tells_of_run h).won_iff j).1 hj)
  started_once := by
    rintro ⟨i, won, hi⟩ hdrop
    exact (tells_of_run h).countP_isStart_of_returned hi hdrop
  alive_of_drop _ hi := (tells_of_run h).alive_of_drop hi
  start_of_waiting halive hnone _ hi := (tells_of_run h).start_of_waiting halive hnone hi

/-- The first caller gives up while its shutdown is running; the second one takes over, and the
third one has nothing left to do. -/
theorem oneShutdown_handOver :
    ∃ l, fresh.run [.arrive, .start 0, .arrive, .arrive, .drop 0, .start 1, .finish 1, .observe 2]
        = some l
      ∧ l.calls = [⟨.dropped, false⟩, ⟨.returned true, true⟩, ⟨.returned false, false⟩]
      ∧ OneShutdown
        [.arrive, .start 0, .arrive, .arrive, .drop 0, .start 1, .finish 1, .observe 2] l :=
  ⟨_, rfl, rfl, oneShutdown_of_run rfl⟩

end Latch

end RecordGateway
