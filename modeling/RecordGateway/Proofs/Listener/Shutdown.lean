import RecordGateway.Listener.Shutdown
import RecordGateway.Proofs.Latch

/-!
# Calls that return from a listener

What is done at a listener is done at its latch, so that one call at most brings the shutdown to
its end.  Whether the accept loop has exited by then is another question: this is so as long as the
handle of the loop is with the call that shuts down.  A call that is given up while it waits for
the loop takes the handle with it (`Abandons`), and the next one returns at once.
-/

namespace RecordGateway

namespace ShutdownAction

/-- What an action is at the latch. -/
def latchAction? : ShutdownAction → Option LatchAction
  | arrive => some .arrive
  | start i => some (.start i)
  | exit => none
  | expire _ => none
  | finish i => some (.finish i)
  | observe i => some (.observe i)
  | drop i => some (.drop i)

end ShutdownAction

/-- Among the actions a call was given up that had started its shutdown before. -/
def Abandons (as : List ShutdownAction) (i : Nat) : Prop :=
  ∃ before after, as = before ++ .drop i :: after ∧ .start i ∈ before

theorem Abandons.append {as : List ShutdownAction} {i : Nat} (h : Abandons as i)
    (bs : List ShutdownAction) : Abandons (as ++ bs) i := by
  obtain ⟨before, after, rfl, hstart⟩ := h
  exact ⟨before, after ++ bs, by simp, hstart⟩

namespace Shutdown

variable {s s' : Shutdown} {i : Nat} {a : ShutdownAction} {as bs : List ShutdownAction}

/-! ## What an action does -/

/-- What an action needs, and what is there behind it. -/
inductive Takes (s s' : Shutdown) : ShutdownAction → Prop
  | arrive (hlatch : s.latch.step .arrive = some s'.latch) (hhandle : s'.handle = s.handle)
      (hloop : s'.loop = s.loop) : Takes s s' .arrive
  | take {i : Nat} (hlatch : s.latch.step (.start i) = some s'.latch) (hkept : s.handle = .kept)
      (hhandle : s'.handle = .taken i) : Takes s s' (.start i)
  | follow {i : Nat} (hlatch : s.latch.step (.start i) = some s'.latch) (hgone : s.handle ≠ .kept)
      (hhandle : s'.handle = s.handle) (hloop : s'.loop = s.loop) : Takes s s' (.start i)
  | exit (htold : s.loop ≠ .serving) (hlatch : s'.latch = s.latch) (hhandle : s'.handle = s.handle)
      (hloop : s'.loop = .exited) : Takes s s' .exit
  | expire {i : Nat} (htaken : s.handle = .taken i) (hdraining : s.loop = .draining)
      (hlatch : s'.latch = s.latch) (hhandle : s'.handle = s.handle) : Takes s s' (.expire i)
  | finish {i : Nat} (hjoined : s.handle = .taken i → s.loop = .exited)
      (hlatch : s.latch.step (.finish i) = some s'.latch) (hhandle : s'.handle = s.handle)
      (hloop : s'.loop = s.loop) : Takes s s' (.finish i)
  | observe {i : Nat} (hlatch : s.latch.step (.observe i) = some s'.latch)
      (hhandle : s'.handle = s.handle) (hloop : s'.loop = s.loop) : Takes s s' (.observe i)
  | abandon {i : Nat} (hlatch : s.latch.step (.drop i) = some s'.latch)
      (htaken : s.handle = .taken i) (hhandle : s'.handle = .lost) : Takes s s' (.drop i)
  | giveUp {i : Nat} (hlatch : s.latch.step (.drop i) = some s'.latch)
      (hother : s.handle ≠ .taken i) (hhandle : s'.handle = s.handle) (hloop : s'.loop = s.loop) :
      Takes s s' (.drop i)

theorem takes_of_step (h : s.step a = some s') : s.Takes s' a := by
  cases a with
  | arrive =>
    rw [step, Option.map_eq_some_iff] at h
    obtain ⟨l, hl, rfl⟩ := h
    exact .arrive hl rfl rfl
  | start i =>
    rw [step, Option.map_eq_some_iff] at h
    obtain ⟨l, hl, rfl⟩ := h
    by_cases hkept : s.handle = .kept
    · rw [if_pos hkept]
      exact .take hl hkept rfl
    · rw [if_neg hkept]
      exact .follow hl hkept rfl rfl
  | exit =>
    rw [step] at h
    split at h
    next htold =>
      cases h
      refine .exit ?_ rfl rfl rfl
      rcases htold with htold | htold <;> rw [htold] <;> intro heq <;> cases heq
    next => cases h
  | expire i =>
    rw [step] at h
    split at h
    next hcan =>
      cases h
      exact .expire hcan.1 hcan.2 rfl rfl
    next => cases h
  | finish i =>
    rw [step] at h
    split at h
    next => cases h
    next hjoined =>
      obtain ⟨l, hl, rfl⟩ := Option.map_eq_some_iff.1 h
      refine .finish ?_ hl rfl rfl
      intro htaken
      exact Decidable.of_not_not fun hloop ↦ hjoined ⟨htaken, hloop⟩
  | observe i =>
    rw [step, Option.map_eq_some_iff] at h
    obtain ⟨l, hl, rfl⟩ := h
    exact .observe hl rfl rfl
  | drop i =>
    rw [step, Option.map_eq_some_iff] at h
    obtain ⟨l, hl, rfl⟩ := h
    by_cases htaken : s.handle = .taken i
    · rw [if_pos htaken]
      exact .abandon hl htaken rfl
    · rw [if_neg htaken]
      exact .giveUp hl htaken rfl rfl

/-- An action at a listener is one at its latch, or none. -/
theorem Takes.latch_run (h : s.Takes s' a) :
    s.latch.run a.latchAction?.toList = some s'.latch := by
  cases h with
  | arrive hlatch | take hlatch | follow hlatch | finish _ hlatch | observe hlatch
  | abandon hlatch | giveUp hlatch =>
    exact Latch.run_cons_eq_some_iff.2 ⟨_, hlatch, rfl⟩
  | exit _ hlatch | expire _ _ hlatch =>
    rw [hlatch]
    rfl

/-! ## Where the handle is -/

/-- The actions at the latch. -/
def latchActions (as : List ShutdownAction) : List LatchAction :=
  as.filterMap ShutdownAction.latchAction?

/-- What a listener tells of the actions that were taken at it. -/
structure Tells (as : List ShutdownAction) (s : Shutdown) : Prop where
  latch : s.latch.Tells (latchActions as)
  /-- As long as the listener has the handle, no shutdown was started. -/
  untouched_of_kept : s.handle = .kept → s.latch.closed = false ∧ s.latch.permit = none
  /-- A call that has the handle is still shutting down, or has seen the loop exit. -/
  running_of_taken : ∀ i, s.handle = .taken i →
    s.latch.phase? i = some .running ∨ s.loop = .exited
  /-- A call that has the handle has started its shutdown. -/
  started_of_taken : ∀ i, s.handle = .taken i → .start i ∈ as
  /-- A handle that was given up is gone. -/
  abandons_of_lost : s.handle = .lost → ∃ i, Abandons as i

theorem tells_fresh : Tells [] fresh where
  latch := Latch.tells_fresh
  untouched_of_kept _ := ⟨rfl, rfl⟩
  running_of_taken i h := by cases h
  started_of_taken i h := by cases h
  abandons_of_lost h := by cases h

namespace Tells

variable (ht : Tells as s) (h : s.Takes s' a)

include ht h

theorem latch_step : s'.latch.Tells (latchActions (as ++ [a])) := by
  have hrun := ht.latch.run h.latch_run
  have hactions : latchActions (as ++ [a]) = latchActions as ++ a.latchAction?.toList := by
    rw [latchActions, List.filterMap_append]
    cases a <;> rfl
  rwa [hactions]

theorem untouched_of_kept_step (hkept' : s'.handle = .kept) :
    s'.latch.closed = false ∧ s'.latch.permit = none := by
  have hold := ht.untouched_of_kept
  cases h with
  | take _ _ hhandle | abandon _ _ hhandle =>
    rw [hhandle] at hkept'
    cases hkept'
  | follow _ hgone hhandle => exact absurd (hhandle ▸ hkept') hgone
  | exit _ hlatch hhandle | expire _ _ hlatch hhandle =>
    rw [hlatch]
    exact hold (hhandle ▸ hkept')
  | arrive hlatch hhandle | finish _ hlatch hhandle | observe hlatch hhandle
  | giveUp hlatch _ hhandle =>
    obtain ⟨hopen, hfree⟩ := hold (hhandle ▸ hkept')
    exact ht.latch.untouched_step (Latch.takes_of_step hlatch) hopen hfree rfl

theorem running_of_taken_step (j : Nat) (htaken' : s'.handle = .taken j) :
    s'.latch.phase? j = some .running ∨ s'.loop = .exited := by
  have hold := ht.running_of_taken j
  cases h with
  | arrive hlatch hhandle hloop | follow hlatch _ hhandle hloop
  | observe hlatch hhandle hloop =>
    refine (hold (hhandle ▸ htaken')).imp (fun hrunning ↦ ?_) hloop.trans
    exact (Latch.takes_of_step hlatch).running_of_ne hrunning (by simp) (by simp)
  | take hlatch _ hhandle =>
    rw [hhandle] at htaken'
    cases htaken'
    left
    cases Latch.takes_of_step hlatch with
    | start _ _ _ hphase => exact (hphase _).trans (if_pos rfl)
  | exit _ _ _ hloop => exact .inr hloop
  | expire _ hdraining hlatch hhandle =>
    rcases hold (hhandle ▸ htaken') with hrunning | hexited
    · exact .inl (hlatch ▸ hrunning)
    · rw [hdraining] at hexited
      cases hexited
  | @finish i hjoined hlatch hhandle hloop =>
    by_cases heq : i = j
    · subst heq
      exact .inr (hloop.trans (hjoined (hhandle ▸ htaken')))
    · refine (hold (hhandle ▸ htaken')).imp (fun hrunning ↦ ?_) hloop.trans
      exact (Latch.takes_of_step hlatch).running_of_ne hrunning (by simp [heq]) (by simp)
  | abandon _ _ hhandle =>
    rw [hhandle] at htaken'
    cases htaken'
  | @giveUp i hlatch hother hhandle hloop =>
    have htaken : s.handle = .taken j := hhandle ▸ htaken'
    have hne : i ≠ j := fun heq ↦ hother (heq ▸ htaken)
    refine (hold htaken).imp (fun hrunning ↦ ?_) hloop.trans
    exact (Latch.takes_of_step hlatch).running_of_ne hrunning (by simp) (by simp [hne])

theorem started_of_taken_step (j : Nat) (htaken' : s'.handle = .taken j) :
    .start j ∈ as ++ [a] := by
  have hold := ht.started_of_taken j
  cases h with
  | take _ _ hhandle =>
    rw [hhandle] at htaken'
    cases htaken'
    exact List.mem_append_right as (List.mem_singleton.2 rfl)
  | abandon _ _ hhandle =>
    rw [hhandle] at htaken'
    cases htaken'
  | arrive _ hhandle | follow _ _ hhandle | exit _ _ hhandle | expire _ _ _ hhandle
  | finish _ _ hhandle | observe _ hhandle | giveUp _ _ hhandle =>
    exact List.mem_append_left _ (hold (hhandle ▸ htaken'))

theorem abandons_of_lost_step (hlost' : s'.handle = .lost) : ∃ i, Abandons (as ++ [a]) i := by
  have hold := ht.abandons_of_lost
  cases h with
  | take _ _ hhandle =>
    rw [hhandle] at hlost'
    cases hlost'
  | @abandon i _ htaken => exact ⟨i, as, [], rfl, ht.started_of_taken i htaken⟩
  | arrive _ hhandle | follow _ _ hhandle | exit _ _ hhandle | expire _ _ _ hhandle
  | finish _ _ hhandle | observe _ hhandle | giveUp _ _ hhandle =>
    obtain ⟨i, hi⟩ := hold (hhandle ▸ hlost')
    exact ⟨i, hi.append _⟩

end Tells

theorem Tells.step (ht : Tells as s) (h : s.step a = some s') : Tells (as ++ [a]) s' where
  latch := ht.latch_step (takes_of_step h)
  untouched_of_kept := ht.untouched_of_kept_step (takes_of_step h)
  running_of_taken := ht.running_of_taken_step (takes_of_step h)
  started_of_taken := ht.started_of_taken_step (takes_of_step h)
  abandons_of_lost := ht.abandons_of_lost_step (takes_of_step h)

/-- What a listener tells is kept by every run. -/
theorem Tells.run (ht : Tells as s) (h : s.run bs = some s') : Tells (as ++ bs) s' := by
  induction bs generalizing s as with
  | nil =>
    cases h
    rwa [List.append_nil]
  | cons b bs ih =>
    rw [Shutdown.run, Option.bind_eq_some_iff] at h
    obtain ⟨s₁, hstep, hrun⟩ := h
    have h := ih (ht.step hstep) hrun
    rwa [List.append_assoc, List.singleton_append] at h

theorem tells_of_run (h : fresh.run as = some s) : Tells as s := tells_fresh.run h

/-! ## What a call returns to -/

/-- The loop of a latch that is closed has exited, unless its handle was given up. -/
theorem Tells.exited_of_closed (ht : Tells as s) (hclosed : s.latch.closed = true) :
    s.loop = .exited ∨ ∃ i, Abandons as i := by
  cases hhandle : s.handle with
  | kept =>
    obtain ⟨hopen, -⟩ := ht.untouched_of_kept hhandle
    rw [hopen] at hclosed
    cases hclosed
  | taken i =>
    rcases ht.running_of_taken i hhandle with hrunning | hexited
    · have hopen := ht.latch.open_of_running hrunning
      rw [hopen] at hclosed
      cases hclosed
    · exact .inl hexited
  | lost => exact .inr (ht.abandons_of_lost hhandle)

/-- **Calls that return from a listener.**  Whatever its callers do, a call returns when the
listener is not alive any more, and one at most returns `true`.  By then the accept loop has exited,
unless a call was given up that had started its shutdown. -/
theorem exited_or_abandons_of_returned (h : fresh.run as = some s) :
    (∀ i won, s.latch.phase? i = some (.returned won) →
      s.alive = false ∧ (s.loop = .exited ∨ ∃ j, Abandons as j)) ∧
    ∀ i j, s.latch.phase? i = some (.returned true) → s.latch.phase? j = some (.returned true) →
      i = j := by
  have ht := tells_of_run h
  refine ⟨?_, ?_⟩
  · intro i won hi
    have hclosed := ht.latch.closed_of_returned i won hi
    exact ⟨Latch.alive_eq_false_iff.2 hclosed, ht.exited_of_closed hclosed⟩
  · intro i j hi hj
    exact ht.latch.eq_of_finish ((ht.latch.won_iff i).1 hi) ((ht.latch.won_iff j).1 hj)

/-- Two callers at once: the loop is aborted when the grace is over, then both return. -/
theorem exited_of_expired :
    ∃ s, fresh.run [.arrive, .arrive, .start 1, .expire 1, .exit, .finish 1, .observe 0] = some s
      ∧ s.latch.calls = [⟨.returned false, false⟩, ⟨.returned true, true⟩] ∧ s.alive = false
      ∧ s.loop = .exited := by
  have hrun : fresh.run [.arrive, .arrive, .start 1, .expire 1, .exit, .finish 1, .observe 0]
      = some ⟨⟨true, none, [⟨.returned false, false⟩, ⟨.returned true, true⟩]⟩, .taken 1,
          .exited⟩ := rfl
  obtain ⟨hreturned, -⟩ := exited_or_abandons_of_returned hrun
  exact ⟨_, hrun, rfl, (hreturned 0 false rfl).1, rfl⟩

/-- A call that is given up while it waits for the loop leaves the next one nothing to wait for: it
returns `true` while the loop is still draining. -/
theorem returned_while_draining :
    ¬ ∀ as s, fresh.run as = some s → ∀ i won, s.latch.phase? i = some (.returned won) →
      s.loop = .exited := by
  intro hall
  have h := hall [.arrive, .start 0, .arrive, .drop 0, .start 1, .finish 1] _ rfl 1 true rfl
  cases h

end Shutdown

end RecordGateway
