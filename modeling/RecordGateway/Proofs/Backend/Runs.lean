import RecordGateway.Backend.Sql

/-!
# What a backend keeps through a run

Nothing but its storage changes what a backend keeps, so what no call of the storage can change
stays true through every run.
-/

namespace RecordGateway

variable {σ : Type}

/-- What stays true of the state of a storage, whatever is called. -/
structure Storage.Keeps (S : Storage σ) (P : σ → Prop) : Prop where
  execute : ∀ sql s, P s → P (S.execute sql s).2
  executeNamed : ∀ statement s, P s → P (S.executeNamed statement s).2
  close : ∀ s, P s → P (S.close s)

namespace SqlBackend

variable {S : Storage σ} {P : σ → Prop}

theorem keeps_repeat_close (hS : S.Keeps P) {s : σ} (h : P s) (n : Nat) :
    P (Nat.repeat S.close n s) := by
  induction n with
  | zero => exact h
  | succ n ih => exact hS.close _ ih

theorem keeps_step (hS : S.Keeps P) {b : SqlBackend σ} (h : P b.state) (s : Step) :
    P (b.step S s).2.state := by
  cases s with
  | register r =>
    rw [step, register]
    split
    · exact h
    split
    · exact h
    · exact hS.execute _ _ h
  | store r listing =>
    rw [step, store]
    split
    · exact h
    split
    · exact h
    · exact hS.executeNamed _ _ h
  | stop => exact keeps_repeat_close hS h _
  | raceStop n => exact keeps_repeat_close hS h _

/-- What stays true through every step stays true through every run. -/
theorem of_run (hstep : ∀ (b : SqlBackend σ) s, P b.state → P (b.step S s).2.state)
    {b : SqlBackend σ} (h : P b.state) (steps : List Step) : P (b.run S steps).2.state := by
  induction steps generalizing b with
  | nil => exact h
  | cons s steps ih => exact ih (hstep b s h)

section

variable (S) (b : SqlBackend σ) (ss : List Step) (s : Step)

theorem run_concat :
    b.run S (ss ++ [s])
      = ((b.run S ss).1 ++ [((b.run S ss).2.step S s).1], ((b.run S ss).2.step S s).2) := by
  induction ss generalizing b with
  | nil => rfl
  | cons t ss ih => simp only [List.cons_append, run, ih]

theorem length_run : (b.run S ss).1.length = ss.length := by
  induction ss generalizing b with
  | nil => rfl
  | cons t ss ih => simp only [run, List.length_cons, ih]

end

/-- A call that makes a table comes down to one statement, and leaves the backend running. -/
theorem of_register {r : Record} {b b' : SqlBackend σ} (h : b.register S r = (.ok (), b')) :
    b.stopped = false ∧ b'.stopped = false ∧ ∃ sql, r.createIn S.dialect = .ok sql ∧
      S.execute sql b.state = (.ok (), b'.state) := by
  rw [register] at h
  split at h
  · cases h
  next hrunning =>
    rw [Bool.not_eq_true] at hrunning
    split at h
    · cases h
    next sql hsql =>
      cases hrun : S.execute sql b.state with
      | mk answer state =>
        rw [hrun] at h
        cases h
        exact ⟨hrunning, hrunning, sql, hsql, hrun⟩

theorem register_of_execute {r : Record} {b : SqlBackend σ} (hrunning : b.stopped = false)
    {sql : String} (hsql : r.createIn S.dialect = .ok sql) :
    b.register S r
      = ((S.execute sql b.state).1, { b with state := (S.execute sql b.state).2 }) := by
  simp only [register, hrunning, hsql]
  rfl

theorem store_of_executeNamed {r : Record} {b : SqlBackend σ} (hrunning : b.stopped = false)
    {listing : r.fields.Listing} {s : NamedStatement} (hs : r.insert listing = .ok s) :
    b.store S r listing
      = ((S.executeNamed s b.state).1, { b with state := (S.executeNamed s b.state).2 }) := by
  simp only [store, hrunning, hs]
  rfl

end SqlBackend

end RecordGateway
