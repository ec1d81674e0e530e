import RecordGateway.Proofs.Backend.History
import RecordGateway.Proofs.Backend.Log
import RecordGateway.Proofs.Http.Pipeline
import RecordGateway.Proofs.Http.Traffic
import RecordGateway.Proofs.Sql.Refusals

/-!
# What a backend finds fault with

A storage that numbers the values of a statement and has a database run it answers with an error of
the database, unless the values cannot be numbered.  Those of a statement that was made of a record
always can.  So a running backend blames a statement for nothing but the record, and of the records
that a gateway forwards it never says that they are not valid.
-/

namespace RecordGateway

/-- An error that says nothing about a record. -/
def SqlError.isForeign : SqlError → Bool
  | unsupportedDialect _ | unsupportedType _ _ | missingBinding _ => true
  | emptyRecord | invalidRecord | reservedColumn _ => false

theorem Record.Faulty.isForeign {r : Record} {e : SqlError} (h : r.Faulty e) :
    e.isForeign = false := by
  cases h <;> rfl

/-! ## Storages that number values -/

/-- A storage that has a database run its statements, named values being numbered before.  What goes
wrong is up to the database, or the values cannot be numbered. -/
structure Storage.Rebinds {σ : Type} (S : Storage σ) : Prop where
  execute : ∀ sql s e, (S.execute sql s).1 = .error e → ∃ detail, e = .storage detail
  executeNamed : ∀ statement s e, (S.executeNamed statement s).1 = .error e →
    (∃ detail, e = .storage detail) ∨
      ∃ cause, statement.rebind S.dialect = .error cause ∧ e = .sql cause

theorem Database.run_eq_error {sql : String} {passed : List Cell} {d : Database} {e : BackendError}
    (h : (d.run sql passed).1 = .error e) : ∃ detail, e = .storage detail := by
  unfold run at h
  split at h
  · cases h
    exact ⟨_, rfl⟩
  split at h
  · cases h
    exact ⟨_, rfl⟩
  split at h
  · cases h
    exact ⟨_, rfl⟩
  · cases h

theorem Database.rebinds_storage : storage.Rebinds where
  execute _ _ _ h := run_eq_error h
  executeNamed statement d e h := by
    change (d.runNamed statement).1 = .error e at h
    unfold runNamed at h
    split at h
    next cause hcause =>
      cases h
      exact .inr ⟨cause, hcause, rfl⟩
    next => exact .inl (run_eq_error h)

namespace SqlBackend

variable {σ : Type} {S : Storage σ} {b : SqlBackend σ} {r : Record} {e : SqlError}

/-- A call that a running backend passes on does not come back with the fault of a statement. -/
def Passes (S : Storage σ) (c : StorageCall) : Prop :=
  ∀ s e, (S.serve c s).1 ≠ .error (.sql e)

theorem Passes.ask_eq_sql_iff {request : Except SqlError StorageCall}
    (h : ∀ c, request = .ok c → Passes S c) :
    (b.ask S request).1 = .error (.sql e) ↔ b.stopped = false ∧ request = .error e := by
  unfold ask
  cases b.stopped with
  | true => simp
  | false =>
    cases request with
    | error e' => simp
    | ok c => simpa using h c rfl b.state e

theorem passes_execute (hS : S.Rebinds) (sql : String) : Passes S (.execute sql) := by
  intro s e h
  obtain ⟨_, ⟨⟩⟩ := hS.execute sql s _ h

theorem passes_executeNamed (hS : S.Rebinds) {statement : NamedStatement}
    (hrebind : ∃ n, statement.rebind S.dialect = .ok n) : Passes S (.executeNamed statement) := by
  intro s e h
  obtain ⟨n, hn⟩ := hrebind
  obtain ⟨_, ⟨⟩⟩ | ⟨_, hcause, -⟩ := hS.executeNamed statement s _ h
  rw [hn] at hcause
  cases hcause

theorem exists_of_map_eq_ok {α β ε : Type} {f : α → β} {x : Except ε α} {b : β}
    (h : x.map f = .ok b) : ∃ a, x = .ok a ∧ f a = b := by
  cases x with
  | error e => cases h
  | ok a =>
    cases h
    exact ⟨a, rfl, rfl⟩

/-- What a backend blames a statement for is what the statement was refused for. -/
theorem step_eq_sql_iff (hS : S.Rebinds) {verb : Verb} {listing : r.fields.Listing} :
    (b.step S (verb.step r listing)).1 = .error (.sql e) ↔
      b.stopped = false ∧ (r.Faulty e ∨
        verb = .store ∧ (r.isValid = true ∧ r.columns = []) ∧ e = .emptyRecord) := by
  cases verb with
  | register =>
    rw [step_eq_ask rfl, Passes.ask_eq_sql_iff, ← Record.createIn_eq_error_iff (d := S.dialect),
      create_tag]
    · cases r.createIn S.dialect <;> simp [Except.map]
    · intro c hc
      obtain ⟨sql, -, rfl⟩ := exists_of_map_eq_ok hc
      exact passes_execute hS sql
  | store =>
    rw [step_eq_ask rfl, Passes.ask_eq_sql_iff]
    · have herror : r.insertListing listing.names = .error e ↔ _ :=
        Record.insertListing_eq_error_iff
      simp only [true_and, Record.insert, ← herror]
      cases r.insertListing listing.names <;> simp [Except.map]
    · intro c hc
      obtain ⟨statement, hinsert, rfl⟩ := exists_of_map_eq_ok hc
      exact passes_executeNamed hS (Record.exists_rebind listing.names_perm hinsert S.dialect)

end SqlBackend

/-! ## Forwarded records -/

namespace Http.Gateway

variable {ι ω : Type} {credentials : Option Credentials} {B : Backends ι ω}

theorem isValid_of_mem_callsOfStep {g : Gateway ι ω} {s : Step ι} {v : Invocation ι}
    (h : BackendCall.invoke v ∈ g.callsOfStep credentials s) : v.record.isValid = true := by
  cases s with
  | bind | unbind => cases h
  | stopBackend =>
    obtain ⟨_, -, ⟨⟩⟩ := List.mem_map.1 h
  | request r =>
    rw [callsOfStep] at h
    split at h
    · cases h
    next hplan =>
      cases List.mem_singleton.1 h
      exact (plan_eq_ok_iff.1 hplan).valid

/-- Whatever a gateway goes through, the records that it forwards are valid. -/
theorem isValid_of_mem_calls {g : Gateway ι ω} {steps : List (Step ι)} {v : Invocation ι}
    (h : BackendCall.invoke v ∈ g.calls credentials B steps) : v.record.isValid = true := by
  induction steps generalizing g with
  | nil => cases h
  | cons s steps ih =>
    rw [← List.singleton_append, calls_append, calls_singleton, List.mem_append] at h
    rcases h with h | h
    · exact isValid_of_mem_callsOfStep h
    · exact ih h

end Http.Gateway

namespace SqlBackend

open Http (Credentials Gateway storeOf withoutFields)

/-- **Refused records.**  Of a record a statement that makes its table is made unless the dialect is
not known, the record is not valid, or a field has the name of a generated column; which of these
is told in this order, the name being the least.  A statement that puts its values into the table is
made of the same records, those without fields aside, however the columns are listed, and then its
values can be numbered in both dialects.  A running backend blames a statement for just these
faults of the record, and not for its validity if a gateway has forwarded it. -/
theorem refusals_of_record (r : Record) :
    (∀ tag, (∀ e, r.create tag = .error e ↔
        (∀ d : Dialect, d.tag ≠ tag) ∧ e = .unsupportedDialect tag ∨
          (∃ d : Dialect, d.tag = tag) ∧ r.Faulty e) ∧
      ((∃ sql, r.create tag = .ok sql) ↔ (∃ d : Dialect, d.tag = tag) ∧ r.isValid = true ∧
        ∀ c ∈ r.columns, ¬Record.IsReserved c)) ∧
    (∀ cs, (∀ e, r.insertListing cs = .error e ↔
        r.Faulty e ∨ (r.isValid = true ∧ r.columns = []) ∧ e = .emptyRecord) ∧
      ((∃ s, r.insertListing cs = .ok s) ↔ r.isValid = true ∧ r.columns ≠ [] ∧
        ∀ c ∈ r.columns, ¬Record.IsReserved c)) ∧
    (∀ cs s d, cs.Perm r.columns → r.insertListing cs = .ok s → ∃ n, s.rebind d = .ok n) ∧
    ∀ (σ : Type) (S : Storage σ), S.Rebinds →
      ∀ (b : SqlBackend σ) (verb : Verb) (listing : r.fields.Listing) (e : SqlError),
      ((b.step S (verb.step r listing)).1 = .error (.sql e) ↔ b.stopped = false ∧ (r.Faulty e ∨
        verb = .store ∧ (r.isValid = true ∧ r.columns = []) ∧ e = .emptyRecord)) ∧
      ((b.step S (verb.step r listing)).1 = .error (.sql e) → e.isForeign = false ∧
        ∀ (ι ω : Type) (credentials : Option Credentials) (B : Backends ι ω) (g : Gateway ι ω)
          (steps : List (Http.Step ι)) (i : ι) (v : Verb),
          .invoke ⟨i, v, r⟩ ∈ g.calls credentials B steps → e ≠ .invalidRecord) := by
  refine ⟨fun tag ↦ ⟨fun e ↦ Record.create_eq_error_iff, Record.exists_create_iff⟩,
    fun cs ↦ ⟨fun e ↦ Record.insertListing_eq_error_iff, Record.exists_insertListing_iff⟩,
    fun cs s d hcs hs ↦ Record.exists_rebind hcs hs d, ?_⟩
  intro σ S hS b verb listing e
  refine ⟨step_eq_sql_iff hS, fun h ↦ ?_⟩
  obtain ⟨-, hfault⟩ := (step_eq_sql_iff hS).1 h
  constructor
  · rcases hfault with hfaulty | ⟨-, -, rfl⟩
    · exact hfaulty.isForeign
    · rfl
  · rintro ι ω credentials B g steps i v hcall rfl
    have hvalid := Http.Gateway.isValid_of_mem_calls hcall
    rcases hfault with hfaulty | ⟨-, -, ⟨⟩⟩
    cases hfaulty with
    | invalid hinvalid => exact Bool.false_ne_true (hinvalid.symm.trans hvalid)

/-- Backends of which none does anything. -/
def ready : Backends Nat Unit := ⟨fun _ _ _ _ w ↦ (some (.ok ()), w), fun _ w ↦ w⟩

/-- The values of `reading` can be numbered for Postgres.  A record without fields that a gateway
forwards cannot be stored in a database, for that reason and no other. -/
theorem refusals_of_record_withoutFields :
    (∃ s n, Record.reading.insertListing ["ab", "a1", "a"] = .ok s ∧ s.rebind .postgres = .ok n) ∧
      ((start (Database.fresh true)).step Database.storage (Verb.store.step withoutFields)).1
        = .error (.sql .emptyRecord) ∧
      .invoke ⟨1, .store, withoutFields⟩ ∈ (⟨some 1, ()⟩ : Gateway Nat Unit).calls none ready
        [.request (storeOf "23")] ∧
      SqlError.emptyRecord.isForeign = false ∧ SqlError.emptyRecord ≠ .invalidRecord := by
  obtain ⟨-, hinsert, hrebind, -⟩ := refusals_of_record Record.reading
  obtain ⟨s, hs⟩ := (hinsert ["ab", "a1", "a"]).2.2 (by decide)
  obtain ⟨n, hn⟩ := hrebind _ s .postgres (by decide) hs
  obtain ⟨-, -, -, hstep⟩ := refusals_of_record withoutFields
  obtain ⟨hiff, hcause⟩ := hstep _ _ Database.rebinds_storage (start (Database.fresh true)) .store
    (.ascending _) .emptyRecord
  have hrefused := hiff.2 ⟨rfl, .inr ⟨rfl, ⟨by decide, rfl⟩, rfl⟩⟩
  have hcall : .invoke ⟨1, .store, withoutFields⟩ ∈ (⟨some 1, ()⟩ : Gateway Nat Unit).calls none
      ready [.request (storeOf "23")] := by
    have hplan : Http.plan none (some 1) ((storeOf "23").within Http.requestTimeout)
        = .ok ⟨1, .store, withoutFields⟩ := by
      decide +kernel
    rw [Http.Gateway.calls_singleton, Http.Gateway.callsOfStep, hplan]
    exact .head _
  obtain ⟨hforeign, hvalid⟩ := hcause hrefused
  exact ⟨⟨s, n, hs, hn⟩, hrefused, hcall, hforeign, hvalid _ _ _ _ _ _ _ _ hcall⟩

end SqlBackend

end RecordGateway
