import Mathlib.Data.List.Induction
import RecordGateway.Backend.Basic
import RecordGateway.Proofs.Backend.Runs
import RecordGateway.Proofs.Latch.Serving

/-!
# The calls that a storage gets

Which calls a storage gets from a backend can be told from the steps of the backend alone: one for
every record of which a statement can be made, up to the first stop, and then one that closes it.
What the storage answers makes no difference to that.
-/

namespace RecordGateway

variable {σ : Type}

namespace Storage

variable (S : Storage σ)

/-- Runs one call.  Closing never fails. -/
def serve : StorageCall → σ → Except BackendError Unit × σ
  | .execute sql, s => S.execute sql s
  | .executeNamed statement, s => S.executeNamed statement s
  | .close, s => (.ok (), S.close s)

/-- What a storage keeps behind some calls. -/
def serveAll (calls : List StorageCall) (s : σ) : σ :=
  calls.foldl (fun s c ↦ (S.serve c s).2) s

@[simp] theorem serveAll_nil (s : σ) : S.serveAll [] s = s := rfl

@[simp] theorem serveAll_append (cs ds : List StorageCall) (s : σ) :
    S.serveAll (cs ++ ds) s = S.serveAll ds (S.serveAll cs s) := List.foldl_append

/-- A storage that writes its calls down answers as before. -/
theorem serve_journaled (c : StorageCall) (j : Journal σ) :
    S.journaled.serve c j = ((S.serve c j.state).1, j.record c (S.serve c j.state).2) := by
  cases c <;> rfl

theorem serveAll_journaled (cs : List StorageCall) (j : Journal σ) :
    S.journaled.serveAll cs j = ⟨j.calls ++ cs, S.serveAll cs j.state⟩ := by
  induction cs generalizing j with
  | nil => simp
  | cons c cs ih =>
    rw [serveAll, List.foldl_cons, serve_journaled]
    refine (ih _).trans ?_
    rw [Journal.record, List.append_assoc]
    rfl

end Storage

namespace SqlBackend

/-! ## What a step asks for -/

namespace Step

/-- Is a backend stopped by the step? -/
def isStop : Step → Bool
  | register _ | store _ _ => false
  | stop => true
  | raceStop n => n != 0

/-- What a step asks of a storage, or why it cannot ask.  Stopping asks for nothing. -/
def request? (d : Dialect) : Step → Option (Except SqlError StorageCall)
  | register r => some ((r.create d.tag).map .execute)
  | store r listing => some ((r.insert listing).map .executeNamed)
  | stop | raceStop _ => none

/-- The call for which a step asks. -/
def call? (d : Dialect) (s : Step) : Option StorageCall := (s.request? d).bind Except.toOption

/-- The calls that a step makes from a backend that was stopped before or not. -/
def calls (d : Dialect) (stopped : Bool) (s : Step) : List StorageCall :=
  if stopped then [] else if s.isStop then [.close] else (s.call? d).toList

/-- What a step answers from a backend that was stopped before or not. -/
def answer (S : Storage σ) (stopped : Bool) (state : σ) (s : Step) : Except BackendError Unit :=
  match s.request? S.dialect with
  | none => .ok ()
  | some request =>
    if stopped then .error .stopped
    else
      match request with
      | .error e => .error (.sql e)
      | .ok c => (S.serve c state).1

end Step

/-- The calls that steps make: those they ask for up to the first stop, and one more to close. -/
def log (d : Dialect) (steps : List Step) : List StorageCall :=
  (steps.takeWhile fun s ↦ !s.isStop).filterMap (Step.call? d)
    ++ if steps.any Step.isStop then [.close] else []

/-- What a step answers behind others, over a storage that kept the given before all of them. -/
def answerBehind (S : Storage σ) (state : σ) (before : List Step) (s : Step) :
    Except BackendError Unit :=
  s.answer S (before.any Step.isStop) (S.serveAll (log S.dialect before) state)

theorem Step.answer_journaled (S : Storage σ) (stopped : Bool) (j : Journal σ) (s : Step) :
    s.answer S.journaled stopped j = s.answer S stopped j.state := by
  unfold answer
  have hdialect : S.journaled.dialect = S.dialect := rfl
  rw [hdialect]
  simp only [Storage.serve_journaled]

theorem answerBehind_journaled (S : Storage σ) (j : Journal σ) (before : List Step) (s : Step) :
    answerBehind S.journaled j before s = answerBehind S j.state before s := by
  rw [answerBehind, Step.answer_journaled, Storage.serveAll_journaled]
  rfl

theorem log_cons (d : Dialect) (s : Step) (ss : List Step) :
    log d (s :: ss) = s.calls d false ++ if s.isStop then [] else log d ss := by
  cases hs : s.isStop with
  | true => simp [log, Step.calls, hs]
  | false =>
    cases hc : s.call? d <;> simp [log, Step.calls, hs, hc]

theorem log_concat (d : Dialect) (ss : List Step) (s : Step) :
    log d (ss ++ [s]) = log d ss ++ s.calls d (ss.any Step.isStop) := by
  induction ss with
  | nil =>
    rw [List.nil_append, log_cons]
    simp [log]
  | cons t ss ih =>
    rw [List.cons_append, log_cons, log_cons, List.any_cons, ih]
    cases t.isStop with
    | true => simp [Step.calls]
    | false => simp

/-! ## Steps -/

variable {S : Storage σ} {b b' : SqlBackend σ} {s : Step} {answer : Except BackendError Unit}
  {past : List LatchAction}

/-- What a step may answer, and leave behind.  Those who stop the backend at once are served in any
order, and each that starts its shutdown closes the storage. -/
inductive Leads (S : Storage σ) (b : SqlBackend σ) :
    Step → Except BackendError Unit → SqlBackend σ → Prop
  | register (r : Record) : Leads S b (.register r) (b.register S r).1 (b.register S r).2
  | store (r : Record) (listing : r.fields.Listing) :
      Leads S b (.store r listing) (b.store S r listing).1 (b.store S r listing).2
  | stop {as : List LatchAction} {l : Latch} (h : Latch.Serves 1 as b.latch l) :
      Leads S b .stop (.ok ()) (b.closeTimes S l (as.countP LatchAction.isStart))
  | raceStop {n : Nat} {as : List LatchAction} {l : Latch} (h : Latch.Serves n as b.latch l) :
      Leads S b (.raceStop n) (.ok ()) (b.closeTimes S l (as.countP LatchAction.isStart))

/-- What a step comes to. -/
structure Step.ComesTo (S : Storage σ) (b : SqlBackend σ) (s : Step)
    (answer : Except BackendError Unit) (b' : SqlBackend σ) : Prop where
  answer_eq : answer = s.answer S b.stopped b.state
  state_eq : b'.state = S.serveAll (s.calls S.dialect b.stopped) b.state
  stopped_eq : b'.stopped = (b.stopped || s.isStop)

theorem stopped_eq_closed (b : SqlBackend σ) : b.stopped = b.latch.closed := by
  rw [stopped, Latch.alive, Bool.not_not]

/-- Passes a request on to the storage, unless the backend has been stopped. -/
def ask (S : Storage σ) (b : SqlBackend σ) (request : Except SqlError StorageCall) :
    Except BackendError Unit × SqlBackend σ :=
  if b.stopped then (.error .stopped, b)
  else
    match request with
    | .error e => (.error (.sql e), b)
    | .ok c => ((S.serve c b.state).1, { b with state := (S.serve c b.state).2 })

theorem create_tag (r : Record) (d : Dialect) : r.create d.tag = r.createIn d := by
  rw [Record.create, Dialect.ofTag_tag]

/-- A step that asks for something does nothing but ask. -/
theorem step_eq_ask {request : Except SqlError StorageCall}
    (h : s.request? S.dialect = some request) : b.step S s = b.ask S request := by
  cases s with
  | register r =>
    cases h
    rw [step, register, create_tag]
    unfold ask
    cases r.createIn S.dialect <;> rfl
  | store r listing =>
    cases h
    rw [step, store]
    unfold ask
    cases r.insert listing <;> rfl
  | stop | raceStop => cases h

theorem Step.isStop_of_request? {d : Dialect} {request : Except SqlError StorageCall}
    (h : s.request? d = some request) : s.isStop = false := by
  cases s with
  | register | store => rfl
  | stop | raceStop => cases h

theorem latch_ask (request : Except SqlError StorageCall) :
    (b.ask S request).2.latch = b.latch := by
  unfold ask
  split
  · rfl
  cases request <;> rfl

theorem comesTo_ask {request : Except SqlError StorageCall}
    (h : s.request? S.dialect = some request) :
    s.ComesTo S b (b.ask S request).1 (b.ask S request).2 where
  answer_eq := by
    rw [Step.answer, h]
    unfold ask
    cases b.stopped <;> cases request <;> rfl
  state_eq := by
    rw [Step.calls, Step.isStop_of_request? h, Step.call?, h]
    unfold ask
    cases b.stopped <;> cases request <;> rfl
  stopped_eq := by
    rw [stopped, latch_ask, Step.isStop_of_request? h, Bool.or_false, stopped]

/-- One of those who stop a backend closes its storage. -/
theorem comesTo_closeTimes (hb : b.latch.Settled past) {n : Nat} {as : List LatchAction} {l : Latch}
    (h : Latch.Serves n as b.latch l) :
    (Step.raceStop n).ComesTo S b (.ok ()) (b.closeTimes S l (as.countP LatchAction.isStart)) where
  answer_eq := rfl
  state_eq := by
    rw [hb.countP_isStart_serves h, stopped_eq_closed, Step.calls, Step.isStop]
    cases b.latch.closed <;> cases n != 0 <;> rfl
  stopped_eq := by
    rw [stopped_eq_closed, stopped_eq_closed]
    exact hb.closed_serves h

/-- A step comes to what is said of it, and leaves the latch settled. -/
theorem Leads.comesTo (h : Leads S b s answer b') (hb : b.latch.Settled past) :
    s.ComesTo S b answer b' ∧ ∃ past', b'.latch.Settled past' := by
  have hask {s request} (hs : s.request? S.dialect = some request) :
      s.ComesTo S b (b.step S s).1 (b.step S s).2
        ∧ ∃ past', (b.step S s).2.latch.Settled past' := by
    rw [step_eq_ask hs, latch_ask]
    exact ⟨comesTo_ask hs, past, hb⟩
  cases h with
  | register | store => exact hask rfl
  | stop h =>
    obtain ⟨hanswer, hstate, hstopped⟩ := comesTo_closeTimes (S := S) hb h
    exact ⟨⟨hanswer, hstate, hstopped⟩, _, hb.serves h⟩
  | raceStop h => exact ⟨comesTo_closeTimes hb h, _, hb.serves h⟩

/-- The step that a backend takes is one that it may take. -/
theorem leads_step (hb : b.latch.Settled past) (s : Step) :
    Leads S b s (b.step S s).1 (b.step S s).2 := by
  have hrace (n : Nat) : ∃ as, Latch.Serves n as b.latch (b.latch.race n)
      ∧ b.raceStop S n = b.closeTimes S (b.latch.race n) (as.countP LatchAction.isStart) := by
    obtain ⟨as, h⟩ := hb.serves_race n
    refine ⟨as, h, ?_⟩
    rw [raceStop, hb.winners_serves h, hb.countP_isStart_serves h]
  cases s with
  | register r => exact .register r
  | store r listing => exact .store r listing
  | stop =>
    obtain ⟨as, h, heq⟩ := hrace 1
    have hstop : b.stop S = b.raceStop S 1 := by
      rw [stop, hb.call_eq_race]
      rfl
    rw [step, hstop, heq]
    exact .stop h
  | raceStop n =>
    obtain ⟨as, h, heq⟩ := hrace n
    rw [step, heq]
    exact .raceStop h

/-! ## Runs -/

/-- What steps may answer one after the other, and leave behind. -/
inductive Runs (S : Storage σ) (b : SqlBackend σ) :
    List Step → List (Except BackendError Unit) → SqlBackend σ → Prop
  | nil : Runs S b [] [] b
  | concat {ss answers s answer b₁ b'} (hrun : Runs S b ss answers b₁)
      (h : Leads S b₁ s answer b') : Runs S b (ss ++ [s]) (answers ++ [answer]) b'

/-- What steps come to. -/
structure ComesTo (S : Storage σ) (state : σ) (steps : List Step)
    (answers : List (Except BackendError Unit)) (b : SqlBackend σ) : Prop where
  answers_eq : answers = steps.mapIdx fun i s ↦ answerBehind S state (steps.take i) s
  state_eq : b.state = S.serveAll (log S.dialect steps) state
  stopped_eq : b.stopped = steps.any Step.isStop

theorem comesTo_start (state : σ) : ComesTo S state [] [] (start state) := ⟨rfl, rfl, rfl⟩

variable {state : σ} {steps : List Step} {answers : List (Except BackendError Unit)}

/-- What steps come to is kept by every step. -/
theorem ComesTo.concat (h : ComesTo S state steps answers b) (hs : s.ComesTo S b answer b') :
    ComesTo S state (steps ++ [s]) (answers ++ [answer]) b' where
  answers_eq := by
    have hbefore : steps.mapIdx (fun i s' ↦ answerBehind S state ((steps ++ [s]).take i) s')
        = steps.mapIdx fun i s' ↦ answerBehind S state (steps.take i) s' := by
      rw [List.mapIdx_eq_mapIdx_iff]
      intro i hi
      rw [List.take_append_of_le_length (Nat.le_of_lt hi)]
    have hlast : answer = answerBehind S state steps s := by
      rw [hs.answer_eq, h.stopped_eq, h.state_eq, answerBehind]
    rw [List.mapIdx_append, hbefore, ← h.answers_eq, hlast, List.mapIdx_singleton, Nat.zero_add,
      List.take_left]
  state_eq := by
    rw [hs.state_eq, h.stopped_eq, h.state_eq, log_concat, Storage.serveAll_append]
  stopped_eq := by
    rw [hs.stopped_eq, h.stopped_eq, List.any_append, List.any_cons, List.any_nil, Bool.or_false]

theorem Runs.comesTo (h : Runs S (start state) steps answers b) :
    ComesTo S state steps answers b ∧ ∃ past, b.latch.Settled past := by
  induction h with
  | nil => exact ⟨comesTo_start state, [], Latch.settled_fresh⟩
  | concat _ hlead ih =>
    obtain ⟨h, past, hb⟩ := ih
    obtain ⟨hs, hb'⟩ := hlead.comesTo hb
    exact ⟨h.concat hs, hb'⟩

/-- A backend runs in one of the ways in which it may run. -/
theorem runs_run (state : σ) (steps : List Step) :
    Runs S (start state) steps ((start state).run S steps).1 ((start state).run S steps).2 := by
  induction steps using List.reverseRecOn with
  | nil => exact .nil
  | append_singleton ss s ih =>
    obtain ⟨-, past, hb⟩ := ih.comesTo
    rw [run_concat]
    exact ih.concat (leads_step hb s)

/-- **The calls that a storage gets.**  However a backend runs through some steps, whoever comes
first when it is stopped at once by several, its storage gets the calls that are told by the steps,
and no others.  Every step answers what is told by the steps before it and by the storage. -/
theorem calls_of_runs (S : Storage σ) (state : σ) (steps : List Step) :
    Runs S.journaled (start { state }) steps ((start { state }).run S.journaled steps).1
        ((start { state }).run S.journaled steps).2 ∧
      ∀ answers b, Runs S.journaled (start { state }) steps answers b →
        b.state.calls = log S.dialect steps
          ∧ b.state.state = S.serveAll (log S.dialect steps) state
          ∧ b.stopped = steps.any Step.isStop
          ∧ answers = steps.mapIdx fun i s ↦ answerBehind S state (steps.take i) s := by
  refine ⟨runs_run _ steps, ?_⟩
  intro answers b h
  obtain ⟨⟨hanswers, hstate, hstopped⟩, -⟩ := h.comesTo
  rw [Storage.serveAll_journaled, List.nil_append] at hstate
  simp only [answerBehind_journaled] at hanswers
  exact ⟨congrArg Journal.calls hstate, congrArg Journal.state hstate, hstopped, hanswers⟩

/-- A storage that makes tables, and fails wherever a record is to be put into one. -/
def tablesOnly : Storage Unit where
  dialect := .sqlite
  execute _ s := (.ok (), s)
  executeNamed _ s := (.error (.storage "the disk is full"), s)
  close s := s

/-- A record of one field. -/
def reading : Record := ⟨"t", ⟨[("warm", .bool true)], by decide⟩⟩

/-- A record is registered, which works, and stored, which does not, and one without fields cannot be
stored at all; then the backend is stopped, twice at once and once more, and asked to store the
record again. -/
def stopping : List Step :=
  [.register reading, .store reading, .store ⟨"t", .empty⟩, .raceStop 2, .stop, .store reading]

/-- The storage gets two calls before it is closed, whatever it answers.  However the two who stop
the backend at once are served, it is closed once and called no more. -/
theorem calls_of_runs_stopping :
    ∃ answers b, Runs tablesOnly.journaled (start { state := () }) stopping answers b
      ∧ b.state.calls
        = [.execute (Record.createText "t"
              ["rowid INTEGER PRIMARY KEY ASC ON CONFLICT REPLACE AUTOINCREMENT",
                "created DATETIME DEFAULT CURRENT_TIMESTAMP", "warm BOOL"]),
            .executeNamed ⟨"INSERT INTO \"t\" (warm) VALUES (:warm);", reading.fields⟩, .close]
      ∧ answers = [.ok (), .error (.storage "the disk is full"), .error (.sql .emptyRecord), .ok (),
          .ok (), .error .stopped] := by
  obtain ⟨hrun, hall⟩ := calls_of_runs tablesOnly () stopping
  obtain ⟨hcalls, -, -, hanswers⟩ := hall _ _ hrun
  exact ⟨_, _, hrun, hcalls.trans (by decide +kernel), hanswers.trans (by decide +kernel)⟩

end SqlBackend

end RecordGateway
