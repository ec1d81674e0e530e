import Mathlib.Data.List.Forall2
import RecordGateway.Http.Traffic
import RecordGateway.Proofs.Http.Pipeline

/-!
# What a client learns of a failure

All that a client learns of a call is whether it was answered in time, and whether without an error;
so backends that differ in their errors alone cannot be told apart.  A request that reaches the
handler is told of success, that its time was up, or of the stage at which it failed: nothing else
of it shows in the response.
-/

namespace RecordGateway

/-- What can be seen of a call from outside. -/
inductive CallOutcome
  | succeeded
  | failed
  | late
  deriving DecidableEq, Repr

/-- How a call came out, whatever the error. -/
def CallOutcome.ofAnswer : Option (Except BackendError Unit) → CallOutcome
  | some (.ok ()) => succeeded
  | some (.error _) => failed
  | none => late

namespace Backends

variable {ι ω ω' : Type}

/-- How calls come out that are made one after the other, each within its own milliseconds. -/
def outcomes (B : Backends ι ω) (w : ω) : List (Nat × BackendCall ι) → List CallOutcome
  | [] => []
  | (within, .invoke v) :: cs =>
    .ofAnswer (B.call within v.backend v.verb v.record w).1
      :: B.outcomes (B.call within v.backend v.verb v.record w).2 cs
  | (_, .stop i) :: cs => B.outcomes (B.stop i w) cs

/-- Backends are late alike and fail alike, whatever calls they get that have no more than some
milliseconds each.  Why they fail may differ. -/
def Alike (most : Nat) (B : Backends ι ω) (w : ω) (B' : Backends ι ω') (w' : ω') : Prop :=
  ∀ calls : List (Nat × BackendCall ι), (∀ c ∈ calls, c.1 ≤ most) →
    B.outcomes w calls = B'.outcomes w' calls

variable {B : Backends ι ω} {B' : Backends ι ω'} {most within : Nat} {w : ω} {w' : ω'}

theorem Alike.call (h : Alike most B w B' w') (hwithin : within ≤ most) (i : ι) (verb : Verb)
    (r : Record) :
    CallOutcome.ofAnswer (B.call within i verb r w).1 = .ofAnswer (B'.call within i verb r w').1 ∧
      Alike most B (B.call within i verb r w).2 B' (B'.call within i verb r w').2 := by
  have hcons (cs : List (Nat × BackendCall ι)) (hcs : ∀ c ∈ cs, c.1 ≤ most) :=
    List.cons.inj (h ((within, .invoke ⟨i, verb, r⟩) :: cs) (List.forall_mem_cons.2 ⟨hwithin, hcs⟩))
  exact ⟨(hcons [] (List.forall_mem_nil _)).1, fun cs hcs ↦ (hcons cs hcs).2⟩

theorem Alike.stop (h : Alike most B w B' w') (i : ι) : Alike most B (B.stop i w) B' (B'.stop i w') :=
  fun cs hcs ↦ h ((0, .stop i) :: cs) (List.forall_mem_cons.2 ⟨Nat.zero_le most, hcs⟩)

end Backends

/-! ## Recorders that refuse -/

namespace Trial

/-- Backends that are the same, or recorders that wait as long, and either both refuse or both do
not. -/
inductive RefusesLike : TrialBackend → TrialBackend → Prop
  | refl (b : TrialBackend) : RefusesLike b b
  | recorder {name name' : String} {delay : Nat} {refusal refusal' : Option BackendError}
      (h : refusal.isSome = refusal'.isSome) :
      RefusesLike (.recorder name delay refusal) (.recorder name' delay refusal')

theorem getElem?_of_forall₂ {bs bs' : List TrialBackend} (h : List.Forall₂ RefusesLike bs bs')
    (i : Nat) : bs[i]? = none ∧ bs'[i]? = none ∨
      ∃ b b', bs[i]? = some b ∧ bs'[i]? = some b' ∧ RefusesLike b b' := by
  induction h generalizing i with
  | nil => exact .inl ⟨rfl, rfl⟩
  | @cons b b' _ _ hb _ ih =>
    cases i with
    | zero => exact .inr ⟨b, b', rfl, rfl, hb⟩
    | succ i => exact ih i

theorem set_of_forall₂ {bs bs' : List TrialBackend} (h : List.Forall₂ RefusesLike bs bs')
    (i : Nat) (b : TrialBackend) : List.Forall₂ RefusesLike (bs.set i b) (bs'.set i b) := by
  induction h generalizing i with
  | nil => exact .nil
  | cons hb hbs ih =>
    cases i with
    | zero => exact .cons (.refl b) hbs
    | succ i => exact .cons hb (ih i)

variable {t t' : Trial}

theorem call_of_forall₂ (h : List.Forall₂ RefusesLike t.backends t'.backends)
    (within i : Nat) (verb : Verb) (r : Record) :
    CallOutcome.ofAnswer (t.call within i verb r).1 = .ofAnswer (t'.call within i verb r).1 ∧
      List.Forall₂ RefusesLike (t.call within i verb r).2.backends
        (t'.call within i verb r).2.backends := by
  rcases getElem?_of_forall₂ h i with ⟨hb, hb'⟩ | ⟨b, b', hb, hb', hlike⟩
  · simp only [call, hb, hb']
    exact ⟨trivial, h⟩
  · cases hlike with
    | refl =>
      cases b with
      | sql dialect backend =>
        simp only [call, hb, hb']
        exact ⟨rfl, set_of_forall₂ h i _⟩
      | recorder name delay refusal =>
        simp only [call, hb, hb']
        split <;> exact ⟨rfl, h⟩
    | @recorder name name' delay refusal refusal' hrefusal =>
      simp only [call, hb, hb']
      split
      · exact ⟨rfl, h⟩
      · refine ⟨?_, h⟩
        cases refusal <;> cases refusal' <;> first | rfl | cases hrefusal

theorem stop_of_forall₂ (h : List.Forall₂ RefusesLike t.backends t'.backends) (i : Nat) :
    List.Forall₂ RefusesLike (t.stop i).backends (t'.stop i).backends := by
  rcases getElem?_of_forall₂ h i with ⟨hb, hb'⟩ | ⟨b, b', hb, hb', hlike⟩
  · simp only [stop, hb, hb']
    exact h
  · cases hlike with
    | refl =>
      cases b with
      | sql dialect backend =>
        simp only [stop, hb, hb']
        exact set_of_forall₂ h i _
      | recorder name delay refusal =>
        simp only [stop, hb, hb']
        exact h
    | recorder =>
      simp only [stop, hb, hb']
      exact h

/-- Why recorders refuse does not show in how their calls come out. -/
theorem alike_of_forall₂ (h : List.Forall₂ RefusesLike t.backends t'.backends) (most : Nat) :
    Backends.Alike most backendsByNumber t backendsByNumber t' := by
  intro calls hcalls
  induction calls generalizing t t' with
  | nil => rfl
  | cons c cs ih =>
    have hcs := (List.forall_mem_cons.1 hcalls).2
    cases c with
    | mk within c =>
      cases c with
      | invoke v =>
        obtain ⟨houtcome, hafter⟩ := call_of_forall₂ h within v.backend v.verb v.record
        exact List.cons_eq_cons.2 ⟨houtcome, ih hafter hcs⟩
      | stop i => exact ih (stop_of_forall₂ h i) hcs

end Trial

namespace Http

variable {ι ω ω' : Type} {credentials credentials' : Option Credentials} {B : Backends ι ω}
  {B' : Backends ι ω'} {g : Gateway ι ω} {g' : Gateway ι ω'} {r r' : Request} {verb : Verb}

/-! ## Backends that differ in their errors -/

/-- What a client is sent whose call came out in some way. -/
def Response.ofOutcome : CallOutcome → Response
  | .succeeded => .success
  | .failed => .failure "record rejected"
  | .late => .timedOut

/-- Nothing of an error is in the response. -/
theorem responseTo_eq (answer : Option (Except BackendError Unit)) :
    responseTo answer = Response.ofOutcome (.ofAnswer answer) := by
  rcases answer with _ | _ | _ <;> rfl

/-- Gateways that are bound to the same, at backends that are alike. -/
structure Twins (B : Backends ι ω) (g : Gateway ι ω) (B' : Backends ι ω') (g' : Gateway ι ω') :
    Prop where
  slot : g.slot = g'.slot
  alike : Backends.Alike requestTimeout B g.world B' g'.world

theorem Twins.step (h : Twins B g B' g') (credentials : Option Credentials) (s : Step ι) :
    (g.step credentials B s).1 = (g'.step credentials B' s).1 ∧
      Twins B (g.step credentials B s).2 B' (g'.step credentials B' s).2 := by
  obtain ⟨hslot, halike⟩ := h
  cases s with
  | bind backend => exact ⟨rfl, rfl, halike⟩
  | unbind => exact ⟨rfl, rfl, halike⟩
  | stopBackend =>
    simp only [Gateway.step, ← hslot]
    cases hbound : g.slot with
    | none => exact ⟨rfl, hslot, halike⟩
    | some backend => exact ⟨rfl, rfl, halike.stop backend⟩
  | request r =>
    simp only [Gateway.step]
    cases hplan : plan credentials g.slot (r.within requestTimeout) with
    | error e =>
      rw [Gateway.handle_of_error hplan, Gateway.handle_of_error (hslot ▸ hplan)]
      exact ⟨rfl, hslot, halike⟩
    | ok v =>
      obtain ⟨houtcome, hafter⟩ :=
        halike.call (Nat.sub_le requestTimeout r.body.arrival) v.backend v.verb v.record
      rw [Gateway.handle_of_ok hplan, Gateway.handle_of_ok (hslot ▸ hplan), responseTo_eq,
        responseTo_eq, houtcome]
      exact ⟨rfl, hslot, hafter⟩

/-- Twins answer alike however long they are used. -/
theorem Twins.run (h : Twins B g B' g') (credentials : Option Credentials) (steps : List (Step ι)) :
    (g.run credentials B steps).1 = (g'.run credentials B' steps).1 := by
  induction steps generalizing g g' with
  | nil => rfl
  | cons s steps ih =>
    obtain ⟨hanswer, hnext⟩ := h.step credentials s
    rw [Gateway.run, Gateway.run]
    simp only [hanswer, ih hnext]

/-- Actions of requests at the same time that are equal, but for the error that a call is answered
with. -/
inductive TrafficAction.Alike : TrafficAction ι → TrafficAction ι → Prop
  | refl (a : TrafficAction ι) : Alike a a
  | failed (i : Nat) (e e' : BackendError) : Alike (.answer i (.error e)) (.answer i (.error e'))

theorem Traffic.step_of_alike {a a' : TrafficAction ι} (h : a.Alike a') (t : Traffic ι) :
    t.step credentials a = t.step credentials a' := by
  cases h <;> rfl

/-- Where requests stand does not depend on the errors that their calls were answered with. -/
theorem Traffic.run_of_alike {as as' : List (TrafficAction ι)}
    (h : List.Forall₂ TrafficAction.Alike as as') (t : Traffic ι) :
    t.run credentials as = t.run credentials as' := by
  induction h generalizing t with
  | nil => rfl
  | cons ha _ ih =>
    rw [run, run, step_of_alike ha]
    simp only [ih]

/-! ## Stages -/

/-- Where a request may fail once its body is there. -/
inductive Stage
  | length
  | decoding
  | validity
  | backend
  deriving DecidableEq, Repr

/-- What a client is sent whose request failed at a stage. -/
def Stage.response : Stage → Response
  | length => .failure "invalid request body"
  | decoding => .failure "malformed record"
  | validity => .failure "invalid record"
  | backend => .failure "record rejected"

/-- A request gets past the gate to a verb, and its body arrives in time. -/
structure Reaches (credentials : Option Credentials) (r : Request) (verb : Verb) : Prop where
  passes : passes credentials r = true
  route : r.route = .verb verb
  arrived : r.body.ending = .complete
  inTime : r.body.arrival < requestTimeout
  short : r.body.bytes.length ≤ bodyLimit

/-- A request fails at a stage, having got past those before. -/
inductive FailsAt (B : Backends ι ω) (g : Gateway ι ω) (r : Request) (verb : Verb) : Stage → Prop
  | length {e} (hlength : checkLength r.headers r.body.bytes.length = .error e) :
      FailsAt B g r verb .length
  | decoding {visit e} (hlength : checkLength r.headers r.body.bytes.length = .ok ())
      (hdecode : Record.decode r.body.bytes visit = .error e) :
      FailsAt B g r verb .decoding
  | validity {record} (hlength : checkLength r.headers r.body.bytes.length = .ok ())
      (hdecode : Record.decode r.body.bytes = .ok record) (hvalid : record.isValid = false) :
      FailsAt B g r verb .validity
  | unbound {record} (hreceive : receive r.headers r.body.bytes = .ok record)
      (hslot : g.slot = none) :
      FailsAt B g r verb .backend
  | backend {record backend e} (hreceive : receive r.headers r.body.bytes = .ok record)
      (hslot : g.slot = some backend)
      (hcall : (B.call (requestTimeout - r.body.arrival) backend verb record g.world).1
        = some (.error e)) :
      FailsAt B g r verb .backend

theorem Reaches.plan_of_error (h : Reaches credentials r verb) {e : Rejection} (slot : Option ι)
    (hreceive : receive r.headers r.body.bytes = .error e) :
    plan credentials slot (r.within requestTimeout) = .error (.rejected e) := by
  obtain ⟨hpasses, hroute, harrived, hlt, hshort⟩ := h
  have hcollect : r.body.collect = .ok r.body.bytes := collect_eq_ok_iff.2 ⟨harrived, hshort, rfl⟩
  have haccept : accept credentials r = .error (.rejected e) := by
    simp [accept, hpasses, hroute, hcollect, hreceive]
  rw [within_of_lt hlt, plan, haccept]

theorem Reaches.accept_of_ok (h : Reaches credentials r verb) {record : Record}
    (hreceive : receive r.headers r.body.bytes = .ok record) :
    accept credentials (r.within requestTimeout) = .ok (verb, record) := by
  rw [within_of_lt h.inTime, accept_eq_ok_iff]
  exact ⟨h.passes, h.route, h.arrived, h.short, hreceive⟩

theorem Reaches.handle_of_error (h : Reaches credentials r verb) {e : Rejection}
    (hreceive : receive r.headers r.body.bytes = .error e) :
    (g.handle credentials B r).1 = e.response := by
  rw [Gateway.handle_of_error (h.plan_of_error g.slot hreceive)]
  rfl

theorem Reaches.handle_of_unbound (h : Reaches credentials r verb) {record : Record}
    (hreceive : receive r.headers r.body.bytes = .ok record) (hslot : g.slot = none) :
    (g.handle credentials B r).1 = (Rejection.backend .unbound).response := by
  have hplan : plan credentials g.slot (r.within requestTimeout)
      = .error (.rejected (.backend .unbound)) := by
    rw [plan, h.accept_of_ok hreceive, hslot]
  rw [Gateway.handle_of_error hplan]
  rfl

theorem Reaches.handle_of_bound (h : Reaches credentials r verb) {record : Record} {backend : ι}
    (hreceive : receive r.headers r.body.bytes = .ok record) (hslot : g.slot = some backend) :
    (g.handle credentials B r).1
      = .ofOutcome (.ofAnswer
          (B.call (requestTimeout - r.body.arrival) backend verb record g.world).1) := by
  have hplan : plan credentials g.slot (r.within requestTimeout)
      = .ok ⟨backend, verb, record⟩ := by
    rw [plan, h.accept_of_ok hreceive, hslot]
  rw [Gateway.handle_of_ok hplan, responseTo_eq]

/-- A body that is no record when its fields are visited in one order is none in any other, be it
another field that is complained of. -/
theorem exists_decode_error {bytes : List UInt8} {visit : Document.Visit} {e : DecodeError}
    (h : Record.decode bytes visit = .error e) (visit' : Document.Visit) :
    ∃ e', Record.decode bytes visit' = .error e' := by
  cases hdecode : Record.decode bytes visit' with
  | error e' => exact ⟨e', rfl⟩
  | ok record =>
    rw [Record.decode_eq_ok_of_visit hdecode visit] at h
    cases h

/-- A request that fails at a stage is told of no more than the stage. -/
theorem Reaches.response_of_failsAt (h : Reaches credentials r verb) {stage : Stage}
    (hfails : FailsAt B g r verb stage) : (g.handle credentials B r).1 = stage.response := by
  cases hfails with
  | @length e hlength =>
    have hreceive : receive r.headers r.body.bytes = .error (.transport e.message) := by
      rw [receive, hlength]
    rw [h.handle_of_error hreceive]
    rfl
  | @decoding visit e hlength hdecode =>
    obtain ⟨e', hdecode'⟩ := exists_decode_error hdecode .ascending
    have hreceive : receive r.headers r.body.bytes = .error (.decode e') := by
      simp only [receive, hlength, hdecode']
    rw [h.handle_of_error hreceive]
    rfl
  | validity hlength hdecode hvalid =>
    have hreceive : receive r.headers r.body.bytes = .error .invalid := by
      simp [receive, hlength, hdecode, hvalid]
    rw [h.handle_of_error hreceive]
    rfl
  | unbound hreceive hslot =>
    rw [h.handle_of_unbound hreceive hslot]
    rfl
  | backend hreceive hslot hcall =>
    rw [h.handle_of_bound hreceive hslot, hcall]
    rfl

/-- What is not received fails at one of the stages before the backend. -/
theorem failsAt_of_receive_error (B : Backends ι ω) (g : Gateway ι ω) (verb : Verb) {e : Rejection}
    (h : receive r.headers r.body.bytes = .error e) : ∃ stage, FailsAt B g r verb stage := by
  rw [receive] at h
  split at h
  next hlength => exact ⟨_, .length hlength⟩
  next hlength =>
    split at h
    next hdecode => exact ⟨_, .decoding hlength hdecode⟩
    next hdecode =>
      split at h
      · cases h
      next hvalid => exact ⟨_, .validity hlength hdecode (Bool.eq_false_iff.2 hvalid)⟩

/-- A request that reaches the handler fails at a stage, is carried out, or is not in time. -/
theorem Reaches.handle_cases (h : Reaches credentials r verb) (B : Backends ι ω)
    (g : Gateway ι ω) :
    (∃ stage, FailsAt B g r verb stage) ∨ (g.handle credentials B r).1 = .success
      ∨ (g.handle credentials B r).1 = .timedOut := by
  cases hreceive : receive r.headers r.body.bytes with
  | error e => exact .inl (failsAt_of_receive_error B g verb hreceive)
  | ok record =>
    cases hslot : g.slot with
    | none => exact .inl ⟨_, .unbound hreceive hslot⟩
    | some backend =>
      have hresponse := h.handle_of_bound (B := B) hreceive hslot
      cases hcall : (B.call (requestTimeout - r.body.arrival) backend verb record g.world).1 with
      | none =>
        rw [hcall] at hresponse
        exact .inr (.inr hresponse)
      | some answer =>
        cases answer with
        | error e => exact .inl ⟨_, .backend hreceive hslot hcall⟩
        | ok =>
          rw [hcall] at hresponse
          exact .inr (.inl hresponse)

/-- **What a client learns of a failure.**  At backends that are late alike and fail alike, for
whatever reasons, all steps are answered alike; so are requests at the same time whose calls fail
for other reasons.  Two requests that reach the handler and fail at the same stage are sent the same
response, whatever they hold and however they fail; it is that of the stage, wherever in a run they
are.  A request that reaches the handler is told of a stage at which it fails, of success, or that
its time was up. -/
theorem failures_look_alike (credentials : Option Credentials) (B : Backends ι ω)
    (B' : Backends ι ω') :
    (∀ (w : ω) (w' : ω'), Backends.Alike requestTimeout B w B' w' → ∀ slot steps,
      (Gateway.run credentials B ⟨slot, w⟩ steps).1
        = (Gateway.run credentials B' ⟨slot, w'⟩ steps).1) ∧
    (∀ as as' : List (TrafficAction ι), List.Forall₂ TrafficAction.Alike as as' → ∀ t : Traffic ι,
      t.run credentials as = t.run credentials as') ∧
    (∀ credentials' (g : Gateway ι ω) (g' : Gateway ι ω') r r' verb verb' stage,
      Reaches credentials r verb → FailsAt B g r verb stage →
      Reaches credentials' r' verb' → FailsAt B' g' r' verb' stage →
      (g.handle credentials B r).1 = (g'.handle credentials' B' r').1) ∧
    (∀ (g : Gateway ι ω) before after r verb stage, Reaches credentials r verb →
      FailsAt B (g.run credentials B before).2 r verb stage →
      (g.run credentials B (before ++ .request r :: after)).1[before.length]?
        = some (.response stage.response)) ∧
    ∀ (g : Gateway ι ω) r verb, Reaches credentials r verb →
      (∃ stage, FailsAt B g r verb stage ∧ (g.handle credentials B r).1 = stage.response) ∨
        (g.handle credentials B r).1 = .success ∨ (g.handle credentials B r).1 = .timedOut := by
  refine ⟨?_, fun as as' h t ↦ Traffic.run_of_alike h t, ?_, ?_, ?_⟩
  · intro w w' halike slot steps
    have htwins : Twins B ⟨slot, w⟩ B' ⟨slot, w'⟩ := ⟨rfl, halike⟩
    exact htwins.run credentials steps
  · intro credentials' g g' r r' verb verb' stage h hfails h' hfails'
    rw [h.response_of_failsAt hfails, h'.response_of_failsAt hfails']
  · intro g before after r verb stage h hfails
    rw [Gateway.getElem?_run, Gateway.step]
    simp only [h.response_of_failsAt hfails]
  · intro g r verb h
    refine (h.handle_cases B g).imp_left ?_
    rintro ⟨stage, hfails⟩
    exact ⟨stage, hfails, h.response_of_failsAt hfails⟩

/-- One recorder, which refuses all records for a reason. -/
def refusing (e : BackendError) : Trial where
  backends := [.recorder "r" 10 (some e)]
  journal := []

/-- A store whose call fails. -/
def refusedStore (e : BackendError) : List (TrafficAction Nat) :=
  [.arrive (storeOf "23"), .receive 0, .look 0, .call 0, .answer 0 (.error e)]

/-- A database error with a text looks like a backend that has been stopped, and like none; a length
that is wrong looks like one that is no number. -/
theorem failures_look_alike_refusing :
    (Gateway.run none Trial.backendsByNumber ⟨some 0, refusing (.storage "no such table: t")⟩
        [.request (storeOf "23"), .unbind, .request (storeOf "23")]).1
      = (Gateway.run none Trial.backendsByNumber ⟨some 0, refusing .stopped⟩
        [.request (storeOf "23"), .unbind, .request (storeOf "23")]).1 ∧
    (Gateway.run none Trial.backendsByNumber ⟨some 0, refusing .stopped⟩
        [.request (storeOf "23"), .unbind, .request (storeOf "23")]).1
      = [.response (.failure "record rejected"), .unbound,
          .response (.failure "record rejected")] ∧
    Traffic.run none { slot := some 0 } (refusedStore (.storage "no such table: t"))
      = Traffic.run none { slot := some 0 } (refusedStore .stopped) ∧
    (Traffic.run none { slot := some 0 } (refusedStore .stopped)).isSome ∧
    (Gateway.handle none Trial.backendsByNumber (storeOf "22") ⟨none, refusing .stopped⟩).1
      = (Gateway.handle none Trial.backendsByNumber (storeOf "-") ⟨none, refusing .unbound⟩).1 ∧
    (Gateway.run none Trial.backendsByNumber ⟨none, refusing .stopped⟩
        [.bind 0, .request (storeOf "22")]).1[1]?
      = some (.response (.failure "invalid request body")) := by
  have halike : Backends.Alike requestTimeout Trial.backendsByNumber
      (refusing (.storage "no such table: t")) Trial.backendsByNumber (refusing .stopped) :=
    Trial.alike_of_forall₂ (.cons (.recorder rfl) .nil) requestTimeout
  have hactions : List.Forall₂ TrafficAction.Alike (refusedStore (.storage "no such table: t"))
      (refusedStore .stopped) :=
    .cons (.refl _) (.cons (.refl _) (.cons (.refl _) (.cons (.refl _) (.cons (.failed 0 _ _)
      .nil))))
  -- neither the route nor the body depends on the declared length
  have hreaches (length : String) : Reaches none (storeOf length) .store :=
    ⟨rfl, (by decide : (storeOf "").route = .verb .store), rfl,
      (by decide : (storeOf "").body.arrival < requestTimeout),
      (by decide : (storeOf "").body.bytes.length ≤ bodyLimit)⟩
  have hwrong (slot : Option Nat) (e : BackendError) :
      FailsAt Trial.backendsByNumber ⟨slot, refusing e⟩ (storeOf "22") .store .length :=
    .length (e := .different 22 23) (by decide)
  have hsign (slot : Option Nat) (e : BackendError) :
      FailsAt Trial.backendsByNumber ⟨slot, refusing e⟩ (storeOf "-") .store .length :=
    .length (e := .unreadable) (by decide)
  obtain ⟨hruns, htraffic, hstage, hstep, -⟩ :=
    failures_look_alike none Trial.backendsByNumber Trial.backendsByNumber
  refine ⟨hruns _ _ halike _ _, by decide +kernel, htraffic _ _ hactions _, by decide +kernel, ?_,
    ?_⟩
  · exact hstage none _ _ _ _ _ _ _ (hreaches _) (hwrong _ _) (hreaches _) (hsign _ _)
  · exact hstep ⟨none, refusing .stopped⟩ [.bind 0] [] _ _ _ (hreaches _)
      (hwrong (some 0) .stopped)

end Http

end RecordGateway
