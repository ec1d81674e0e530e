import RecordGateway.Backend.Trial
import RecordGateway.Proofs.Http.Calls
import RecordGateway.Proofs.Record.Decoding

/-!
# From a request to a call

What a request has to get past before a backend is called, each condition said on its own.  A
request that meets all of them makes exactly one call, with the record that its body describes,
on the backend that the gateway is bound to at that moment; any other request makes none.  The
client is told of success if and only if the call was made and answered without an error in the
time that the body has left, and that the request was at fault in all other cases.
-/

namespace RecordGateway.Http

variable {ι ω : Type}

/-- The method by which a record is sent for a purpose. -/
def methodOf : Verb → String
  | .register => "PUT"
  | .store => "POST"

/-- What makes a request come down to the call `v`, `slot` being the backend that the gateway is
bound to. -/
structure Admitted (credentials : Option Credentials) (slot : Option ι) (r : Request)
    (v : Invocation ι) : Prop where
  authorized : ∀ c, credentials = some c →
    ∃ value, firstHeader? r.headers "authorization" = some value ∧ c.verify value = true
  root : pathOf r.target = "/"
  method : r.method = methodOf v.verb
  arrived : r.body.ending = .complete
  inTime : r.body.arrival < requestTimeout
  short : r.body.bytes.length ≤ bodyLimit
  declared : ∃ value line, firstHeader? r.headers "content-length" = some value ∧
    readValue? value = some line ∧ parseLength? (Text.trim line) = some r.body.bytes.length
  decoded : ∀ visit, Record.decode r.body.bytes visit = .ok v.record
  valid : v.record.isValid = true
  bound : slot = some v.backend

/-! ## One condition after the other -/

theorem passes_iff {credentials : Option Credentials} {r : Request} :
    passes credentials r = true ↔ ∀ c, credentials = some c →
      ∃ value, firstHeader? r.headers "authorization" = some value ∧ c.verify value = true := by
  cases credentials with
  | none => simp [passes]
  | some c => simp [passes, Option.any_eq_true]

theorem route_eq_verb_iff {r : Request} {v : Verb} :
    r.route = .verb v ↔ pathOf r.target = "/" ∧ r.method = methodOf v := by
  unfold Request.route
  split
  next h => simp [h]
  next h =>
    rw [Decidable.not_not.1 h]
    split
    next h => cases v <;> simp [h, methodOf]
    next hput =>
      split
      next h => cases v <;> simp [h, methodOf]
      next hpost => cases v <;> simp [hput, hpost, methodOf]

theorem collect_eq_ok_iff {b : Body} {bytes : List UInt8} :
    b.collect = .ok bytes ↔
      b.ending = .complete ∧ b.bytes.length ≤ bodyLimit ∧ bytes = b.bytes := by
  unfold Body.collect
  split
  next h =>
    simp only [reduceCtorEq, false_iff]
    rintro ⟨-, hshort, -⟩
    exact Nat.not_lt.2 hshort h
  next h => cases hb : b.ending <;> simp [Nat.not_lt.1 h, eq_comm]

theorem checkLength_eq_ok_iff {headers : List Header} {size : Nat} :
    checkLength headers size = .ok () ↔
      ∃ value line, firstHeader? headers "content-length" = some value ∧
        readValue? value = some line ∧ parseLength? (Text.trim line) = some size := by
  unfold checkLength
  cases firstHeader? headers "content-length" with
  | none => simp
  | some value =>
    cases hline : readValue? value with
    | none => simp [hline]
    | some line =>
      cases hlen : parseLength? (Text.trim line) with
      | none => simp [hline, hlen]
      | some n => by_cases h : n = size <;> simp [hline, hlen, h]

theorem receive_eq_ok_iff {headers : List Header} {bytes : List UInt8} {visit : Document.Visit}
    {record : Record} :
    receive headers bytes visit = .ok record ↔
      checkLength headers bytes.length = .ok () ∧ (∀ visit, Record.decode bytes visit = .ok record) ∧
        record.isValid = true := by
  unfold receive
  cases checkLength headers bytes.length with
  | error e => simp
  | ok =>
    cases hdecode : Record.decode bytes visit with
    | error e =>
      simp only [reduceCtorEq, false_iff]
      rintro ⟨-, hall, -⟩
      rw [hall visit] at hdecode
      cases hdecode
    | ok r =>
      have hall (r' : Record) : (∀ visit, Record.decode bytes visit = .ok r') ↔ r = r' := by
        constructor
        · intro h
          rw [h visit] at hdecode
          exact (Except.ok.inj hdecode).symm
        · rintro rfl
          exact Record.decode_eq_ok_of_visit hdecode
      by_cases hr : r.isValid = true
      · simp only [hr, if_true, Except.ok.injEq, true_and, hall]
        constructor
        · rintro rfl
          exact ⟨rfl, hr⟩
        · exact fun h ↦ h.1
      · simp only [hr, true_and, hall, Bool.false_eq_true, if_false, reduceCtorEq, false_iff]
        rintro ⟨rfl, h⟩
        exact hr h

theorem accept_eq_ok_iff {credentials : Option Credentials} {r : Request} {verb : Verb}
    {record : Record} :
    accept credentials r = .ok (verb, record) ↔
      passes credentials r = true ∧ r.route = .verb verb ∧ r.body.ending = .complete ∧
        r.body.bytes.length ≤ bodyLimit ∧ receive r.headers r.body.bytes = .ok record := by
  unfold accept
  cases passes credentials r with
  | false => simp
  | true =>
    cases r.route with
    | notFound | methodNotAllowed => simp
    | verb v =>
      cases hbody : r.body.collect with
      | error e =>
        have hnot : ¬(r.body.ending = .complete ∧ r.body.bytes.length ≤ bodyLimit) := by
          rintro ⟨h₁, h₂⟩
          rw [collect_eq_ok_iff.2 ⟨h₁, h₂, rfl⟩] at hbody
          cases hbody
        simp only [Bool.not_true, Bool.false_eq_true, if_false, reduceCtorEq, false_iff]
        rintro ⟨-, -, h₁, h₂, -⟩
        exact hnot ⟨h₁, h₂⟩
      | ok bytes =>
        obtain ⟨h₁, h₂, rfl⟩ := collect_eq_ok_iff.1 hbody
        cases hrec : receive r.headers r.body.bytes <;> simp [hrec, h₁, h₂]

/-- What is asked for does not depend on the time. -/
theorem passes_within {credentials : Option Credentials} {r : Request} (limit : Nat) :
    passes credentials (r.within limit) = passes credentials r := by
  rw [Request.within]
  split <;> rfl

theorem route_within {r : Request} (limit : Nat) : (r.within limit).route = r.route := by
  rw [Request.within]
  split <;> rfl

theorem within_of_lt {r : Request} {limit : Nat} (h : r.body.arrival < limit) :
    r.within limit = r := if_neg (Nat.not_le.2 h)

/-- A request that is not given up for its body is answered as if there were no clock. -/
theorem accept_within {credentials : Option Credentials} {r : Request} {limit : Nat}
    (h : accept credentials (r.within limit) ≠ .error .stalled) :
    accept credentials (r.within limit) = accept credentials r := by
  rw [Request.within] at h ⊢
  split
  next hlate =>
    rw [if_pos hlate] at h
    refine accept_with_body ?_ _
    rw [Bool.eq_false_iff]
    intro hreads
    apply h
    rw [readsBody, Bool.and_eq_true] at hreads
    obtain ⟨hpasses, hverb⟩ := hreads
    split at hverb
    next v hroute =>
      have hpasses' : passes credentials
          { r with body := { bytes := [], ending := .stalled } } = true := hpasses
      have hroute' : Request.route { r with body := { bytes := [], ending := .stalled } }
          = .verb v := hroute
      rw [accept, hpasses', hroute']
      rfl
    · cases hverb
  · rfl

theorem plan_eq_ok_iff_accept {credentials : Option Credentials} {slot : Option ι} {r : Request}
    {v : Invocation ι} : plan credentials slot r = .ok v ↔
      accept credentials r = .ok (v.verb, v.record) ∧ slot = some v.backend := by
  obtain ⟨backend, verb, record⟩ := v
  unfold plan
  cases accept credentials r with
  | error e => simp
  | ok p => cases slot <;> simp [Prod.ext_iff, and_comm]

/-- A body that is not there in time is not taken. -/
theorem lt_of_plan_within {credentials : Option Credentials} {slot : Option ι} {r : Request}
    {limit : Nat} {v : Invocation ι} (h : plan credentials slot (r.within limit) = .ok v) :
    r.body.arrival < limit := by
  rw [plan_eq_ok_iff_accept, accept_eq_ok_iff] at h
  obtain ⟨⟨-, -, harrived, -⟩, -⟩ := h
  refine Nat.lt_of_not_le fun hle ↦ ?_
  rw [Request.within, if_pos hle] at harrived
  cases harrived

/-- A request comes down to a call exactly if it meets all conditions. -/
theorem plan_eq_ok_iff {credentials : Option Credentials} {slot : Option ι} {r : Request}
    {v : Invocation ι} :
    plan credentials slot (r.within requestTimeout) = .ok v ↔ Admitted credentials slot r v := by
  constructor
  · intro h
    have hlt := lt_of_plan_within h
    rw [within_of_lt hlt, plan_eq_ok_iff_accept, accept_eq_ok_iff, passes_iff, route_eq_verb_iff,
      receive_eq_ok_iff, checkLength_eq_ok_iff] at h
    obtain ⟨⟨hauth, ⟨hroot, hmethod⟩, harrived, hshort, hdeclared, hdecoded, hvalid⟩, hbound⟩ := h
    exact ⟨hauth, hroot, hmethod, harrived, hlt, hshort, hdeclared, hdecoded, hvalid, hbound⟩
  · rintro ⟨hauth, hroot, hmethod, harrived, hlt, hshort, hdeclared, hdecoded, hvalid, hbound⟩
    rw [within_of_lt hlt, plan_eq_ok_iff_accept, accept_eq_ok_iff, passes_iff, route_eq_verb_iff,
      receive_eq_ok_iff, checkLength_eq_ok_iff]
    exact ⟨⟨hauth, ⟨hroot, hmethod⟩, harrived, hshort, hdeclared, hdecoded, hvalid⟩, hbound⟩

/-! ## What the client is sent -/

theorem Refusal.status_bounds (e : Refusal) :
    400 ≤ e.response.status ∧ e.response.status < 500 := by
  cases e with
  | unauthorized allowed => cases allowed <;> decide
  | broken _ | rejected _ => exact ⟨Nat.le_refl 400, (by decide : 400 < 500)⟩
  | _ => exact ⟨by decide, by decide⟩

/-- What the client is sent when its call was answered, or was not in time. -/
def responseTo (outcome : Option (Except BackendError Unit)) : Response :=
  (outcome.map Response.ofAnswer).getD .timedOut

theorem responseTo_status (outcome : Option (Except BackendError Unit)) :
    (responseTo outcome).status = 200 ↔ outcome = some (.ok ()) := by
  rcases outcome with _ | e | _ <;>
    simp [responseTo, Response.ofAnswer, Response.timedOut, Response.success, Rejection.response,
      Response.failure]

theorem responseTo_status_bounds {outcome : Option (Except BackendError Unit)}
    (h : outcome ≠ some (.ok ())) :
    400 ≤ (responseTo outcome).status ∧ (responseTo outcome).status < 500 := by
  rcases outcome with _ | e | _
  · exact ⟨by decide, by decide⟩
  · exact ⟨Nat.le_refl 400, (by decide : 400 < 500)⟩
  · exact absurd rfl h

namespace Gateway

variable {credentials : Option Credentials} {B : Backends ι ω}

/-- A refused request is answered at once, and leaves everything as it was. -/
theorem handle_of_error {g : Gateway ι ω} {r : Request} {e : Refusal}
    (h : plan credentials g.slot (r.within requestTimeout) = .error e) :
    g.handle credentials B r = (e.response, g) := by
  simp only [handle, attempt, h]
  cases e <;> rfl

/-- A request that is not refused is answered as its call was. -/
theorem handle_of_ok {g : Gateway ι ω} {r : Request} {v : Invocation ι}
    (h : plan credentials g.slot (r.within requestTimeout) = .ok v) :
    g.handle credentials B r
      = (responseTo (B.call (requestTimeout - r.body.arrival) v.backend v.verb v.record g.world).1,
          { g with world :=
              (B.call (requestTimeout - r.body.arrival) v.backend v.verb v.record g.world).2 }) := by
  simp only [handle, attempt, h, responseTo]

/-- The answer to a step is the one that the step was given where it was taken. -/
theorem getElem?_run (g : Gateway ι ω) (before after : List (Step ι)) (s : Step ι) :
    (g.run credentials B (before ++ s :: after)).1[before.length]?
      = some ((g.run credentials B before).2.step credentials B s).1 := by
  rw [run_append, run, List.getElem?_append_right (Nat.le_of_eq (length_run ..)), length_run]
  simp

/-- In any run, a request makes one call if it meets all conditions and none otherwise, and its
client is told of success exactly if that call was answered without an error in the time that the
body has left of it. -/
theorem request_makes_call (credentials : Option Credentials) (B : Backends ι ω)
    (g : Gateway ι ω) (before after : List (Step ι)) (r : Request) :
    ∃ (made : Option (Invocation ι)) (response : Response),
      (∀ v, made = some v ↔ Admitted credentials (boundAfter g.slot before) r v) ∧
      g.calls credentials B (before ++ .request r :: after)
        = g.calls credentials B before ++ made.toList.map .invoke
          ++ (g.run credentials B (before ++ [.request r])).2.calls credentials B after ∧
      (g.run credentials B (before ++ .request r :: after)).1[before.length]?
        = some (.response response) ∧
      (response.status = 200 ∧ response.body = "\x7b\"success\":true\x7d" ↔
        ∃ v, made = some v ∧
          (B.call (requestTimeout - r.body.arrival) v.backend v.verb v.record
            (g.run credentials B before).2.world).1 = some (.ok ())) ∧
      (response.status = 200 ∧ response.body = "\x7b\"success\":true\x7d" ∨
        400 ≤ response.status ∧ response.status < 500) := by
  have hslot := slot_run credentials B g before
  have hcalls : g.calls credentials B (before ++ .request r :: after)
      = g.calls credentials B before
        ++ (g.run credentials B before).2.callsOfStep credentials (.request r)
        ++ (g.run credentials B (before ++ [.request r])).2.calls credentials B after := by
    rw [List.append_cons, calls_append, calls_append, calls_singleton]
  have hanswer : (g.run credentials B (before ++ .request r :: after)).1[before.length]?
      = some (.response ((g.run credentials B before).2.handle credentials B r).1) := by
    rw [getElem?_run, step]
  have hadmitted (v : Invocation ι) :
      plan credentials (g.run credentials B before).2.slot (r.within requestTimeout) = .ok v
        ↔ Admitted credentials (boundAfter g.slot before) r v := by
    rw [plan_eq_ok_iff, hslot]
  cases hplan :
      plan credentials (g.run credentials B before).2.slot (r.within requestTimeout) with
  | error e =>
    rw [handle_of_error hplan] at hanswer
    have hstatus := e.status_bounds
    refine ⟨none, e.response, fun v ↦ ?_, ?_, hanswer, ?_, Or.inr hstatus⟩
    · rw [← hadmitted, hplan]
      simp
    · rw [hcalls, callsOfStep, hplan]
      rfl
    · constructor
      · rintro ⟨h, -⟩
        omega
      · rintro ⟨v, h, -⟩
        cases h
  | ok v =>
    rw [handle_of_ok hplan] at hanswer
    refine ⟨some v, _, fun w ↦ ?_, ?_, hanswer, ?_, ?_⟩
    · rw [← hadmitted, hplan]
      simp
    · rw [hcalls, callsOfStep, hplan]
      rfl
    · constructor
      · rintro ⟨h, -⟩
        exact ⟨v, rfl, (responseTo_status _).1 h⟩
      · rintro ⟨w, hw, h⟩
        cases hw
        rw [h]
        exact ⟨rfl, rfl⟩
    · by_cases h : (B.call (requestTimeout - r.body.arrival) v.backend v.verb v.record
          (g.run credentials B before).2.world).1 = some (.ok ())
      · rw [h]
        exact Or.inl ⟨rfl, rfl⟩
      · exact Or.inr (responseTo_status_bounds h)

end Gateway

/-- A request to store a record without fields, under a declared length, with the milliseconds that
its body takes. -/
def storeOf (length : String) (arrival : Nat := 0) : Request where
  method := "POST"
  headers := [⟨"Content-Length", length.toList.map Json.byte⟩]
  body := { bytes := "\x7b\"table\":\"t\",\"data\":\x7b\x7d\x7d".toList.map Json.byte, arrival }

/-- The record of such a request. -/
def withoutFields : Record := ⟨"t", .empty⟩

/-- One recorder, which takes its time for a record. -/
def recording (delay : Nat) : Trial where
  backends := [.recorder "r" delay none]
  journal := []

/-- A body takes half of the time that the request has.  The client is told of success if the call is
answered before the other half is over, and not if it is then; the call is made either way. -/
theorem Gateway.request_makes_call_halfway :
    Admitted none (some 0) (storeOf "23" 500) ⟨0, .store, withoutFields⟩ ∧
      (∃ response,
        (⟨none, recording 499⟩ : Gateway Nat Trial).calls none Trial.backendsByNumber
            [.bind 0, .request (storeOf "23" 500)]
          = [.invoke ⟨0, .store, withoutFields⟩] ∧
        (Gateway.run none Trial.backendsByNumber ⟨none, recording 499⟩
          [.bind 0, .request (storeOf "23" 500)]).1[1]? = some (.response response) ∧
        response.status = 200) ∧
      ∃ response,
        (⟨none, recording 500⟩ : Gateway Nat Trial).calls none Trial.backendsByNumber
            [.bind 0, .request (storeOf "23" 500)]
          = [.invoke ⟨0, .store, withoutFields⟩] ∧
        (Gateway.run none Trial.backendsByNumber ⟨none, recording 500⟩
          [.bind 0, .request (storeOf "23" 500)]).1[1]? = some (.response response) ∧
        400 ≤ response.status := by
  have hadmitted : Admitted none (some 0) (storeOf "23" 500) ⟨0, .store, withoutFields⟩ :=
    plan_eq_ok_iff.1 (by decide +kernel)
  refine ⟨hadmitted, ?_, ?_⟩
  · obtain ⟨made, response, hmade, hcalls, hanswer, hsuccess, -⟩ :=
      Gateway.request_makes_call none Trial.backendsByNumber ⟨none, recording 499⟩ [.bind 0] []
        (storeOf "23" 500)
    obtain rfl := (hmade _).2 hadmitted
    exact ⟨response, hcalls, hanswer, (hsuccess.2 ⟨_, rfl, by decide⟩).1⟩
  · obtain ⟨made, response, hmade, hcalls, hanswer, hsuccess, hfailure⟩ :=
      Gateway.request_makes_call none Trial.backendsByNumber ⟨none, recording 500⟩ [.bind 0] []
        (storeOf "23" 500)
    obtain rfl := (hmade _).2 hadmitted
    refine ⟨response, hcalls, hanswer, ?_⟩
    rcases hfailure with hok | ⟨hstatus, -⟩
    · obtain ⟨v, hv, hcall⟩ := hsuccess.1 hok
      cases hv
      exact absurd hcall (by decide)
    · exact hstatus

end RecordGateway.Http
