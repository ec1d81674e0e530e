import RecordGateway.Backend.Trial
import RecordGateway.Proofs.Http.Pipeline

/-!
# The gate

A gateway that asks for credentials sends away whoever does not show them, before anything else is
looked at.  All other requests find it as if it asked for nothing and those sent away had never
come.
-/

namespace RecordGateway.Http

variable {ι ω : Type}

/-- A step with its answer and the calls that it made. -/
structure Taken (ι : Type) where
  step : Step ι
  answer : Answer
  calls : List (BackendCall ι)

/-- Is the step a request that does not show the credentials, be it that its first `Authorization`
field is not right or that it has none? -/
def Step.isSentAway (c : Credentials) : Step ι → Bool
  | .request r =>
    match firstHeader? r.headers "authorization" with
    | none => true
    | some value => !c.verify value
  | .bind _ | .unbind | .stopBackend => false

/-- A client is asked for credentials. -/
structure Response.Challenges (response : Response) : Prop where
  status : response.status = 401
  body : response.body = ""
  challenge : response.challenge = some "Basic realm=\"homehub\""

theorem challenges_unauthorized (allowed : Bool) :
    (Refusal.unauthorized allowed).response.Challenges := by
  cases allowed <;> exact ⟨rfl, rfl, rfl⟩

theorem isSentAway_request (c : Credentials) (r : Request) :
    (Step.request r : Step ι).isSentAway c = !passes (some c) r := by
  rw [Step.isSentAway, passes]
  cases firstHeader? r.headers "authorization" <;> rfl

theorem accept_of_not_passes {c : Credentials} {r : Request} (h : passes (some c) r = false) :
    accept (some c) r = .error (.unauthorized (r.route ≠ .methodNotAllowed)) := by
  rw [accept, h]
  rfl

/-- To those who get past the gate it is as if there were none. -/
theorem accept_of_passes {c : Credentials} {r : Request} (h : passes (some c) r = true) :
    accept (some c) r = accept none r := by
  rw [accept, accept, h, passes]

/-- Whoever does not pass is told so, however little of the time is left. -/
theorem plan_of_not_passes {c : Credentials} {r : Request} (slot : Option ι) (limit : Nat)
    (h : passes (some c) r = false) :
    plan (some c) slot (r.within limit)
      = .error (.unauthorized (r.route ≠ .methodNotAllowed)) := by
  rw [plan, accept_of_not_passes (by rw [passes_within, h]), route_within]

theorem plan_of_passes {c : Credentials} {r : Request} (slot : Option ι) (limit : Nat)
    (h : passes (some c) r = true) :
    plan (some c) slot (r.within limit) = plan none slot (r.within limit) := by
  rw [plan, plan, accept_of_passes (by rw [passes_within, h])]

namespace Gateway

section Taken

variable (credentials : Option Credentials) (B : Backends ι ω)

/-- Steps that are taken one after the other, each with what is seen of it. -/
def taken (g : Gateway ι ω) : List (Step ι) → List (Taken ι)
  | [] => []
  | s :: ss =>
    ⟨s, (g.step credentials B s).1, g.calls credentials B [s]⟩
      :: (g.step credentials B s).2.taken ss

theorem map_step_taken (g : Gateway ι ω) (steps : List (Step ι)) :
    (g.taken credentials B steps).map Taken.step = steps := by
  induction steps generalizing g with
  | nil => rfl
  | cons s ss ih => rw [taken, List.map_cons, ih]

/-- The answers seen are those of the run. -/
theorem map_answer_taken (g : Gateway ι ω) (steps : List (Step ι)) :
    (g.taken credentials B steps).map Taken.answer = (g.run credentials B steps).1 := by
  induction steps generalizing g with
  | nil => rfl
  | cons s ss ih =>
    rw [taken, List.map_cons, ih]
    rfl

/-- The calls seen are those of the run. -/
theorem flatMap_calls_taken (g : Gateway ι ω) (steps : List (Step ι)) :
    (g.taken credentials B steps).flatMap Taken.calls = g.calls credentials B steps := by
  induction steps generalizing g with
  | nil => rfl
  | cons s ss ih =>
    rw [taken, List.flatMap_cons, ih]
    exact (g.calls_append credentials B [s] ss).symm

end Taken

variable {c : Credentials} {B : Backends ι ω} {s : Step ι} {steps : List (Step ι)}

/-- A request that is sent away is answered at once, whatever its body, and leaves everything as it
was. -/
theorem attempt_of_not_passes {r : Request} (h : passes (some c) r = false) (within : Nat)
    (body : Body) (g : Gateway ι ω) :
    g.attempt within (some c) B { r with body }
      = (some (Refusal.unauthorized (r.route ≠ .methodNotAllowed)).response, g) := by
  have hplan := plan_of_not_passes (r := { r with body }) g.slot within h
  rw [attempt, hplan]
  rfl

theorem step_of_isSentAway (h : s.isSentAway c = true) (g : Gateway ι ω) :
    ∃ response : Response, response.Challenges ∧ g.step (some c) B s = (.response response, g)
      ∧ g.calls (some c) B [s] = [] := by
  cases s with
  | bind | unbind | stopBackend => cases h
  | request r =>
    rw [isSentAway_request, Bool.not_eq_true'] at h
    have hplan := plan_of_not_passes g.slot requestTimeout h
    refine ⟨(Refusal.unauthorized (r.route ≠ .methodNotAllowed)).response,
      challenges_unauthorized _, ?_, ?_⟩
    · rw [step, handle_of_error hplan]
    · rw [calls_singleton, callsOfStep, hplan]

/-- What is not sent away goes as if the gateway asked for nothing. -/
theorem step_of_not_isSentAway (h : s.isSentAway c = false) (g : Gateway ι ω) :
    g.step (some c) B s = g.step none B s
      ∧ g.calls (some c) B [s] = g.calls none B [s] := by
  rw [calls_singleton, calls_singleton]
  cases s with
  | bind | unbind | stopBackend => exact ⟨rfl, rfl⟩
  | request r =>
    rw [isSentAway_request, Bool.not_eq_false'] at h
    have hplan := plan_of_passes g.slot requestTimeout h
    constructor
    · rw [step, step, handle, handle, attempt, attempt, hplan]
    · rw [callsOfStep, callsOfStep, hplan]

/-- Every request that is sent away is asked for credentials, and makes no call. -/
theorem challenges_of_mem_taken {g : Gateway ι ω} {t : Taken ι}
    (ht : t ∈ g.taken (some c) B steps) (h : t.step.isSentAway c = true) :
    (∃ response : Response, response.Challenges ∧ t.answer = .response response)
      ∧ t.calls = [] := by
  induction steps generalizing g with
  | nil => cases ht
  | cons s ss ih =>
    rcases List.mem_cons.1 ht with rfl | ht
    · obtain ⟨response, hresponse, hstep, hcalls⟩ := step_of_isSentAway (B := B) h g
      exact ⟨⟨response, hresponse, congrArg Prod.fst hstep⟩, hcalls⟩
    · exact ih ht

/-- A run is one without the requests that are sent away, at a gateway that asks for nothing. -/
theorem filter_taken (c : Credentials) (g : Gateway ι ω) (steps : List (Step ι)) :
    (g.taken (some c) B steps).filter (fun t ↦ !t.step.isSentAway c)
        = g.taken none B (steps.filter fun s ↦ !s.isSentAway c)
      ∧ (g.run (some c) B steps).2
        = (g.run none B (steps.filter fun s ↦ !s.isSentAway c)).2 := by
  induction steps generalizing g with
  | nil => exact ⟨rfl, rfl⟩
  | cons s ss ih =>
    rw [taken, run]
    cases h : s.isSentAway c with
    | true =>
      obtain ⟨response, -, hstep, -⟩ := step_of_isSentAway (B := B) h g
      rw [List.filter_cons_of_neg (by simp [h]), List.filter_cons_of_neg (by simp [h]), hstep]
      exact ih g
    | false =>
      obtain ⟨hstep, hcalls⟩ := step_of_not_isSentAway (B := B) h g
      rw [List.filter_cons_of_pos (by simp [h]), List.filter_cons_of_pos (by simp [h]), taken, run,
        hstep, hcalls]
      obtain ⟨htaken, hrun⟩ := ih (g.step none B s).2
      exact ⟨congrArg _ htaken, hrun⟩

/-- Steps that make no calls can be left out when calls are collected. -/
theorem flatMap_calls_filter {keep : Taken ι → Bool} {ts : List (Taken ι)}
    (h : ∀ t ∈ ts, keep t = false → t.calls = []) :
    (ts.filter keep).flatMap Taken.calls = ts.flatMap Taken.calls := by
  induction ts with
  | nil => rfl
  | cons t ts ih =>
    have ih := ih fun t' ht' ↦ h t' (List.mem_cons_of_mem t ht')
    cases hkeep : keep t with
    | true => rw [List.filter_cons_of_pos hkeep, List.flatMap_cons, List.flatMap_cons, ih]
    | false =>
      rw [List.filter_cons_of_neg (by simp [hkeep]), List.flatMap_cons,
        h t List.mem_cons_self hkeep, List.nil_append, ih]

theorem zip_run (credentials : Option Credentials) (g : Gateway ι ω) (steps : List (Step ι)) :
    steps.zip (g.run credentials B steps).1
      = (g.taken credentials B steps).map fun t ↦ (t.step, t.answer) := by
  rw [← map_answer_taken, ← List.zip_map', map_step_taken]

/-- Those who are not sent away are answered as without those who are, and all calls are theirs. -/
theorem run_filter (c : Credentials) (g : Gateway ι ω) (steps : List (Step ι)) :
    ((steps.zip (g.run (some c) B steps).1).filter fun p ↦ !p.1.isSentAway c).map Prod.snd
        = (g.run none B (steps.filter fun s ↦ !s.isSentAway c)).1
      ∧ g.calls (some c) B steps = g.calls none B (steps.filter fun s ↦ !s.isSentAway c) := by
  obtain ⟨htaken, -⟩ := filter_taken (B := B) c g steps
  constructor
  · rw [zip_run, List.filter_map, List.map_map, ← map_answer_taken, ← htaken]
    rfl
  · rw [← flatMap_calls_taken, ← flatMap_calls_taken, ← htaken, flatMap_calls_filter]
    intro t ht h
    rw [Bool.not_eq_false'] at h
    exact (challenges_of_mem_taken ht h).2

/-- **The gate.**  Whoever does not show the right credentials is asked for them at once, whatever
else the request holds and however its body arrives, whatever the gateway is bound to; no backend
is called.  Of all other steps the same is seen as without those requests at a gateway that asks
for nothing, and the same is left behind. -/
theorem gate_filters (c : Credentials) (B : Backends ι ω) (g : Gateway ι ω)
    (steps : List (Step ι)) :
    (∀ r, (Step.request r : Step ι).isSentAway c = true →
        ∃ response : Response, response.Challenges ∧
          ∀ (within : Nat) (body : Body) (g' : Gateway ι ω),
            g'.attempt within (some c) B { r with body } = (some response, g')) ∧
      (∀ t ∈ g.taken (some c) B steps, t.step.isSentAway c = true →
        (∃ response : Response, response.Challenges ∧ t.answer = .response response)
          ∧ t.calls = []) ∧
      (g.taken (some c) B steps).filter (fun t ↦ !t.step.isSentAway c)
        = g.taken none B (steps.filter fun s ↦ !s.isSentAway c) ∧
      (g.run (some c) B steps).2 = (g.run none B (steps.filter fun s ↦ !s.isSentAway c)).2 := by
  refine ⟨?_, fun t ht h ↦ challenges_of_mem_taken ht h, filter_taken c g steps⟩
  intro r h
  rw [isSentAway_request, Bool.not_eq_true'] at h
  exact ⟨_, challenges_unauthorized _, fun within body g' ↦ attempt_of_not_passes h within body g'⟩

end Gateway

/-- The user name `u` and the password `p`. -/
def pair : Credentials := ⟨"u", Password.hash "p"⟩

/-- A request to store a record without fields, with a value for its `Authorization` field. -/
def storeAs (authorization : String) : Request :=
  { storeOf "23" with
    headers := ⟨"Authorization", Text.Utf8.encode authorization⟩ :: (storeOf "23").headers }

/-- A request without credentials, whose body does not arrive. -/
def withoutCredentials : Request :=
  { storeOf "23" with body := { bytes := [], ending := .stalled } }

/-- Requests without credentials, with the right ones and with those of another password. -/
def mixed : List (Step Nat) :=
  [.bind 0, .request withoutCredentials, .request (storeAs "Basic dTpw"), .unbind,
    .request (storeAs "Basic dTpx")]

/-- A request without credentials whose body does not arrive is answered all the same, without a
look at the clock.  One of three requests is let through, and is answered as if it were the only
one. -/
theorem Gateway.gate_filters_stalled :
    (∃ response : Response, response.Challenges ∧
      (⟨some 0, recording 10⟩ : Gateway Nat Trial).attempt 0 (some pair) Trial.backendsByNumber
        withoutCredentials = (some response, ⟨some 0, recording 10⟩)) ∧
    (∃ t ∈ (⟨none, recording 10⟩ : Gateway Nat Trial).taken (some pair) Trial.backendsByNumber
        mixed,
      t.step.isSentAway pair = true ∧
        (∃ response : Response, response.Challenges ∧ t.answer = .response response) ∧
        t.calls = []) ∧
    (((⟨none, recording 10⟩ : Gateway Nat Trial).taken (some pair) Trial.backendsByNumber
        mixed).filter fun t ↦ !t.step.isSentAway pair).map Taken.answer
      = [.bound, .response .success, .unbound] ∧
    ((⟨none, recording 10⟩ : Gateway Nat Trial).run (some pair) Trial.backendsByNumber
        mixed).2.world.journal
      = [.received "r" .store withoutFields] := by
  have hkept : mixed.filter (fun s ↦ !s.isSentAway pair)
      = [.bind 0, .request (storeAs "Basic dTpw"), .unbind] := by
    have hright : (Step.request (storeAs "Basic dTpw") : Step Nat).isSentAway pair = false := by
      decide +kernel
    have hwrong : (Step.request (storeAs "Basic dTpx") : Step Nat).isSentAway pair = true := by
      decide +kernel
    have hnone : (Step.request withoutCredentials : Step Nat).isSentAway pair = true := rfl
    have hbind : (Step.bind 0 : Step Nat).isSentAway pair = false := rfl
    have hunbind : (Step.unbind : Step Nat).isSentAway pair = false := rfl
    simp only [mixed, List.filter, hbind, hnone, hright, hunbind, hwrong, Bool.not_true,
      Bool.not_false]
  obtain ⟨haway, hchallenged, hfilter, hrun⟩ :=
    Gateway.gate_filters pair Trial.backendsByNumber ⟨none, recording 10⟩ mixed
  refine ⟨?_, ?_, ?_, ?_⟩
  · obtain ⟨response, hresponse, hattempt⟩ := haway withoutCredentials rfl
    exact ⟨response, hresponse, hattempt 0 withoutCredentials.body ⟨some 0, recording 10⟩⟩
  · have hmem : _ ∈ (⟨none, recording 10⟩ : Gateway Nat Trial).taken (some pair)
        Trial.backendsByNumber mixed := List.mem_cons_of_mem _ List.mem_cons_self
    exact ⟨_, hmem, rfl, hchallenged _ hmem rfl⟩
  · rw [hfilter, hkept]
    decide +kernel
  · rw [hrun, hkept]
    decide +kernel

end RecordGateway.Http
