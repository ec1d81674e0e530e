import RecordGateway.Http.Gateway

/-!
# The calls of a run

Any backends can be made to write down the calls they get; what they answer and what they keep
stays the same.  The calls of a run of the gateway are what such backends have written down at
its end, so a call that is not in the list was not made.
-/

namespace RecordGateway

open Http (Invocation)

/-- A call that a backend got. -/
inductive BackendCall (ι : Type)
  | invoke (v : Invocation ι)
  | stop (backend : ι)
  deriving DecidableEq

/-- What backends keep, with the calls that they got, the first of them first. -/
structure Witnessed (ι ω : Type) where
  calls : List (BackendCall ι)
  world : ω

/-- Backends that write their calls down. -/
def Backends.witnessed {ι ω : Type} (B : Backends ι ω) : Backends ι (Witnessed ι ω) where
  call within i verb r w :=
    ((B.call within i verb r w.world).1,
      ⟨w.calls ++ [.invoke ⟨i, verb, r⟩], (B.call within i verb r w.world).2⟩)
  stop i w := ⟨w.calls ++ [.stop i], B.stop i w.world⟩

namespace Http

variable {ι ω : Type}

/-- The backend that a gateway is bound to behind a step. -/
def Step.slotAfter (slot : Option ι) : Step ι → Option ι
  | .bind b => some b
  | .unbind => none
  | .stopBackend | .request _ => slot

namespace Gateway

/-- The gateway with a list of the calls of its backends that were made before. -/
def witnessed (g : Gateway ι ω) (calls : List (BackendCall ι)) : Gateway ι (Witnessed ι ω) :=
  ⟨g.slot, ⟨calls, g.world⟩⟩

variable (credentials : Option Credentials) (B : Backends ι ω)

/-- The calls that backends get while steps are taken one after the other. -/
def calls (g : Gateway ι ω) (steps : List (Step ι)) : List (BackendCall ι) :=
  ((g.witnessed []).run credentials B.witnessed steps).2.world.calls

/-- The calls that backends get while one step is taken. -/
def callsOfStep (g : Gateway ι ω) : Step ι → List (BackendCall ι)
  | .bind _ | .unbind => []
  | .stopBackend => g.slot.toList.map .stop
  | .request r =>
    match plan credentials g.slot (r.within requestTimeout) with
    | .error _ => []
    | .ok v => [.invoke v]

/-- A step of witnessed backends is a step of the backends, with its calls written down. -/
theorem step_witnessed (g : Gateway ι ω) (calls : List (BackendCall ι)) (s : Step ι) :
    (g.witnessed calls).step credentials B.witnessed s
      = ((g.step credentials B s).1,
          (g.step credentials B s).2.witnessed (calls ++ g.callsOfStep credentials s)) := by
  obtain ⟨slot, world⟩ := g
  cases s with
  | bind b => simp [step, witnessed, callsOfStep]
  | unbind => simp [step, witnessed, callsOfStep]
  | stopBackend => cases slot <;> simp [step, witnessed, callsOfStep, Backends.witnessed]
  | request r =>
    simp only [step, handle, attempt, witnessed, callsOfStep]
    cases hp : plan credentials slot (r.within requestTimeout) with
    | error e => cases e <;> simp
    | ok v => simp [Backends.witnessed]

/-- A run of witnessed backends is a run of the backends, with its calls written down. -/
theorem run_witnessed (g : Gateway ι ω) (calls : List (BackendCall ι)) (steps : List (Step ι)) :
    (g.witnessed calls).run credentials B.witnessed steps
      = ((g.run credentials B steps).1,
          (g.run credentials B steps).2.witnessed (calls ++ g.calls credentials B steps)) := by
  induction steps generalizing g calls with
  | nil => simp [run, Gateway.calls, witnessed]
  | cons s steps ih =>
    have hcalls : g.calls credentials B (s :: steps)
        = g.callsOfStep credentials s ++ (g.step credentials B s).2.calls credentials B steps := by
      rw [Gateway.calls]
      simp only [run, step_witnessed, ih]
      simp [witnessed]
    simp only [run, step_witnessed, ih, hcalls, List.append_assoc]

/-- Steps one after the other are taken from where those before them have led. -/
theorem run_append (g : Gateway ι ω) (ss ts : List (Step ι)) :
    g.run credentials B (ss ++ ts)
      = ((g.run credentials B ss).1 ++ ((g.run credentials B ss).2.run credentials B ts).1,
          ((g.run credentials B ss).2.run credentials B ts).2) := by
  induction ss generalizing g with
  | nil => simp [run]
  | cons s ss ih => simp [run, ih]

theorem length_run (g : Gateway ι ω) (ss : List (Step ι)) :
    (g.run credentials B ss).1.length = ss.length := by
  induction ss generalizing g with
  | nil => rfl
  | cons s ss ih => simp [run, ih]

theorem calls_append (g : Gateway ι ω) (ss ts : List (Step ι)) :
    g.calls credentials B (ss ++ ts)
      = g.calls credentials B ss ++ (g.run credentials B ss).2.calls credentials B ts := by
  rw [calls, run_append, run_witnessed, run_witnessed]
  simp [witnessed]

theorem calls_singleton (g : Gateway ι ω) (s : Step ι) :
    g.calls credentials B [s] = g.callsOfStep credentials s := by
  rw [calls, run, step_witnessed]
  rfl

/-! ## The backend that a gateway is bound to -/

theorem slot_step (g : Gateway ι ω) (s : Step ι) :
    (g.step credentials B s).2.slot = s.slotAfter g.slot := by
  cases s with
  | bind b => rfl
  | unbind => rfl
  | stopBackend =>
    simp only [step, Step.slotAfter]
    split <;> simp_all
  | request r =>
    simp only [step, handle, attempt, Step.slotAfter]
    split <;> rfl

/-- The backend that a gateway is bound to behind steps, if it is bound to `slot` before them. -/
def boundAfter (slot : Option ι) (steps : List (Step ι)) : Option ι :=
  steps.foldl Step.slotAfter slot

theorem slot_run (g : Gateway ι ω) (steps : List (Step ι)) :
    (g.run credentials B steps).2.slot = boundAfter g.slot steps := by
  induction steps generalizing g with
  | nil => rfl
  | cons s steps ih => rw [run, boundAfter, List.foldl_cons, ih, slot_step, boundAfter]

end Gateway

end Http

end RecordGateway
