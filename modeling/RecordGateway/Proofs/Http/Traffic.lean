import Mathlib.Data.List.Basic
import RecordGateway.Http.Traffic
import RecordGateway.Proofs.Http.Pipeline

/-!
# Requests and the backends they call

However requests and bindings follow upon each other, a request looks for a backend once, and what
it finds is the backend that the gateway is bound to at that moment.  This is the only one that it
may call, and it may do so whatever the gateway is bound to by then.  Where a request stands is tied
to the actions that were taken (`Story`); this is kept by every action, be it one of the request
itself or not, and so by every run.
-/

namespace RecordGateway.Http

variable {ι : Type}

namespace TrafficAction

/-- The request that takes an action, by number. -/
def about? : TrafficAction ι → Option Nat
  | bind _ | unbind | arrive _ => none
  | receive i | look i | call i | answer i _ | giveUp i => some i

/-- The request that arrives. -/
def arrival? : TrafficAction ι → Option Request
  | arrive r => some r
  | _ => none

/-- Does the action bind the gateway, or unbind it? -/
def binds : TrafficAction ι → Bool
  | bind _ | unbind => true
  | _ => false

/-- The backend that a gateway is bound to behind an action. -/
def slotAfter (slot : Option ι) : TrafficAction ι → Option ι
  | bind b => some b
  | unbind => none
  | _ => slot

end TrafficAction

namespace Traffic

/-- The requests that arrive, by number. -/
def arrivals (as : List (TrafficAction ι)) : List Request := as.filterMap TrafficAction.arrival?

/-- The backend that a gateway is bound to behind actions, if it is bound to `slot` before. -/
def boundBehind (slot : Option ι) (as : List (TrafficAction ι)) : Option ι :=
  as.foldl TrafficAction.slotAfter slot

variable {credentials : Option Credentials} {t t' : Traffic ι} {a : TrafficAction ι}
  {as bs : List (TrafficAction ι)} {i j : Nat} {p q : RequestPhase ι} {v : Invocation ι}
  {made cs : List (Invocation ι)} {slot found : Option ι}

/-! ## What an action does -/

theorem phase?_setPhase (h : t.phase? i = some p) (q : RequestPhase ι) (j : Nat) :
    (t.setPhase i q).phase? j = if i = j then some q else t.phase? j := by
  obtain ⟨hi, -⟩ := List.getElem?_eq_some_iff.1 h
  rw [phase?, setPhase, List.getElem?_set, if_pos hi, phase?]

/-- A request stands where it waits, and can be given up. -/
inductive Waits : RequestPhase ι → Prop
  | arrived {r} : Waits (.arrived r)
  | accepted {verb record} : Waits (.accepted verb record)
  | calling {v : Invocation ι} : Waits (.calling v)

/-- How a request goes on by an action of its own, and which calls it makes thereby. -/
inductive Moves (credentials : Option Credentials) (slot : Option ι) (i : Nat) :
    TrafficAction ι → RequestPhase ι → RequestPhase ι → List (Invocation ι) → Prop
  | refuse {r e} (h : accept credentials r = .error e) (hstalled : e ≠ .stalled) :
      Moves credentials slot i (.receive i) (.arrived r) (.answered e.response) []
  | accept {r verb record} (h : Http.accept credentials r = .ok (verb, record)) :
      Moves credentials slot i (.receive i) (.arrived r) (.accepted verb record) []
  | miss {verb record} (h : slot = none) :
      Moves credentials slot i (.look i) (.accepted verb record)
        (.answered (Rejection.backend .unbound).response) []
  | find {verb record backend} (h : slot = some backend) :
      Moves credentials slot i (.look i) (.accepted verb record)
        (.holding ⟨backend, verb, record⟩) []
  | call {v : Invocation ι} : Moves credentials slot i (.call i) (.holding v) (.calling v) [v]
  | answer {v : Invocation ι} {result} :
      Moves credentials slot i (.answer i result) (.calling v) (.answered (.ofAnswer result)) []
  | giveUp {p : RequestPhase ι} (h : Waits p) :
      Moves credentials slot i (.giveUp i) p .givenUp []

/-- What an action needs, and what it changes.  An action of a request moves no other request. -/
inductive Takes (credentials : Option Credentials) (t t' : Traffic ι) : TrafficAction ι → Prop
  | bind {a : TrafficAction ι} (ha : a.binds = true)
      (h : t' = { t with slot := a.slotAfter t.slot }) :
      Takes credentials t t' a
  | arrive {r} (h : t' = { t with requests := t.requests ++ [.arrived r] }) :
      Takes credentials t t' (.arrive r)
  | move {a : TrafficAction ι} {i p q made} (hphase : t.phase? i = some p)
      (hmove : Moves credentials t.slot i a p q made)
      (h : t' = { t.setPhase i q with calls := t.calls ++ made.map fun v ↦ (i, v) }) :
      Takes credentials t t' a

theorem takes_move (hphase : t.phase? i = some p) (hmove : Moves credentials t.slot i a p q []) :
    Takes credentials t (t.setPhase i q) a :=
  .move hphase hmove (by rw [List.map_nil, List.append_nil]; rfl)

theorem takes_of_step (h : t.step credentials a = some t') : Takes credentials t t' a := by
  cases a with
  | bind | unbind =>
    cases h
    exact .bind rfl rfl
  | arrive r =>
    cases h
    exact .arrive rfl
  | receive i =>
    rw [step] at h
    split at h
    next r hphase =>
      split at h
      · cases h
      next e hstalled haccept =>
        cases h
        exact takes_move hphase (.refuse haccept hstalled)
      next verb record haccept =>
        cases h
        exact takes_move hphase (.accept haccept)
    · cases h
  | look i =>
    rw [step] at h
    split at h
    next verb record hphase =>
      split at h
      next hslot =>
        cases h
        exact takes_move hphase (.miss hslot)
      next backend hslot =>
        cases h
        exact takes_move hphase (.find hslot)
    · cases h
  | call i =>
    rw [step] at h
    split at h
    next v hphase =>
      cases h
      exact .move hphase .call rfl
    · cases h
  | answer i result =>
    rw [step] at h
    split at h
    next v hphase =>
      cases h
      exact takes_move hphase .answer
    · cases h
  | giveUp i =>
    rw [step] at h
    split at h
    next r hphase =>
      cases h
      exact takes_move hphase (.giveUp .arrived)
    next verb record hphase =>
      cases h
      exact takes_move hphase (.giveUp .accepted)
    next v hphase =>
      cases h
      exact takes_move hphase (.giveUp .calling)
    · cases h

/-- A request can take every action of its own by which it would go on. -/
theorem step_of_moves (hphase : t.phase? i = some p)
    (hmove : Moves credentials t.slot i a p q made) :
    t.step credentials a
      = some { t.setPhase i q with calls := t.calls ++ made.map fun v ↦ (i, v) } := by
  cases hmove with
  | @refuse r e h hstalled =>
    rw [step, hphase, List.map_nil, List.append_nil]
    cases e <;> simp_all [setPhase]
  | accept h => simp [step, hphase, h, setPhase]
  | miss h | find h => simp [step, hphase, h, setPhase]
  | call | answer => simp [step, hphase, setPhase]
  | giveUp h => cases h <;> simp [step, hphase, setPhase]

theorem Moves.about?_eq (h : Moves credentials slot i a p q made) : a.about? = some i := by
  cases h <;> rfl

theorem about?_of_binds (h : a.binds = true) : a.about? = none ∧ a.arrival? = none := by
  cases a with
  | bind | unbind => exact ⟨rfl, rfl⟩
  | arrive | receive | look | call | answer | giveUp => cases h

theorem binds_of_about? (h : a.about? = some i) : a.binds = false ∧ a.arrival? = none := by
  cases a with
  | receive | look | call | answer | giveUp => exact ⟨rfl, rfl⟩
  | bind | unbind | arrive => cases h

theorem slotAfter_of_not_binds (slot : Option ι) (h : a.binds = false) :
    a.slotAfter slot = slot := by
  cases a with
  | bind | unbind => cases h
  | arrive | receive | look | call | answer | giveUp => rfl

theorem callsOf_move (t : Traffic ι) (i j : Nat) (q : RequestPhase ι) (made : List (Invocation ι)) :
    callsOf { t.setPhase i q with calls := t.calls ++ made.map fun v ↦ (i, v) } j
      = t.callsOf j ++ if i = j then made else [] := by
  rw [callsOf, List.filter_append, List.map_append, callsOf]
  congr 1
  by_cases h : i = j <;> simp [h, List.filter_map, Function.comp_def]

theorem mem_callsOf_iff : v ∈ t.callsOf i ↔ (i, v) ∈ t.calls := by
  simp [callsOf]

/-! ## What a request has found -/

/-- A request has looked for a backend once, and this is what it has found. -/
inductive Looked (slot : Option ι) (as : List (TrafficAction ι)) (i : Nat) (found : Option ι) : Prop
  | mk {before after} (heq : as = before ++ .look i :: after) (hbefore : .look i ∉ before)
      (hafter : .look i ∉ after) (hfound : boundBehind slot before = found)

theorem not_mem_concat {b : TrafficAction ι} (h : b ∉ as) (ha : a ≠ b) : b ∉ as ++ [a] := by
  rw [List.mem_append, List.mem_singleton]
  rintro (hmem | rfl)
  · exact h hmem
  · exact ha rfl

theorem looked_self (slot : Option ι) (h : .look i ∉ as) :
    Looked slot (as ++ [.look i]) i (boundBehind slot as) :=
  .mk rfl h List.not_mem_nil rfl

theorem Looked.concat (h : Looked slot as i found) (ha : a ≠ .look i) :
    Looked slot (as ++ [a]) i found := by
  obtain ⟨rfl, hbefore, hafter, hfound⟩ := h
  refine .mk ?_ hbefore (not_mem_concat hafter ha) hfound
  rw [List.append_assoc, List.cons_append]

/-- Wherever a request is seen to look, it finds what it has found. -/
theorem Looked.eq_of_split (h : Looked slot as i found) {before after : List (TrafficAction ι)}
    (heq : as = before ++ .look i :: after) : boundBehind slot before = found := by
  obtain ⟨rfl, hbefore, hafter, hfound⟩ := h
  obtain ⟨rfl, -, -⟩ := (List.append_cons_inj_of_notMem hbefore hafter).1 heq
  exact hfound

/-- A request asks for something to be done with a record. -/
def Asks (credentials : Option Credentials) (as : List (TrafficAction ι)) (i : Nat) (verb : Verb)
    (record : Record) : Prop :=
  ∃ r, (arrivals as)[i]? = some r ∧ accept credentials r = .ok (verb, record)

theorem arrivals_concat (as : List (TrafficAction ι)) (a : TrafficAction ι) :
    arrivals (as ++ [a]) = arrivals as ++ a.arrival?.toList := by
  rw [arrivals, List.filterMap_append, arrivals]
  cases a <;> rfl

theorem getElem?_arrivals_concat {r : Request} (h : (arrivals as)[i]? = some r)
    (a : TrafficAction ι) : (arrivals (as ++ [a]))[i]? = some r := by
  obtain ⟨hi, -⟩ := List.getElem?_eq_some_iff.1 h
  rw [arrivals_concat, List.getElem?_append_left hi, h]

theorem Asks.concat {verb : Verb} {record : Record} (h : Asks credentials as i verb record)
    (a : TrafficAction ι) : Asks credentials (as ++ [a]) i verb record := by
  obtain ⟨r, hr, haccept⟩ := h
  exact ⟨r, getElem?_arrivals_concat hr a, haccept⟩

/-- What a request in a phase has done, and the calls that it has made. -/
inductive Story (credentials : Option Credentials) (slot : Option ι) (as : List (TrafficAction ι))
    (i : Nat) : RequestPhase ι → List (Invocation ι) → Prop
  | arrived {r} (hr : (arrivals as)[i]? = some r) (hlook : .look i ∉ as) :
      Story credentials slot as i (.arrived r) []
  | refused {response : Response} (hlook : .look i ∉ as) :
      Story credentials slot as i (.answered response) []
  | accepted {verb record} (hasks : Asks credentials as i verb record) (hlook : .look i ∉ as) :
      Story credentials slot as i (.accepted verb record) []
  | unbound (h : Looked slot as i none) :
      Story credentials slot as i (.answered (Rejection.backend .unbound).response) []
  | holding {v : Invocation ι} (h : Looked slot as i (some v.backend))
      (hasks : Asks credentials as i v.verb v.record) :
      Story credentials slot as i (.holding v) []
  | calling {v : Invocation ι} (h : Looked slot as i (some v.backend))
      (hasks : Asks credentials as i v.verb v.record) :
      Story credentials slot as i (.calling v) [v]
  | answered {v : Invocation ι} {result} (h : Looked slot as i (some v.backend))
      (hasks : Asks credentials as i v.verb v.record) (hresult : .answer i result ∈ as) :
      Story credentials slot as i (.answered (.ofAnswer result)) [v]
  | lost (hlook : .look i ∉ as) (hup : .giveUp i ∈ as) : Story credentials slot as i .givenUp []
  | givenUp {v : Invocation ι} (h : Looked slot as i (some v.backend))
      (hasks : Asks credentials as i v.verb v.record) (hup : .giveUp i ∈ as) :
      Story credentials slot as i .givenUp [v]

/-- The story of a request is not touched by what others do. -/
theorem Story.concat (h : Story credentials slot as i p cs) (ha : a.about? ≠ some i) :
    Story credentials slot (as ++ [a]) i p cs := by
  have hlook : a ≠ .look i := by
    rintro rfl
    exact ha rfl
  cases h with
  | arrived hr hnot => exact .arrived (getElem?_arrivals_concat hr a) (not_mem_concat hnot hlook)
  | refused hnot => exact .refused (not_mem_concat hnot hlook)
  | accepted hasks hnot => exact .accepted (hasks.concat a) (not_mem_concat hnot hlook)
  | unbound h => exact .unbound (h.concat hlook)
  | holding h hasks => exact .holding (h.concat hlook) (hasks.concat a)
  | calling h hasks => exact .calling (h.concat hlook) (hasks.concat a)
  | answered h hasks hresult =>
    exact .answered (h.concat hlook) (hasks.concat a) (List.mem_append_left _ hresult)
  | lost hnot hup => exact .lost (not_mem_concat hnot hlook) (List.mem_append_left _ hup)
  | givenUp h hasks hup =>
    exact .givenUp (h.concat hlook) (hasks.concat a) (List.mem_append_left _ hup)

/-- The story of a request goes on as the request does. -/
theorem Story.move (h : Story credentials slot as i p cs)
    (hmove : Moves credentials (boundBehind slot as) i a p q made) :
    Story credentials slot (as ++ [a]) i q (cs ++ made) := by
  have hlast : a ∈ as ++ [a] := List.mem_append_right _ (List.mem_singleton.2 rfl)
  cases hmove with
  | refuse =>
    cases h with
    | arrived hr hnot => exact .refused (not_mem_concat hnot (by simp))
  | accept haccept =>
    cases h with
    | arrived hr hnot =>
      exact .accepted ⟨_, getElem?_arrivals_concat hr _, haccept⟩ (not_mem_concat hnot (by simp))
  | miss hslot =>
    cases h with
    | accepted hasks hnot => exact .unbound (hslot ▸ looked_self slot hnot)
  | find hslot =>
    cases h with
    | accepted hasks hnot => exact .holding (hslot ▸ looked_self slot hnot) (hasks.concat _)
  | call =>
    cases h with
    | holding h hasks => exact .calling (h.concat (by simp)) (hasks.concat _)
  | answer =>
    cases h with
    | calling h hasks => exact .answered (h.concat (by simp)) (hasks.concat _) hlast
  | giveUp hwaits =>
    cases hwaits with
    | arrived =>
      cases h with
      | arrived hr hnot => exact .lost (not_mem_concat hnot (by simp)) hlast
    | accepted =>
      cases h with
      | accepted hasks hnot => exact .lost (not_mem_concat hnot (by simp)) hlast
    | calling =>
      cases h with
      | calling h hasks => exact .givenUp (h.concat (by simp)) (hasks.concat _) hlast

/-- A request makes one call at most. -/
theorem Story.length_le (h : Story credentials slot as i p cs) : cs.length ≤ 1 := by
  cases h <;> simp

/-- What a request calls is what it has found, with what it asks for. -/
theorem Story.of_mem (h : Story credentials slot as i p cs) (hv : v ∈ cs) :
    Looked slot as i (some v.backend) ∧ Asks credentials as i v.verb v.record := by
  cases h with
  | arrived | refused | accepted | unbound | holding | lost => cases hv
  | calling h hasks | answered h hasks | givenUp h hasks =>
    obtain rfl := List.mem_singleton.1 hv
    exact ⟨h, hasks⟩

/-! ## Steps and runs -/

/-- What the traffic tells of the actions that were taken, with `slot` being what the gateway was
bound to at first. -/
structure Tells (credentials : Option Credentials) (slot : Option ι) (as : List (TrafficAction ι))
    (t : Traffic ι) : Prop where
  slot_eq : t.slot = boundBehind slot as
  length_eq : (arrivals as).length = t.requests.length
  story : ∀ i p, t.phase? i = some p → Story credentials slot as i p (t.callsOf i)
  unknown : ∀ i, t.phase? i = none → .look i ∉ as ∧ t.callsOf i = []

theorem tells_start (credentials : Option Credentials) (slot : Option ι) :
    Tells credentials slot [] { slot } where
  slot_eq := rfl
  length_eq := rfl
  story i p h := by cases h
  unknown i _ := ⟨List.not_mem_nil, rfl⟩

theorem boundBehind_concat (slot : Option ι) (as : List (TrafficAction ι)) (a : TrafficAction ι) :
    boundBehind slot (as ++ [a]) = a.slotAfter (boundBehind slot as) := List.foldl_concat ..

/-- The story of a request that has just arrived. -/
theorem Tells.story_arrive (ht : Tells credentials slot as t) (r : Request) :
    (arrivals (as ++ [.arrive r]))[t.requests.length]? = some r ∧ .look t.requests.length ∉ as
      ∧ t.callsOf t.requests.length = [] := by
  have hnone : t.phase? t.requests.length = none := List.getElem?_eq_none (Nat.le_refl _)
  obtain ⟨hlook, hcalls⟩ := ht.unknown _ hnone
  refine ⟨?_, hlook, hcalls⟩
  rw [arrivals_concat, ← ht.length_eq]
  exact List.getElem?_concat_length

theorem Tells.bind (ht : Tells credentials slot as t) (ha : a.binds = true) :
    Tells credentials slot (as ++ [a]) { t with slot := a.slotAfter t.slot } where
  slot_eq := by rw [boundBehind_concat, ht.slot_eq]
  length_eq := by
    rw [arrivals_concat, (about?_of_binds ha).2, Option.toList_none, List.append_nil, ht.length_eq]
  story i p hp := by
    refine (ht.story i p hp).concat ?_
    rw [(about?_of_binds ha).1]
    exact nofun
  unknown i hi := by
    obtain ⟨hlook, hcalls⟩ := ht.unknown i hi
    refine ⟨not_mem_concat hlook ?_, hcalls⟩
    rintro rfl
    cases ha

theorem Tells.arrive (ht : Tells credentials slot as t) (r : Request) :
    Tells credentials slot (as ++ [.arrive r])
      { t with requests := t.requests ++ [.arrived r] } where
  slot_eq := by
    rw [boundBehind_concat]
    exact ht.slot_eq
  length_eq := by
    rw [arrivals_concat, List.length_append, ht.length_eq, List.length_append]
    rfl
  story i p hp := by
    obtain ⟨hr, hlook, hcalls⟩ := ht.story_arrive r
    change (t.requests ++ [_])[i]? = some p at hp
    by_cases hi : i < t.requests.length
    · rw [List.getElem?_append_left hi] at hp
      exact (ht.story i p hp).concat nofun
    · obtain rfl : i = t.requests.length := by
        have hlt := (List.getElem?_eq_some_iff.1 hp).1
        rw [List.length_append, List.length_singleton] at hlt
        omega
      rw [List.getElem?_concat_length] at hp
      cases hp
      exact hcalls ▸ Story.arrived hr (not_mem_concat hlook nofun)
  unknown i hi := by
    have hold : t.phase? i = none := by
      have hle := List.getElem?_eq_none_iff.1 hi
      rw [List.length_append] at hle
      exact List.getElem?_eq_none (by omega)
    obtain ⟨hlook, hcalls⟩ := ht.unknown i hold
    exact ⟨not_mem_concat hlook nofun, hcalls⟩

theorem Tells.move (ht : Tells credentials slot as t) (hphase : t.phase? i = some p)
    (hmove : Moves credentials t.slot i a p q made) :
    Tells credentials slot (as ++ [a])
      { t.setPhase i q with calls := t.calls ++ made.map fun v ↦ (i, v) } where
  slot_eq := by
    rw [boundBehind_concat, slotAfter_of_not_binds _ (binds_of_about? hmove.about?_eq).1]
    exact ht.slot_eq
  length_eq := by
    rw [arrivals_concat, (binds_of_about? hmove.about?_eq).2, Option.toList_none, List.append_nil,
      ht.length_eq]
    exact List.length_set.symm
  story j p' hp' := by
    replace hp' := (phase?_setPhase hphase q j).symm.trans hp'
    rw [callsOf_move]
    by_cases hij : i = j
    · -- The request goes on, and so does its story.
      subst hij
      rw [if_pos rfl] at hp' ⊢
      cases hp'
      exact (ht.story i p hphase).move (ht.slot_eq ▸ hmove)
    · rw [if_neg hij] at hp' ⊢
      rw [List.append_nil]
      refine (ht.story j p' hp').concat ?_
      rw [hmove.about?_eq]
      exact fun h ↦ hij (Option.some.inj h)
  unknown j hj := by
    replace hj := (phase?_setPhase hphase q j).symm.trans hj
    rw [callsOf_move]
    by_cases hij : i = j
    · rw [if_pos hij] at hj
      cases hj
    · rw [if_neg hij] at hj ⊢
      rw [List.append_nil]
      obtain ⟨hlook, hnone⟩ := ht.unknown j hj
      refine ⟨not_mem_concat hlook ?_, hnone⟩
      rintro rfl
      exact hij (Option.some.inj hmove.about?_eq).symm

/-- What the traffic tells is kept by every action. -/
theorem Tells.step (ht : Tells credentials slot as t) (h : t.step credentials a = some t') :
    Tells credentials slot (as ++ [a]) t' := by
  cases takes_of_step h with
  | bind ha heq => exact heq ▸ ht.bind ha
  | @arrive r heq => exact heq ▸ ht.arrive r
  | move hphase hmove heq => exact heq ▸ ht.move hphase hmove

/-- What the traffic tells is kept by every run. -/
theorem Tells.run (ht : Tells credentials slot as t) (h : t.run credentials bs = some t') :
    Tells credentials slot (as ++ bs) t' := by
  induction bs generalizing t as with
  | nil =>
    cases h
    rwa [List.append_nil]
  | cons b bs ih =>
    rw [Traffic.run, Option.bind_eq_some_iff] at h
    obtain ⟨t₁, hstep, hrun⟩ := h
    have h := ih (ht.step hstep) hrun
    rwa [List.append_assoc, List.singleton_append] at h

/-! ## Where requests lead -/

/-- What requests do can be left out of account. -/
theorem boundBehind_filter (slot : Option ι) (as : List (TrafficAction ι)) :
    boundBehind slot (as.filter TrafficAction.binds) = boundBehind slot as := by
  induction as generalizing slot with
  | nil => rfl
  | cons a as ih =>
    cases h : a.binds with
    | true =>
      rw [List.filter_cons_of_pos h]
      exact ih (a.slotAfter slot)
    | false =>
      rw [List.filter_cons_of_neg (by simp [h]), ih, boundBehind, boundBehind, List.foldl_cons,
        slotAfter_of_not_binds slot h]

theorem boundBehind_of_bind {between : List (TrafficAction ι)}
    (hbetween : ∀ a ∈ between, a.binds = false) (slot : Option ι)
    (before : List (TrafficAction ι)) (b : ι) :
    boundBehind slot (before ++ .bind b :: between) = some b := by
  have hnone : between.filter TrafficAction.binds = [] := by
    rw [List.filter_eq_nil_iff]
    intro a ha
    rw [hbetween a ha]
    exact Bool.false_ne_true
  rw [boundBehind, List.foldl_append, List.foldl_cons]
  exact (boundBehind_filter (some b) between).symm.trans (by rw [hnone]; rfl)

/-- A request that has found a backend sees its call through, whatever the gateway is bound to. -/
inductive Pursues (credentials : Option Credentials) (as : List (TrafficAction ι)) (t : Traffic ι)
    (i : Nat) (v : Invocation ι) : Prop
  | holding (hphase : t.phase? i = some (.holding v)) (hcalls : t.callsOf i = [])
      (hnext : ∀ slot, ∃ t', step credentials { t with slot } (.call i) = some t' ∧
        t'.phase? i = some (.calling v) ∧ t'.callsOf i = [v])
  | calling (hphase : t.phase? i = some (.calling v)) (hcalls : t.callsOf i = [v])
      (hnext : ∀ slot result, ∃ t',
        step credentials { t with slot } (.answer i result) = some t' ∧
        t'.phase? i = some (.answered (.ofAnswer result)) ∧ t'.callsOf i = [v])
  | answered {result} (hresult : .answer i result ∈ as)
      (hphase : t.phase? i = some (.answered (.ofAnswer result))) (hcalls : t.callsOf i = [v])
  | givenUp (hup : .giveUp i ∈ as) (hphase : t.phase? i = some .givenUp)
      (hcalls : t.callsOf i = [v])

theorem Tells.pursues (ht : Tells credentials slot as t) {before after : List (TrafficAction ι)}
    {b : ι} (heq : as = before ++ .look i :: after) (hb : boundBehind slot before = some b) :
    ∃ v : Invocation ι, v.backend = b ∧ Asks credentials as i v.verb v.record ∧
      Pursues credentials as t i v := by
  have hmem : .look i ∈ as := heq ▸ List.mem_append_right _ List.mem_cons_self
  cases hphase : t.phase? i with
  | none => exact absurd hmem (ht.unknown i hphase).1
  | some p =>
    have hstory := ht.story i p hphase
    have hbackend {v : Invocation ι} (h : Looked slot as i (some v.backend)) : v.backend = b :=
      Option.some.inj ((h.eq_of_split heq).symm.trans hb)
    generalize hcalls : t.callsOf i = cs at hstory
    cases hstory with
    | arrived _ hlook | refused hlook | accepted _ hlook | lost hlook => exact absurd hmem hlook
    | unbound h =>
      have hnone := h.eq_of_split heq
      rw [hb] at hnone
      cases hnone
    | @holding v h hasks =>
      refine ⟨v, hbackend h, hasks, .holding hphase hcalls fun slot ↦ ?_⟩
      refine ⟨_, step_of_moves hphase .call, (phase?_setPhase hphase _ i).trans (if_pos rfl), ?_⟩
      rw [callsOf_move, if_pos rfl]
      exact congrArg (· ++ [v]) hcalls
    | @calling v h hasks =>
      refine ⟨v, hbackend h, hasks, .calling hphase hcalls fun slot result ↦ ?_⟩
      refine ⟨_, step_of_moves hphase .answer, (phase?_setPhase hphase _ i).trans (if_pos rfl), ?_⟩
      rw [callsOf_move, if_pos rfl, List.append_nil]
      exact hcalls
    | @answered v result h hasks hresult =>
      exact ⟨v, hbackend h, hasks, .answered hresult hphase hcalls⟩
    | @givenUp v h hasks hup => exact ⟨v, hbackend h, hasks, .givenUp hup hphase hcalls⟩

theorem Tells.found_of_mem (ht : Tells credentials slot as t) (hv : (i, v) ∈ t.calls) :
    Looked slot as i (some v.backend) ∧ Asks credentials as i v.verb v.record := by
  rw [← mem_callsOf_iff] at hv
  cases hphase : t.phase? i with
  | none =>
    rw [(ht.unknown i hphase).2] at hv
    cases hv
  | some p => exact (ht.story i p hphase).of_mem hv

/-- What can be relied on when requests and bindings follow upon each other. -/
structure Routed (credentials : Option Credentials) (slot : Option ι)
    (as : List (TrafficAction ι)) (t : Traffic ι) : Prop where
  /-- A request makes one call at most. -/
  one_call : ∀ i, (t.callsOf i).length ≤ 1
  /-- A request looks once before it calls, and calls what the gateway was bound to then, with what
  it asks for. -/
  call_found : ∀ i v, (i, v) ∈ t.calls →
    Looked slot as i (some v.backend) ∧ Asks credentials as i v.verb v.record
  /-- A request that looks when the gateway has been bound to a backend, and neither bound anew nor
  unbound since, calls no other. -/
  call_bound : ∀ before b between i after v,
    as = before ++ .bind b :: (between ++ .look i :: after) →
    (∀ a ∈ between, a.binds = false) → (i, v) ∈ t.calls → v.backend = b
  /-- A request that has found a backend sees its call through, whatever the gateway was bound to
  since. -/
  pursues : ∀ before i after b, as = before ++ .look i :: after →
    boundBehind slot before = some b →
    ∃ v : Invocation ι, v.backend = b ∧ Asks credentials as i v.verb v.record ∧
      Pursues credentials as t i v
  /-- Nothing that a request does changes what the gateway is bound to. -/
  slot_eq : t.slot = boundBehind slot (as.filter TrafficAction.binds)

theorem Tells.routed (ht : Tells credentials slot as t) : Routed credentials slot as t where
  one_call i := by
    cases hphase : t.phase? i with
    | none =>
      rw [(ht.unknown i hphase).2]
      exact Nat.zero_le 1
    | some p => exact (ht.story i p hphase).length_le
  call_found i v hv := ht.found_of_mem hv
  call_bound before b between i after v heq hbetween hv := by
    rw [← List.cons_append, ← List.append_assoc] at heq
    have hfound := (ht.found_of_mem hv).1.eq_of_split heq
    rw [boundBehind_of_bind hbetween] at hfound
    exact (Option.some.inj hfound).symm
  pursues before i after b heq hb := ht.pursues heq hb
  slot_eq := by rw [ht.slot_eq, boundBehind_filter]

/-- **Routing.**  However requests and bindings follow upon each other, every request calls one
backend at most, the one that the gateway was bound to when the request looked. -/
theorem routed_of_run (h : run credentials { slot } as = some t) : Routed credentials slot as t :=
  ((tells_start credentials slot).run h).routed

/-- The gateway is bound anew while a request is about to call the backend that it has found, and
unbound before it is answered; another request finds the new one, and a third one finds none. -/
def rebinding : List (TrafficAction Nat) :=
  [.arrive (storeOf "23"), .receive 0, .look 0, .bind 2, .call 0, .arrive (storeOf "23"),
    .receive 1, .look 1, .unbind, .call 1, .giveUp 1, .answer 0 (.ok ()), .arrive (storeOf "23"),
    .receive 2, .look 2]

/-- Both calls reach the backends that were found, although the gateway is bound to none in the
end. -/
theorem routed_rebinding :
    ∃ t, run none { slot := some 1 } rebinding = some t ∧ Routed none (some 1) rebinding t ∧
      t.slot = none ∧ t.calls.map (fun c ↦ (c.1, c.2.backend)) = [(0, 1), (1, 2)] := by
  have hend : (run none { slot := some 1 } rebinding).map
      (fun t ↦ (t.slot, t.calls.map fun c ↦ (c.1, c.2.backend)))
        = some (none, [(0, 1), (1, 2)]) := by
    decide +kernel
  obtain ⟨t, hrun, heq⟩ := Option.map_eq_some_iff.1 hend
  obtain ⟨hslot, hcalls⟩ := Prod.mk.inj heq
  exact ⟨t, hrun, routed_of_run hrun, hslot, hcalls⟩

/-! ## Requests that are alone -/

variable {ω : Type}

/-- The traffic with one more request, which has made some calls. -/
def join (t : Traffic ι) (p : RequestPhase ι) (made : List (Invocation ι)) : Traffic ι where
  slot := t.slot
  requests := t.requests ++ [p]
  calls := t.calls ++ made.map fun v ↦ (t.requests.length, v)

theorem run_arrive (t : Traffic ι) (r : Request) :
    t.run credentials (.arrive r :: as) = (t.join (.arrived r) []).run credentials as := by
  simp [run, step, join]

/-- The request that was the last to arrive goes on. -/
theorem run_join (hmove : Moves credentials t.slot t.requests.length a p q made) :
    (t.join p cs).run credentials (a :: as) = (t.join q (cs ++ made)).run credentials as := by
  have hphase : (t.join p cs).phase? t.requests.length = some p := List.getElem?_concat_length
  rw [run, step_of_moves hphase hmove, Option.bind_some]
  simp [join, setPhase]

/-- A request that is alone is answered, or given up, as a gateway carries it out within any time,
and makes the same call. -/
theorem run_alone (B : Backends ι ω) (within : Nat) (world : ω) (t : Traffic ι) (r : Request) :
    ∃ as, t.run credentials (.arrive r :: as)
      = some (t.join
          (((Gateway.attempt within credentials B r ⟨t.slot, world⟩).1.map .answered).getD .givenUp)
          (plan credentials t.slot (r.within within)).toOption.toList) := by
  cases hwithin : accept credentials (r.within within) with
  | error e =>
    have hplan : plan credentials t.slot (r.within within) = .error e := by rw [plan, hwithin]
    by_cases hstalled : e = .stalled
    · refine ⟨[.giveUp t.requests.length], ?_⟩
      rw [run_arrive, run_join (.giveUp .arrived), Gateway.attempt, hplan, hstalled]
      rfl
    · have haccept : accept credentials r = .error e := by
        have hnot : accept credentials (r.within within) ≠ .error .stalled := by
          simp [hwithin, hstalled]
        rw [← accept_within hnot, hwithin]
      refine ⟨[.receive t.requests.length], ?_⟩
      rw [run_arrive, run_join (.refuse haccept hstalled), Gateway.attempt, hplan]
      cases e <;> first | rfl | exact absurd rfl hstalled
  | ok asked =>
    obtain ⟨verb, record⟩ := asked
    have haccept : accept credentials r = .ok (verb, record) := by
      have hnot : accept credentials (r.within within) ≠ .error .stalled := by simp [hwithin]
      rw [← accept_within hnot, hwithin]
    cases hslot : t.slot with
    | none =>
      have hplan : plan credentials (none : Option ι) (r.within within)
          = .error (.rejected (.backend .unbound)) := by
        rw [plan, hwithin]
      refine ⟨[.receive t.requests.length, .look t.requests.length], ?_⟩
      rw [run_arrive, run_join (.accept haccept), run_join (.miss hslot), Gateway.attempt, hplan]
      rfl
    | some backend =>
      have hplan : plan credentials (some backend) (r.within within)
          = .ok ⟨backend, verb, record⟩ := by
        rw [plan, hwithin]
      cases hanswer : (B.call (within - r.body.arrival) backend verb record world).1 with
      | none =>
        refine ⟨[.receive t.requests.length, .look t.requests.length, .call t.requests.length,
          .giveUp t.requests.length], ?_⟩
        rw [run_arrive, run_join (.accept haccept), run_join (.find hslot), run_join .call,
          run_join (.giveUp .calling), Gateway.attempt, hplan]
        simp [hanswer, run, Except.toOption]
      | some result =>
        refine ⟨[.receive t.requests.length, .look t.requests.length, .call t.requests.length,
          .answer t.requests.length result], ?_⟩
        rw [run_arrive, run_join (.accept haccept), run_join (.find hslot), run_join .call,
          run_join .answer, Gateway.attempt, hplan]
        simp [hanswer, run, Except.toOption]

end Traffic

end RecordGateway.Http
