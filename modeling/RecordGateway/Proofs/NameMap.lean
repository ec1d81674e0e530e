import Mathlib.Data.List.Induction
import RecordGateway.NameMap

/-!
# What a finite map holds

A name is listed at most once, so looking a name up and finding its entry in the list come to the
same, and a map is determined by what it gives for each name.  Filling a map from a list keeps
the last value of each name, and changing all values by a rule that may fail either changes each
of them, in whatever order they are gone through, or reports a value that the rule refuses.
-/

namespace RecordGateway.NameMap

variable {α β ε : Type}

/-- The names are listed in strictly ascending order. -/
theorem keys_ascending (m : NameMap α) : m.keys.Pairwise (· < ·) :=
  pairwise_iff_keys.1 m.ascending

theorem keys_nodup (m : NameMap α) : m.keys.Nodup :=
  m.keys_ascending.imp fun h ↦ String.ne_of_lt h

/-- Among entries with distinct names, a name has the value that it is listed with. -/
theorem lookup_eq_some_iff {es : List (String × α)} (h : (es.map Prod.fst).Nodup) {k : String}
    {v : α} : es.lookup k = some v ↔ (k, v) ∈ es := by
  induction es with
  | nil => simp
  | cons e es ih =>
    rw [List.map_cons, List.nodup_cons] at h
    obtain ⟨he, hes⟩ := h
    rw [lookup_entry_cons, List.mem_cons]
    split
    next hk =>
      subst hk
      constructor
      · intro h
        exact .inl (by rw [← Option.some.inj h])
      · rintro (h | h)
        · rw [← h]
        · exact absurd (List.mem_map_of_mem h) he
    next hk =>
      rw [ih hes]
      exact ⟨.inr, fun h ↦ h.resolve_left fun h ↦ hk (by rw [← h])⟩

/-- A name has the value that it is listed with. -/
theorem get?_eq_some_iff {m : NameMap α} {k : String} {v : α} :
    m.get? k = some v ↔ (k, v) ∈ m.entries :=
  lookup_eq_some_iff m.keys_nodup

theorem nodup_of_perm {m : NameMap α} {es : List (String × α)} (h : es.Perm m.entries) :
    (es.map Prod.fst).Nodup :=
  (h.map Prod.fst).nodup_iff.2 m.keys_nodup

/-- The value of a name is found in whatever order the entries are gone through. -/
theorem lookup_of_perm {m : NameMap α} {es : List (String × α)} (h : es.Perm m.entries)
    (k : String) : es.lookup k = m.get? k := by
  ext v
  rw [lookup_eq_some_iff (nodup_of_perm h), h.mem_iff, get?_eq_some_iff]

/-- Lists that ascend by their names are equal if they have the same members. -/
theorem eq_of_ascending (name : β → String) {xs ys : List β}
    (hx : xs.Pairwise fun a b ↦ name a < name b) (hy : ys.Pairwise fun a b ↦ name a < name b)
    (h : ∀ a, a ∈ xs ↔ a ∈ ys) : xs = ys := by
  have hnodup {zs : List β} (hz : zs.Pairwise fun a b ↦ name a < name b) : zs.Nodup := by
    refine hz.imp fun hlt heq ↦ ?_
    rw [heq] at hlt
    exact String.lt_irrefl _ hlt
  refine ((List.perm_ext_iff_of_nodup (hnodup hx) (hnodup hy)).2 h).eq_of_pairwise ?_ hx hy
  intro a b _ _ hab hba
  exact absurd (String.lt_trans hab hba) (String.lt_irrefl _)

/-- Maps are equal if all names have the same values in them. -/
theorem ext_get? {m n : NameMap α} (h : ∀ k v, m.get? k = some v ↔ n.get? k = some v) : m = n := by
  refine NameMap.ext (eq_of_ascending Prod.fst m.ascending n.ascending ?_)
  rintro ⟨k, v⟩
  rw [← get?_eq_some_iff, h, get?_eq_some_iff]

theorem mem_keys_iff {m : NameMap α} {k : String} : k ∈ m.keys ↔ ∃ v, m.get? k = some v := by
  simp only [get?_eq_some_iff, keys, List.mem_map]
  constructor
  · rintro ⟨e, he, rfl⟩
    exact ⟨e.2, he⟩
  · rintro ⟨v, hv⟩
    exact ⟨_, hv, rfl⟩

/-! ## Filling a map from a list -/

/-- The last value that a list of entries has for a name. -/
def lastValue? (es : List (String × α)) (k : String) : Option α :=
  (es.filter fun e ↦ e.1 == k).getLast?.map (·.2)

theorem lastValue?_concat (es : List (String × α)) (e : String × α) (k : String) :
    lastValue? (es ++ [e]) k = if k = e.1 then some e.2 else lastValue? es k := by
  simp only [lastValue?, List.filter_append]
  by_cases h : k = e.1
  · simp [h]
  · simp [h, Ne.symm h]

theorem mem_of_lastValue? {es : List (String × α)} {k : String} {v : α}
    (h : lastValue? es k = some v) : (k, v) ∈ es := by
  obtain ⟨⟨k', v'⟩, he, rfl⟩ := Option.map_eq_some_iff.1 h
  obtain ⟨he, hk⟩ := List.mem_filter.1 (List.mem_of_getLast? he)
  rwa [← beq_iff_eq.1 hk]

theorem lastValue?_isSome_iff {es : List (String × α)} {k : String} :
    (∃ v, lastValue? es k = some v) ↔ k ∈ es.map Prod.fst := by
  rw [← Option.isSome_iff_exists]
  simp [lastValue?]

/-- In the map of a list every name has its last value. -/
theorem get?_ofList (es : List (String × α)) (k : String) :
    (ofList es).get? k = lastValue? es k := by
  induction es using List.reverseRecOn with
  | nil => rfl
  | append_singleton es e ih =>
    have hfold : ofList (es ++ [e]) = (ofList es).insert e.1 e.2 := by
      simp [ofList, List.foldl_append]
    rw [hfold, get?_insert, ih, lastValue?_concat]

theorem lastValue?_eq_lookup {es : List (String × α)} (h : (es.map Prod.fst).Nodup) (k : String) :
    lastValue? es k = es.lookup k := by
  have hmem {v : α} (hv : lastValue? es k = some v) : es.lookup k = some v :=
    (lookup_eq_some_iff h).2 (mem_of_lastValue? hv)
  cases hlookup : es.lookup k with
  | some v =>
    have hk : k ∈ es.map Prod.fst := List.mem_map_of_mem ((lookup_eq_some_iff h).1 hlookup)
    obtain ⟨w, hw⟩ := lastValue?_isSome_iff.2 hk
    rw [hw, ← hlookup, hmem hw]
  | none =>
    rw [Option.eq_none_iff_forall_ne_some]
    intro v hv
    rw [hmem hv] at hlookup
    cases hlookup

/-- A map is what it is filled with, in whatever order. -/
theorem ofList_of_perm {m : NameMap α} {es : List (String × α)} (h : es.Perm m.entries) :
    ofList es = m := by
  refine NameMap.ext (eq_of_ascending Prod.fst (ofList es).ascending m.ascending ?_)
  rintro ⟨k, v⟩
  rw [← get?_eq_some_iff, get?_ofList, lastValue?_eq_lookup (nodup_of_perm h),
    lookup_of_perm h, get?_eq_some_iff]

/-! ## Changing all values -/

theorem mem_of_traverseEntries {f : String → α → Except ε β} {es : List (String × α)}
    {ws : List (String × β)} (h : traverseEntries f es = .ok ws) {k : String} {w : β} :
    (k, w) ∈ ws ↔ ∃ v, (k, v) ∈ es ∧ f k v = .ok w := by
  induction es generalizing ws with
  | nil =>
    cases h
    simp
  | cons e es ih =>
    simp only [traverseEntries] at h
    split at h
    · cases h
    next u hu =>
      split at h
      · cases h
      next us hus =>
        cases h
        rw [List.mem_cons, ih hus]
        constructor
        · rintro (h | ⟨v, hv, hw⟩)
          · obtain ⟨rfl, rfl⟩ := Prod.mk.inj h
            exact ⟨e.2, .head _, hu⟩
          · exact ⟨v, .tail _ hv, hw⟩
        · rintro ⟨v, hv, hw⟩
          rcases List.mem_cons.1 hv with rfl | hv
          · rw [hu] at hw
            exact .inl (by rw [Except.ok.inj hw])
          · exact .inr ⟨v, hv, hw⟩

/-- What a change of all values fails with, it fails with at one of them. -/
theorem exists_of_traverseEntries_error {f : String → α → Except ε β} {es : List (String × α)}
    {x : ε} (h : traverseEntries f es = .error x) : ∃ e ∈ es, f e.1 e.2 = .error x := by
  induction es with
  | nil => cases h
  | cons e es ih =>
    simp only [traverseEntries] at h
    split at h
    next hx =>
      cases h
      exact ⟨e, .head _, hx⟩
    next =>
      split at h
      next hxs =>
        cases h
        obtain ⟨d, hd, hx⟩ := ih hxs
        exact ⟨d, .tail _ hd, hx⟩
      · cases h

variable {f : String → α → Except ε β} {m : NameMap α} {l : m.Listing} {n : NameMap β}

/-- A change of all values that comes through has changed each of them, whatever the order. -/
theorem get?_of_traverse (h : m.traverse f l = .ok n) {k : String} {w : β} :
    n.get? k = some w ↔ ∃ v, m.get? k = some v ∧ f k v = .ok w := by
  unfold traverse at h
  split at h
  · cases h
  next ws hws =>
    cases h
    have hnodup : (ws.map Prod.fst).Nodup := by
      rw [map_fst_traverseEntries hws]
      exact nodup_of_perm l.perm
    rw [get?_ofList, lastValue?_eq_lookup hnodup, lookup_eq_some_iff hnodup,
      mem_of_traverseEntries hws]
    simp only [get?_eq_some_iff, l.perm.mem_iff]

/-- What a change of all values fails with, it fails with at one of them. -/
theorem exists_of_traverse_error {x : ε} (h : m.traverse f l = .error x) :
    ∃ k v, m.get? k = some v ∧ f k v = .error x := by
  unfold traverse at h
  split at h
  next hx =>
    cases h
    obtain ⟨e, he, hf⟩ := exists_of_traverseEntries_error hx
    exact ⟨e.1, e.2, get?_eq_some_iff.2 (l.perm.mem_iff.1 he), hf⟩
  · cases h

/-- Whatever value the rule refuses may be come upon first. -/
theorem exists_traverse_error {k : String} {v : α} {x : ε} (hv : m.get? k = some v)
    (hx : f k v = .error x) : ∃ l, m.traverse f l = .error x := by
  obtain ⟨before, after, heq⟩ := List.append_of_mem (get?_eq_some_iff.1 hv)
  have hperm : ((k, v) :: (before ++ after)).Perm m.entries := heq ▸ List.perm_middle.symm
  refine ⟨⟨_, hperm⟩, ?_⟩
  simp only [traverse, traverseEntries, hx]

theorem keys_of_traverse (h : m.traverse f l = .ok n) : n.keys = m.keys := by
  unfold traverse at h
  split at h
  · cases h
  next ws hws =>
    cases h
    refine eq_of_ascending id (keys_ascending _) m.keys_ascending fun k ↦ ?_
    rw [mem_keys_iff]
    simp only [get?_ofList]
    rw [lastValue?_isSome_iff, map_fst_traverseEntries hws]
    exact l.names_perm.mem_iff

/-- In one order a change comes through as in any other, and comes to the same. -/
theorem traverse_eq_ok_of_listing (h : m.traverse f l = .ok n) (l' : m.Listing) :
    m.traverse f l' = .ok n := by
  cases hn : m.traverse f l' with
  | ok n' =>
    have hsame : n' = n := ext_get? fun k w ↦ by rw [get?_of_traverse hn, get?_of_traverse h]
    rw [hsame]
  | error x =>
    obtain ⟨k, v, hv, hx⟩ := exists_of_traverse_error hn
    have hk : k ∈ n.keys := keys_of_traverse h ▸ mem_keys_iff.2 ⟨v, hv⟩
    obtain ⟨w, hw⟩ := mem_keys_iff.1 hk
    obtain ⟨v', hv', hw⟩ := (get?_of_traverse h).1 hw
    rw [hv] at hv'
    cases hv'
    rw [hx] at hw
    cases hw

end RecordGateway.NameMap
