import RecordGateway.Proofs.Settings.Groups

/-!
# Arguments that are accepted

Arguments give settings only if they are groups for distinct settings.  An argument that is read
where all flags have their values is a group by itself, or it is a flag, and then the next one has
to be a value that stands alone.  Whether a flag that has its value is settled at once or later
makes no difference to what is accepted.
-/

namespace RecordGateway

namespace Flags

variable {k : Setting} {v s : String} {cs : List Char} {f f' g : Flags}
  {given : Setting → Option String} {args rest : List String}

/-! ## Arguments by their forms -/

theorem eq_of_ofString_long {name : String} {value : Option String}
    (h : Argument.ofString s = .long name value) :
    s = "--" ++ name ++ (value.elim "" ("=" ++ ·)) := by
  unfold Argument.ofString at h
  split at h
  next => cases h
  next cs hne hs =>
    obtain ⟨rfl, rfl⟩ := Argument.long.inj h
    have hparts : cs.takeWhile (· != '=') ++ cs.dropWhile (· != '=') = cs :=
      List.takeWhile_append_dropWhile
    rw [← String.toList_inj, hs]
    cases hrest : cs.dropWhile (· != '=') with
    | nil =>
      rw [hrest, List.append_nil] at hparts
      simp [hparts]
    | cons c v =>
      have hhead := List.head?_dropWhile_not (· != '=') cs
      rw [hrest] at hhead hparts
      obtain rfl : c = '=' := by simpa using hhead
      simp [hparts]
  next => cases h
  next => cases h

theorem eq_of_ofString_short {c : Char} (h : Argument.ofString s = .short c cs) :
    s = "-" ++ String.singleton c ++ String.ofList cs := by
  unfold Argument.ofString at h
  split at h
  next => cases h
  next => cases h
  next d ds _ hs =>
    obtain ⟨rfl, rfl⟩ := Argument.short.inj h
    rw [← String.toList_inj, hs]
    simp
  next => cases h

theorem eq_of_ofString_escape (h : Argument.ofString s = .escape) : s = "--" := by
  unfold Argument.ofString at h
  split at h
  next hs =>
    rw [← String.toList_inj, hs]
    rfl
  all_goals cases h

theorem standsAlone_of_ofString (h : Argument.ofString s = .plain) : StandsAlone s := by
  unfold Argument.ofString at h
  split at h
  next => cases h
  next => cases h
  next => cases h
  next _ _ hs =>
    match hcs : s.toList with
    | [] => exact .inl (by simp [hcs])
    | [c] =>
      by_cases hc : c = '-'
      · exact .inr (by rw [← String.toList_inj, hcs, hc]; rfl)
      · exact .inl (by simpa [hcs] using hc)
    | c :: d :: cs =>
      refine .inl fun h ↦ hs d cs ?_
      rw [hcs] at h ⊢
      rw [Option.some.inj h]

theorem eq_long_of_ofLong? {name : String} (h : Setting.ofLong? name = some k) : name = k.long := by
  have hlong := List.find?_some h
  exact (beq_iff_eq.1 hlong).symm

theorem eq_short_of_ofShort? {c : Char} (h : Setting.ofShort? c = some k) : c = k.short := by
  have hshort := List.find?_some h
  exact (beq_iff_eq.1 hshort).symm

/-! ## Settling later -/

theorem pending_of_settle (h : f.settle = .ok g) : g.pending = .none := by
  unfold settle at h
  split at h
  next hpending => rwa [← Except.ok.inj h]
  next => cases h
  next k v _ =>
    unfold assign at h
    split at h
    · cases h
    · rw [← Except.ok.inj h]

theorem settle_settle (h : f.settle = .ok g) : g.settle = .ok g := by
  rw [settle, pending_of_settle h]

/-- What is read behind a flag that has its value, is read once this is settled. -/
theorem exists_settle_of_read (h : f.read s = .ok f')
    (hv : ∀ k, f.pending ≠ some (k, .none)) : ∃ g, f.settle = .ok g ∧ g.read s = .ok f' := by
  cases hsettle : f.settle with
  | error e =>
    simp only [read, help, attach, await, hsettle] at h
    split at h
    · split at h <;> cases h
    · split at h <;> cases h
    · cases h
    · split at h <;> cases h
    · cases h
    · cases h
  | ok g =>
    refine ⟨g, rfl, ?_⟩
    have hg := settle_settle hsettle
    simp only [read, help, attach, await, hsettle, hg] at h ⊢
    split at h <;> simp_all

theorem of_assign (h : assign ⟨given, .none⟩ k v = .ok f) :
    given k = .none ∧ f = ⟨withValue given k v, .none⟩ := by
  unfold assign at h
  split at h
  · cases h
  next hnone => exact ⟨by simpa using hnone, (Except.ok.inj h).symm⟩

/-- What is read where no flag awaits its value: a flag that awaits its value, or a group. -/
theorem of_read (h : read ⟨given, .none⟩ s = .ok f) :
    (∃ k, (s = "--" ++ k.long ∨ s = "-" ++ String.singleton k.short) ∧
      f = ⟨given, some (k, .none)⟩) ∨
    ∃ k v, Group k v [s] ∧ given k = .none ∧ f = ⟨withValue given k v, .none⟩ := by
  simp only [read, help, attach, await, settle] at h
  split at h
  · split at h <;> cases h
  next name value _ harg =>
    have hs := eq_of_ofString_long harg
    split at h
    · cases h
    next k v hk =>
      obtain rfl := eq_long_of_ofLong? hk
      refine .inr ⟨k, v, ?_, of_assign h⟩
      rw [hs, Option.elim_some, ← String.append_assoc]
      exact .longEquals
    next k hk =>
      obtain rfl := eq_long_of_ofLong? hk
      refine .inl ⟨k, .inl ?_, (Except.ok.inj h).symm⟩
      rw [hs, Option.elim_none, String.append_empty]
  · cases h
  next c cs _ harg =>
    have hs := eq_of_ofString_short harg
    split at h
    · cases h
    next k hk =>
      obtain rfl := eq_short_of_ofShort? hk
      refine .inl ⟨k, .inr ?_, (Except.ok.inj h).symm⟩
      rw [hs, String.ofList_nil, String.append_empty]
    next k v hk =>
      obtain rfl := eq_short_of_ofShort? hk
      refine .inr ⟨k, String.ofList v, ?_, of_assign h⟩
      have hequals : String.ofList ('=' :: v) = "=" ++ String.ofList v := by
        rw [← String.toList_inj]
        simp
      rw [hs, hequals, ← String.append_assoc]
      exact .shortEquals
    next cs _ _ k hk hne hequals =>
      obtain rfl := eq_short_of_ofShort? hk
      refine .inr ⟨k, String.ofList cs, ?_, of_assign h⟩
      rw [hs]
      refine .shortJoined (fun hv ↦ hne ?_) (fun hv ↦ ?_)
      · simpa using congrArg String.toList hv
      · rw [String.toList_ofList] at hv
        obtain ⟨v, hv⟩ := List.head?_eq_some_iff.1 hv
        exact hequals v hv
  · cases h
  · cases h

/-- What is read behind a flag that awaits its value: a value that stands alone. -/
theorem of_read_awaiting (h : read ⟨given, some (k, .none)⟩ s = .ok f) (hs : s ≠ "--") :
    StandsAlone s ∧ f = ⟨given, some (k, some s)⟩ := by
  simp only [read, help, attach, await, settle] at h
  split at h
  · split at h <;> cases h
  · split at h <;> cases h
  · cases h
  · split at h <;> cases h
  next harg => exact absurd (eq_of_ofString_escape harg) hs
  next harg => exact ⟨standsAlone_of_ofString harg, (Except.ok.inj h).symm⟩

theorem readAll_cons_eq_ok {ss : List String} (h : f.readAll (s :: ss) = .ok f') :
    (s = "--" ∧ ss = [] ∧ f.settle = .ok f') ∨
      s ≠ "--" ∧ ∃ g, f.read s = .ok g ∧ g.readAll ss = .ok f' := by
  rw [readAll] at h
  split at h
  next hs =>
    split at h
    next hss => exact .inl ⟨hs, List.isEmpty_iff.1 hss, h⟩
    next => cases h
  next hs =>
    split at h
    next => cases h
    next g hread => exact .inr ⟨hs, g, hread, h⟩

/-- Arguments behind a flag that has its value are accepted as they are once this is settled. -/
theorem of_readAll_pending (h : readAll ⟨given, some (k, some v)⟩ args = .ok f) :
    given k = .none ∧ readAll ⟨withValue given k v, .none⟩ args = .ok f := by
  suffices ∃ g, settle ⟨given, some (k, some v)⟩ = .ok g ∧ g.readAll args = .ok f by
    obtain ⟨g, hsettle, hg⟩ := this
    obtain ⟨hfree, rfl⟩ := of_assign hsettle
    exact ⟨hfree, hg⟩
  cases args with
  | nil => exact ⟨f, h, settle_settle h⟩
  | cons s ss =>
    rcases readAll_cons_eq_ok h with ⟨rfl, rfl, hsettle⟩ | ⟨hs, g, hread, h⟩
    · exact ⟨f, hsettle, settle_settle hsettle⟩
    · obtain ⟨g', hg', hread'⟩ := exists_settle_of_read hread (by simp)
      exact ⟨g', hg', (readAll_cons_of_read hs hread' ss).trans h⟩

/-! ## Arguments that are accepted -/

/-- Arguments that are groups for distinct settings that have no value yet. -/
def Fits (given : Setting → Option String) (args : List String) : Prop :=
  ∃ gs, Groups gs args ∧ (gs.map Prod.fst).Nodup ∧ ∀ k ∈ gs.map Prod.fst, given k = .none

theorem Fits.cons {group : List String} (hgroup : Group k v group) (hfree : given k = .none)
    (h : Fits (withValue given k v) rest) : Fits given (group ++ rest) := by
  obtain ⟨gs, hgs, hnodup, hfrees⟩ := h
  have hk : k ∉ gs.map Prod.fst := by
    intro hk
    have hvalue := hfrees k hk
    rw [withValue, if_pos rfl] at hvalue
    cases hvalue
  refine ⟨(k, v) :: gs, .cons hgroup hgs, List.nodup_cons.2 ⟨hk, hnodup⟩, ?_⟩
  rw [List.map_cons, List.forall_mem_cons]
  refine ⟨hfree, fun j hj ↦ ?_⟩
  rw [← hfrees j hj, withValue, if_neg (ne_of_mem_of_not_mem hj hk)]

/-- Arguments that are accepted are groups for distinct settings that have no value yet.  Behind a
flag that awaits its value, a value that stands alone comes first. -/
theorem fits_of_readAll (args : List String) :
    (∀ given f, readAll ⟨given, .none⟩ args = .ok f → Fits given args) ∧
    ∀ given k f, readAll ⟨given, some (k, .none)⟩ args = .ok f →
      ∃ v rest, args = v :: rest ∧ StandsAlone v ∧ given k = .none ∧
        Fits (withValue given k v) rest := by
  induction args with
  | nil =>
    refine ⟨fun _ _ _ ↦ ⟨[], .nil, List.nodup_nil, List.forall_mem_nil _⟩, fun given k f h ↦ ?_⟩
    cases h
  | cons s ss ih =>
    obtain ⟨ih, ihawaiting⟩ := ih
    refine ⟨fun given f h ↦ ?_, fun given k f h ↦ ?_⟩
    · rcases readAll_cons_eq_ok h with ⟨rfl, rfl, -⟩ | ⟨hs, g, hread, h⟩
      · exact ⟨[], .escape, List.nodup_nil, List.forall_mem_nil _⟩
      rcases of_read hread with ⟨k, hflag, rfl⟩ | ⟨k, v, hgroup, hfree, rfl⟩
      · obtain ⟨v, rest, rfl, hv, hfree, hfits⟩ := ihawaiting given k f h
        rcases hflag with rfl | rfl
        · exact hfits.cons (.longApart hv) hfree
        · exact hfits.cons (.shortApart hv) hfree
      · exact (ih _ f h).cons hgroup hfree
    · rcases readAll_cons_eq_ok h with ⟨-, -, h⟩ | ⟨hs, g, hread, h⟩
      · cases h
      obtain ⟨hv, rfl⟩ := of_read_awaiting hread hs
      obtain ⟨hfree, h⟩ := of_readAll_pending h
      exact ⟨s, ss, rfl, hv, hfree, ih _ f h⟩

end Flags

/-- Arguments are accepted exactly if they are groups for distinct settings, with two dashes at the
end or without. -/
theorem Settings.exists_ofArguments_iff {args : List String} {env : Environment} :
    (∃ s, ofArguments args env = .ok s) ↔
      ∃ gs, Flags.Groups gs args ∧ (gs.map Prod.fst).Nodup := by
  constructor
  · rintro ⟨s, h⟩
    rw [ofArguments] at h
    split at h
    next => cases h
    next f hread =>
      obtain ⟨gs, hgs, hnodup, -⟩ := (Flags.fits_of_readAll args).1 _ f hread
      exact ⟨gs, hgs, hnodup⟩
  · rintro ⟨gs, hgs, hnodup⟩
    obtain ⟨s, hs, -⟩ := exists_follows hgs hnodup env
    exact ⟨s, hs⟩

end RecordGateway
