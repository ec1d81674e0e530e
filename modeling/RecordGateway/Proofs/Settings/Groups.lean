import Mathlib.Data.List.Perm.Basic
import RecordGateway.Settings.Basic

/-!
# Settings from groups of arguments

The arguments that give one setting its value form a group, and a group can be spelled in several
ways: with the long or the short flag, and with the value as an argument of its own or in one with
the flag.  Groups for distinct settings are read in any order and in any spelling.  A setting then
has the value of its group, else that of its environment variable, else its default, and neither
the other settings nor the order nor the spelling make a difference to it.
-/

namespace RecordGateway

namespace Flags

/-- A value that can be an argument of its own, as it cannot be taken for a flag. -/
def StandsAlone (v : String) : Prop := v.toList.head? ≠ some '-' ∨ v = "-"

/-- The spellings of a setting with its value. -/
inductive Group (k : Setting) (v : String) : List String → Prop
  | longApart (hv : StandsAlone v) : Group k v ["--" ++ k.long, v]
  | shortApart (hv : StandsAlone v) : Group k v ["-" ++ String.singleton k.short, v]
  | longEquals : Group k v ["--" ++ k.long ++ "=" ++ v]
  | shortEquals : Group k v ["-" ++ String.singleton k.short ++ "=" ++ v]
  | shortJoined (hne : v ≠ "") (hequals : v.toList.head? ≠ some '=') :
      Group k v ["-" ++ String.singleton k.short ++ v]

/-- Arguments that are groups, one behind the other, with two dashes at the end or without. -/
inductive Groups : List (Setting × String) → List String → Prop
  | nil : Groups [] []
  | escape : Groups [] ["--"]
  | cons {k : Setting} {v : String} {group rest : List String} {gs : List (Setting × String)}
      (hgroup : Group k v group) (hrest : Groups gs rest) : Groups ((k, v) :: gs) (group ++ rest)

/-- The values of settings, with one that is new. -/
def withValue (given : Setting → Option String) (k : Setting) (v : String) :
    Setting → Option String :=
  fun j ↦ if j = k then some v else given j

/-! ## What an argument of a group is -/

variable {k : Setting} {v s : String} {cs : List Char}

theorem ofString_long (k : Setting) :
    Argument.ofString ("--" ++ k.long) = .long k.long .none := by
  cases k <;> decide

theorem ofString_longEquals (k : Setting) (v : String) :
    Argument.ofString ("--" ++ k.long ++ "=" ++ v) = .long k.long (some v) := by
  cases k <;> simp [Argument.ofString, Setting.long]

theorem ofString_short (k : Setting) (v : String) :
    Argument.ofString ("-" ++ String.singleton k.short ++ v) = .short k.short v.toList := by
  cases k <;> simp [Argument.ofString, Setting.short]

theorem ofString_of_standsAlone (h : StandsAlone v) : Argument.ofString v = .plain := by
  rcases h with h | rfl
  · rw [Argument.ofString]
    split <;> simp_all
  · decide

theorem ne_escape {a : Argument} (h : Argument.ofString s = a) (ha : a ≠ .escape) : s ≠ "--" := by
  rintro rfl
  exact ha (h.symm.trans (by decide))

/-! ## Reading an argument of a group -/

variable (f : Flags)

theorem read_long (h : Argument.ofString s = .long k.long .none) : f.read s = f.await k := by
  cases k <;> simp [read, h, Setting.long, Setting.ofLong?, Setting.all]

theorem read_longEquals (h : Argument.ofString s = .long k.long (some v)) :
    f.read s = f.attach k v := by
  cases k <;> simp [read, h, Setting.long, Setting.ofLong?, Setting.all]

theorem read_short (h : Argument.ofString s = .short k.short []) : f.read s = f.await k := by
  cases k <;> simp [read, h, Setting.short, Setting.ofShort?, Setting.all]

theorem read_shortEquals (h : Argument.ofString s = .short k.short ('=' :: cs)) :
    f.read s = f.attach k (String.ofList cs) := by
  cases k <;> simp [read, h, Setting.short, Setting.ofShort?, Setting.all]

theorem read_shortJoined (h : Argument.ofString s = .short k.short cs) (hne : cs ≠ [])
    (hequals : cs.head? ≠ some '=') : f.read s = f.attach k (String.ofList cs) := by
  obtain ⟨c, cs, rfl⟩ := List.exists_cons_of_ne_nil hne
  have hc : c ≠ '=' := fun h ↦ hequals (by rw [h]; rfl)
  cases k <;> simp [read, h, Setting.short, Setting.ofShort?, Setting.all, hc]

/-- A group is a flag that awaits its value and the value, or one argument with both. -/
theorem Group.cases {group : List String} (h : Group k v group) :
    (∃ flag, group = [flag, v] ∧ StandsAlone v ∧ flag ≠ "--" ∧
      ∀ f : Flags, f.read flag = f.await k) ∨
    ∃ s, group = [s] ∧ s ≠ "--" ∧ ∀ f : Flags, f.read s = f.attach k v := by
  cases h with
  | longApart hv =>
    have harg := ofString_long k
    exact .inl ⟨_, rfl, hv, ne_escape harg nofun, fun f ↦ f.read_long harg⟩
  | shortApart hv =>
    have harg := ofString_short k ""
    rw [String.append_empty] at harg
    exact .inl ⟨_, rfl, hv, ne_escape harg nofun, fun f ↦ f.read_short harg⟩
  | longEquals =>
    have harg := ofString_longEquals k v
    exact .inr ⟨_, rfl, ne_escape harg nofun, fun f ↦ f.read_longEquals harg⟩
  | shortEquals =>
    have harg : Argument.ofString ("-" ++ String.singleton k.short ++ "=" ++ v)
        = .short k.short ('=' :: v.toList) := by
      rw [String.append_assoc, ofString_short, String.toList_append]
      rfl
    refine .inr ⟨_, rfl, ne_escape harg nofun, fun f ↦ ?_⟩
    rw [f.read_shortEquals harg, String.ofList_toList]
  | shortJoined hne hequals =>
    have harg := ofString_short k v
    refine .inr ⟨_, rfl, ne_escape harg nofun, fun f ↦ ?_⟩
    rw [f.read_shortJoined harg (by simpa using hne) hequals, String.ofList_toList]

/-! ## Reading groups -/

variable {f : Flags} {given : Setting → Option String} {gs : List (Setting × String)}
  {group args rest : List String}

theorem assign_of_free (hfree : given k = .none) :
    assign ⟨given, .none⟩ k v = .ok ⟨withValue given k v, .none⟩ := by
  have hnone : ¬(given k).isSome = true := by simp [hfree]
  exact if_neg hnone

theorem readAll_cons_of_read {f' : Flags} (hs : s ≠ "--") (h : f.read s = .ok f')
    (ss : List String) : f.readAll (s :: ss) = f'.readAll ss := by
  rw [readAll, if_neg hs, h]

/-- A group gives its setting the value and leaves the others, whether the last flag before it was
settled before or is settled now. -/
theorem readAll_group (h : Group k v group) (hf : f.settle = .ok ⟨given, .none⟩)
    (hfree : given k = .none) :
    ∃ f' : Flags, (∀ rest, f.readAll (group ++ rest) = f'.readAll rest) ∧
      f'.settle = .ok ⟨withValue given k v, .none⟩ := by
  rcases h.cases with ⟨flag, rfl, hv, hflag, hread⟩ | ⟨s, rfl, hs, hread⟩
  · refine ⟨⟨given, some (k, some v)⟩, fun rest ↦ ?_, assign_of_free hfree⟩
    have hawait : f.read flag = .ok ⟨given, some (k, .none)⟩ := by
      rw [hread, await, hf]
    have hvalue : read ⟨given, some (k, .none)⟩ v = .ok ⟨given, some (k, some v)⟩ := by
      rw [read, ofString_of_standsAlone hv]
    have hplain := ne_escape (ofString_of_standsAlone hv) nofun
    rw [List.cons_append, readAll_cons_of_read hflag hawait, List.cons_append,
      readAll_cons_of_read hplain hvalue, List.nil_append]
  · have hattach : f.read s = .ok ⟨withValue given k v, .none⟩ := by
      rw [hread, attach, hf]
      exact assign_of_free hfree
    exact ⟨_, readAll_cons_of_read hs hattach, rfl⟩

/-- Groups for distinct settings give each of them its value and leave the others. -/
theorem readAll_groups (h : Groups gs args) (hnodup : (gs.map Prod.fst).Nodup)
    (hf : f.settle = .ok ⟨given, .none⟩) (hfree : ∀ k ∈ gs.map Prod.fst, given k = .none) :
    ∃ given', f.readAll args = .ok ⟨given', .none⟩ ∧ (∀ k v, (k, v) ∈ gs → given' k = some v) ∧
      ∀ k ∉ gs.map Prod.fst, given' k = given k := by
  induction h generalizing f given with
  | nil => exact ⟨given, hf, by simp, fun _ _ ↦ rfl⟩
  | escape =>
    have hread : f.readAll ["--"] = f.settle := by simp [readAll]
    exact ⟨given, hread.trans hf, by simp, fun _ _ ↦ rfl⟩
  | @cons k v group rest gs hgroup hrest ih =>
    rw [List.map_cons] at hnodup hfree ⊢
    obtain ⟨hk, hnodup⟩ := List.nodup_cons.1 hnodup
    obtain ⟨hfree, hfrees⟩ := List.forall_mem_cons.1 hfree
    obtain ⟨f', hread, hf'⟩ := readAll_group hgroup hf hfree
    have hrests : ∀ j ∈ gs.map Prod.fst, withValue given k v j = .none := by
      intro j hj
      rw [withValue, if_neg (ne_of_mem_of_not_mem hj hk), hfrees j hj]
    obtain ⟨given', hreads, hmem, hnmem⟩ := ih hnodup hf' hrests
    refine ⟨given', (hread rest).trans hreads, fun j w hj ↦ ?_, fun j hj ↦ ?_⟩
    · rcases List.mem_cons.1 hj with hj | hj
      · cases hj
        rw [hnmem k hk, withValue, if_pos rfl]
      · exact hmem j w hj
    · obtain ⟨hne, hj⟩ := not_or.1 (mt List.mem_cons.2 hj)
      rw [hnmem j hj, withValue, if_neg hne]

end Flags

namespace Settings

open Flags (Group Groups)

variable {gs gs' : List (Setting × String)} {args args' : List String} {env env' : Environment}
  {s t : Settings}

/-- The value of a setting. -/
def get (s : Settings) : Setting → String
  | .driver => s.driver
  | .source => s.source
  | .user => s.user
  | .password => s.password
  | .listen => s.listen

/-- Settings are determined by the values of all of them. -/
theorem ext_get (h : ∀ k, s.get k = t.get k) : s = t := by
  cases s
  cases t
  rw [Settings.mk.injEq]
  exact ⟨h .driver, h .source, h .user, h .password, h .listen⟩

/-- Every setting has its value from the flags that were read, and from the environment. -/
theorem exists_of_readAll {given : Setting → Option String}
    (h : Flags.none.readAll args = .ok ⟨given, none⟩) (env : Environment) :
    ∃ s, ofArguments args env = .ok s ∧ ∀ k, s.get k = Setting.value given env k := by
  rw [ofArguments, h]
  refine ⟨_, rfl, fun k ↦ ?_⟩
  cases k <;> rfl

/-- Each setting has the value of its group, else that of its environment variable, else its
default. -/
structure Follows (gs : List (Setting × String)) (env : Environment) (s : Settings) : Prop where
  of_group : ∀ k v, (k, v) ∈ gs → s.get k = v
  of_variable : ∀ k v, k ∉ gs.map Prod.fst → env.lookup k.variableName = some v → s.get k = v
  of_default : ∀ k, k ∉ gs.map Prod.fst → env.lookup k.variableName = none →
    s.get k = k.defaultValue

/-- A setting depends on its own group and its own variable only. -/
theorem Follows.get_eq (hs : Follows gs env s) (ht : Follows gs' env' t) {k : Setting}
    (hgroup : ∀ v, (k, v) ∈ gs ↔ (k, v) ∈ gs')
    (henv : env.lookup k.variableName = env'.lookup k.variableName) : s.get k = t.get k := by
  by_cases hk : k ∈ gs.map Prod.fst
  · obtain ⟨⟨k, v⟩, hmem, rfl⟩ := List.mem_map.1 hk
    rw [hs.of_group k v hmem, ht.of_group k v ((hgroup v).1 hmem)]
  · have hk' : k ∉ gs'.map Prod.fst := by
      intro hk'
      obtain ⟨⟨k, v⟩, hmem, rfl⟩ := List.mem_map.1 hk'
      exact hk (List.mem_map_of_mem ((hgroup v).2 hmem))
    cases hlookup : env.lookup k.variableName with
    | none => rw [hs.of_default k hk hlookup, ht.of_default k hk' (henv ▸ hlookup)]
    | some v => rw [hs.of_variable k v hk hlookup, ht.of_variable k v hk' (henv ▸ hlookup)]

/-- Arguments that are groups for distinct settings give settings that follow the groups. -/
theorem exists_follows (h : Groups gs args) (hnodup : (gs.map Prod.fst).Nodup)
    (env : Environment) : ∃ s, ofArguments args env = .ok s ∧ Follows gs env s := by
  obtain ⟨given, hread, hmem, hnmem⟩ :=
    Flags.readAll_groups h hnodup (f := Flags.none) rfl fun _ _ ↦ rfl
  obtain ⟨s, hs, hget⟩ := exists_of_readAll hread env
  refine ⟨s, hs, fun k v hv ↦ ?_, fun k v hk hv ↦ ?_, fun k hk hv ↦ ?_⟩
  · rw [hget, Setting.value, hmem k v hv]
  · rw [hget, Setting.value, hnmem k hk, hv]
    rfl
  · rw [hget, Setting.value, hnmem k hk, hv]
    rfl

/-- **The order and the spelling of flags make no difference.**  Arguments that are groups for
distinct settings, each in any spelling, in any order, and with two dashes at the end or without,
give settings: each of these is the value of its group, else that of its environment variable, else
its default, and the listener is told address, user and password as they are.  The same groups in
another order or in other spellings give the same settings, and a setting stays as it is whatever
becomes of the groups and the variables of the others. -/
theorem follows_groups (h : Groups gs args) (hnodup : (gs.map Prod.fst).Nodup)
    (env : Environment) :
    ∃ s, ofArguments args env = .ok s ∧ Follows gs env s ∧
      s.http = ⟨s.get .listen, s.get .user, s.get .password⟩ ∧
      (∀ gs' args', gs'.Perm gs → Groups gs' args' → ofArguments args' env = .ok s) ∧
      ∀ gs' args' env' t, Groups gs' args' → (gs'.map Prod.fst).Nodup →
        ofArguments args' env' = .ok t → ∀ k, (∀ v, (k, v) ∈ gs ↔ (k, v) ∈ gs') →
          env.lookup k.variableName = env'.lookup k.variableName → s.get k = t.get k := by
  obtain ⟨s, hs, hfollows⟩ := exists_follows h hnodup env
  refine ⟨s, hs, hfollows, rfl, fun gs' args' hperm h' ↦ ?_, ?_⟩
  · have hnodup' := (hperm.map Prod.fst).nodup_iff.2 hnodup
    obtain ⟨t, ht, hfollows'⟩ := exists_follows h' hnodup' env
    rw [ht, ext_get fun k ↦ hfollows'.get_eq hfollows (fun _ ↦ hperm.mem_iff) rfl]
  · intro gs' args' env' t h' hnodup' ht k hgroup henv
    obtain ⟨t', ht', hfollows'⟩ := exists_follows h' hnodup' env'
    obtain rfl : t' = t := Except.ok.inj (ht'.symm.trans ht)
    exact hfollows.get_eq hfollows' hgroup henv

/-- Values that look like flags, and one that is empty. -/
theorem follows_groups_respelled :
    Groups [(.password, "=-p"), (.listen, "-"), (.driver, "")]
        ["-p==-p", "-P", "-", "--driver=", "--"] ∧
      ([.password, .listen, .driver] : List Setting).Nodup ∧
      Groups [(.driver, ""), (.password, "=-p"), (.listen, "-")]
        ["-d", "", "--password==-p", "-P-"] ∧
      ofArguments ["-p==-p", "-P", "-", "--driver=", "--"]
          [("HOMEHUB_DRIVER", "postgres"), ("HOMEHUB_HTTP_USER", "")]
        = .ok ⟨"", "sqlite://brainiac.db?mode=rwc", "", "=-p", "-"⟩ ∧
      ofArguments ["-d", "", "--password==-p", "-P-"]
          [("HOMEHUB_DRIVER", "postgres"), ("HOMEHUB_HTTP_USER", "")]
        = .ok ⟨"", "sqlite://brainiac.db?mode=rwc", "", "=-p", "-"⟩ := by
  have h : Groups [(.password, "=-p"), (.listen, "-"), (.driver, "")]
      ["-p==-p", "-P", "-", "--driver=", "--"] :=
    .cons .shortEquals (.cons (.shortApart (.inr rfl)) (.cons .longEquals .escape))
  have h' : Groups [(.driver, ""), (.password, "=-p"), (.listen, "-")]
      ["-d", "", "--password==-p", "-P-"] :=
    .cons (.shortApart (.inl (by decide)))
      (.cons .longEquals (.cons (.shortJoined (by decide) (by decide)) .nil))
  obtain ⟨s, hs, hfollows, -, hother, -⟩ := follows_groups h (by decide)
    [("HOMEHUB_DRIVER", "postgres"), ("HOMEHUB_HTTP_USER", "")]
  obtain rfl : s = ⟨"", "sqlite://brainiac.db?mode=rwc", "", "=-p", "-"⟩ := by
    apply ext_get
    intro k
    cases k with
    | driver => exact hfollows.of_group _ _ (by decide)
    | source => exact hfollows.of_default _ (by decide) rfl
    | user => exact hfollows.of_variable _ _ (by decide) rfl
    | password => exact hfollows.of_group _ _ (by decide)
    | listen => exact hfollows.of_group _ _ (by decide)
  exact ⟨h, by decide, h', hs, hother _ _ (by decide) h'⟩

end Settings

end RecordGateway
