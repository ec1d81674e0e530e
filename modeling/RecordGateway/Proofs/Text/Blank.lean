import Mathlib.Data.List.TakeWhile
import RecordGateway.Text.Basic

/-!
# What trimming leaves

A text is what trimming leaves of it, between blanks; and a text that neither begins nor ends with
a blank is left as it is when blanks are put around it.
-/

namespace RecordGateway.Text

/-- A text of blanks only. -/
def AreBlank (cs : List Char) : Prop := ∀ c ∈ cs, isBlank c = true

/-- A text that neither begins nor ends with a blank. -/
def IsTight (cs : List Char) : Prop :=
  (∀ c ∈ cs.head?, isBlank c = false) ∧ ∀ c ∈ cs.getLast?, isBlank c = false

theorem AreBlank.append {cs ds : List Char} (hcs : AreBlank cs) (hds : AreBlank ds) :
    AreBlank (cs ++ ds) := fun c hc ↦ (List.mem_append.1 hc).elim (hcs c) (hds c)

/-- A text without blanks is tight. -/
theorem isTight_of_forall {cs : List Char} (h : ∀ c ∈ cs, isBlank c = false) : IsTight cs :=
  ⟨fun c hc ↦ h c (List.mem_of_mem_head? hc), fun c hc ↦ h c (List.mem_of_mem_getLast? hc)⟩

theorem isBlank_of_isDigit {c : Char} (h : c.isDigit = true) : isBlank c = false := by
  obtain ⟨hlow, hhigh⟩ := Char.isDigit_iff_toNat.1 h
  have hzero : '0'.toNat = 48 := rfl
  have hnine : '9'.toNat = 57 := rfl
  rw [Bool.eq_false_iff]
  simp only [isBlank, Ne, Bool.or_eq_true, Bool.and_eq_true, decide_eq_true_eq, beq_iff_eq]
  omega

/-- What stands between two texts without blanks at their ends does not matter. -/
theorem IsTight.append {cs ds : List Char} (hcs : IsTight cs) (hne : cs ≠ []) (hds : IsTight ds)
    (hne' : ds ≠ []) (mid : List Char) : IsTight (cs ++ (mid ++ ds)) := by
  obtain ⟨c, cs, rfl⟩ := List.exists_cons_of_ne_nil hne
  refine ⟨hcs.1, fun d hd ↦ hds.2 d ?_⟩
  rw [List.getLast?_append, List.getLast?_append, List.getLast?_eq_some_getLast hne'] at hd
  rw [List.getLast?_eq_some_getLast hne']
  exact hd

theorem AreBlank.dropWhile_append {cs : List Char} (h : AreBlank cs) (ds : List Char) :
    (cs ++ ds).dropWhile isBlank = ds.dropWhile isBlank :=
  List.dropWhile_append_of_pos h

theorem trimEnd_append {cs : List Char} (h : AreBlank cs) (ds : List Char) :
    trimEnd (ds ++ cs) = trimEnd ds := by
  have hrev : AreBlank cs.reverse := fun c hc ↦ h c (List.mem_reverse.1 hc)
  rw [trimEnd, List.reverse_append, hrev.dropWhile_append, trimEnd]

theorem dropWhile_of_head? {cs : List Char} (h : ∀ c ∈ cs.head?, isBlank c = false) :
    cs.dropWhile isBlank = cs := by
  cases cs with
  | nil => rfl
  | cons c cs => rw [List.dropWhile_cons_of_neg (by simp [h c rfl])]

theorem IsTight.trim_eq {cs : List Char} (h : IsTight cs) : trim cs = cs := by
  have hlast : ∀ c ∈ cs.reverse.head?, isBlank c = false := by
    simpa [List.head?_reverse] using h.2
  rw [trim, dropWhile_of_head? h.1, trimEnd, dropWhile_of_head? hlast, List.reverse_reverse]

theorem dropWhile_eq_trim_append (cs : List Char) :
    cs.dropWhile isBlank
      = trim cs ++ ((cs.dropWhile isBlank).reverse.takeWhile isBlank).reverse := by
  rw [trim, trimEnd, ← List.reverse_append, List.takeWhile_append_dropWhile, List.reverse_reverse]

/-- A text is what trimming leaves of it, between blanks. -/
theorem exists_trim (cs : List Char) :
    ∃ lead trail, AreBlank lead ∧ AreBlank trail ∧ cs = lead ++ trim cs ++ trail := by
  refine ⟨cs.takeWhile isBlank, ((cs.dropWhile isBlank).reverse.takeWhile isBlank).reverse,
    fun c hc ↦ List.mem_takeWhile_imp hc,
    fun c hc ↦ List.mem_takeWhile_imp (List.mem_reverse.1 hc), ?_⟩
  rw [List.append_assoc, ← dropWhile_eq_trim_append, List.takeWhile_append_dropWhile]

theorem head?_dropWhile_isBlank (cs : List Char) :
    ∀ c ∈ (cs.dropWhile isBlank).head?, isBlank c = false := by
  intro c hc
  have hnot := List.head?_dropWhile_not isBlank cs
  rw [Option.mem_def.1 hc] at hnot
  exact hnot

/-- What trimming leaves neither begins nor ends with a blank. -/
theorem isTight_trim (cs : List Char) : IsTight (trim cs) := by
  constructor
  · intro c hc
    -- what is left begins as the text without the blanks in front
    refine head?_dropWhile_isBlank cs c ?_
    rw [dropWhile_eq_trim_append, List.head?_append]
    exact Option.mem_def.2 (by rw [Option.mem_def.1 hc, Option.some_or])
  · intro c hc
    rw [trim, trimEnd, List.getLast?_reverse] at hc
    exact head?_dropWhile_isBlank _ c hc

/-- A text that does not begin with a blank begins as before when it is trimmed. -/
theorem head?_trim {c : Char} (hc : isBlank c = false) (cs : List Char) :
    (trim (c :: cs)).head? = some c := by
  obtain ⟨lead, trail, hlead, htrail, heq⟩ := exists_trim (c :: cs)
  have hnot {ds : List Char} (hds : AreBlank ds) (hmem : c ∈ ds) : False := by
    rw [hds c hmem] at hc
    cases hc
  cases lead with
  | cons d lead =>
    obtain ⟨rfl, -⟩ := List.cons.inj heq
    exact (hnot hlead (.head _)).elim
  | nil =>
    rw [List.nil_append] at heq
    cases htrim : trim (c :: cs) with
    | nil =>
      rw [htrim, List.nil_append] at heq
      exact (hnot htrail (heq ▸ .head _)).elim
    | cons d ds =>
      rw [htrim] at heq
      rw [(List.cons.inj heq).1]
      rfl

/-- Trimming leaves what stands between the blanks. -/
theorem trim_append {lead word trail : List Char} (hlead : AreBlank lead) (hword : IsTight word)
    (htrail : AreBlank trail) : trim (lead ++ word ++ trail) = word := by
  rw [trim, List.append_assoc, hlead.dropWhile_append]
  cases word with
  | nil =>
    have hnil := htrail.dropWhile_append []
    rw [List.append_nil, List.dropWhile_nil] at hnil
    rw [List.nil_append, hnil]
    rfl
  | cons c cs =>
    have hhead : ∀ d ∈ (c :: cs ++ trail).head?, isBlank d = false := hword.1
    rw [dropWhile_of_head? hhead, trimEnd_append htrail]
    have htrim := hword.trim_eq
    rwa [trim, dropWhile_of_head? hword.1] at htrim

end RecordGateway.Text
