import RecordGateway.Sql.Rebind

/-!
# Scanning a statement piece by piece

What the scan of a statement makes of a text is put together from what it makes of its pieces: a
piece without quotes and colons is copied, so is a quoted piece as a whole, and a colon with a
name behind it becomes a mark or `NULL`.
-/

namespace RecordGateway.Rebind

@[simp] theorem before_nil (x : Except SqlError (List Char × List Value)) :
    before [] [] x = x := by
  rcases x with e | ⟨t, vs⟩ <;> rfl

@[simp] theorem before_before (t t' : List Char) (vs vs' : List Value)
    (x : Except SqlError (List Char × List Value)) :
    before t vs (before t' vs' x) = before (t ++ t') (vs ++ vs') x := by
  rcases x with e | ⟨u, ws⟩
  · rfl
  · simp [before]

@[simp] theorem before_ok (t u : List Char) (vs ws : List Value) :
    before t vs (.ok (u, ws)) = .ok (t ++ u, vs ++ ws) := rfl

/-- Where items are numbered by their rank among those that count, behind `k` others, the first one
is numbered and the rest are numbered behind it. -/
theorem mapIdx_rank_cons {α β : Type} (p : α → Bool) (f : α → Nat → β) (k : Nat) (a : α)
    (as : List α) :
    (a :: as).mapIdx (fun i b ↦ f b (k + ((a :: as).take (i + 1)).countP p))
      = f a (k + [a].countP p)
        :: as.mapIdx fun i b ↦ f b (k + [a].countP p + (as.take (i + 1)).countP p) := by
  simp only [List.mapIdx_cons, List.take_succ_cons, List.countP_cons, List.take_zero,
    List.countP_nil, Nat.add_assoc, Nat.add_comm (List.countP _ _)]
  simp

theorem bne_of_not_mem {q : Char} {text : List Char} (h : q ∉ text) :
    ∀ c ∈ text, (c != q) = true := by
  intro c hc
  rw [bne_iff_ne]
  rintro rfl
  exact h hc

/-- A character that opens a quoted region, and closes one that it has opened. -/
def IsQuote (c : Char) : Prop := c = '"' ∨ c = '\''

/-- A character that means nothing to a scan. -/
def IsPlain (c : Char) : Prop := c ≠ '"' ∧ c ≠ '\'' ∧ c ≠ ':'

theorem isPlain_of_isAlphanum {c : Char} (h : c.isAlphanum = true) : IsPlain c := by
  refine ⟨?_, ?_, ?_⟩ <;> rintro rfl <;> revert h <;> decide

/-- A number is printed in digits. -/
theorem isAlphanum_of_mem_toString {n : Nat} {c : Char} (hc : c ∈ (toString n).toList) :
    c.isAlphanum = true := by
  rw [Nat.toString_eq_ofList_toDigits, String.toList_ofList] at hc
  rw [Char.isAlphanum, Nat.isDigit_of_mem_toDigits (by decide) (by decide) hc, Bool.or_true]

variable {d : Dialect} {bindings : NameMap Value} {k : Nat}

/-- A character that opens no quoted region and begins no placeholder is copied. -/
theorem scan_other {c : Char} {rest : List Char} (hq : ¬IsQuote c)
    (hcolon : ¬(c = ':' ∧ rest.head?.any Char.isAlpha = true)) :
    scan d bindings .plain k (c :: rest) = before [c] [] (scan d bindings .plain k rest) := by
  rw [IsQuote] at hq
  rw [scan, if_neg hq, if_neg hcolon]

/-- A piece without quotes and colons is copied. -/
theorem scan_plain_append {text : List Char} (h : ∀ c ∈ text, IsPlain c) (rest : List Char) :
    scan d bindings .plain k (text ++ rest)
      = before text [] (scan d bindings .plain k rest) := by
  induction text with
  | nil => simp
  | cons c text ih =>
    obtain ⟨hq, hq', hc⟩ := h c (.head _)
    rw [List.cons_append, scan_other (not_or.2 ⟨hq, hq'⟩) fun h ↦ hc h.1,
      ih fun e he ↦ h e (.tail _ he), before_before]
    rfl

theorem scan_plain {text : List Char} (h : ∀ c ∈ text, IsPlain c) :
    scan d bindings .plain k text = .ok (text, []) := by
  rw [← List.append_nil text, scan_plain_append h, scan]
  rfl

/-- Behind a quote everything is copied up to the next quote of the same kind. -/
theorem scan_inside_append {q : Char} {text : List Char} (h : q ∉ text) (rest : List Char) :
    scan d bindings (.inside q) k (text ++ q :: rest)
      = before (text ++ [q]) [] (scan d bindings .plain k rest) := by
  induction text with
  | nil =>
    rw [List.nil_append, scan, if_pos rfl]
    rfl
  | cons c text ih =>
    rw [List.mem_cons, not_or] at h
    obtain ⟨hc, ht⟩ := h
    rw [List.cons_append, scan, if_neg (Ne.symm hc), ih ht, before_before]
    rfl

/-- Behind a quote that is not closed everything is copied. -/
theorem scan_inside {q : Char} {text : List Char} (h : q ∉ text) :
    scan d bindings (.inside q) k text = .ok (text, []) := by
  induction text with
  | nil => rw [scan]
  | cons c text ih =>
    rw [List.mem_cons, not_or] at h
    obtain ⟨hc, ht⟩ := h
    rw [scan, if_neg (Ne.symm hc), ih ht]
    rfl

theorem scan_quote {q : Char} (hq : IsQuote q) (rest : List Char) :
    scan d bindings .plain k (q :: rest)
      = before [q] [] (scan d bindings (.inside q) k rest) := by
  rw [IsQuote] at hq
  rw [scan, if_pos hq]

/-- A text between quotes is copied. -/
theorem scan_quoted_append {q : Char} (hq : IsQuote q) {text : List Char} (h : q ∉ text)
    (rest : List Char) :
    scan d bindings .plain k (q :: text ++ q :: rest)
      = before (q :: text ++ [q]) [] (scan d bindings .plain k rest) := by
  rw [List.cons_append, scan_quote hq, scan_inside_append h, before_before]
  rfl

/-- What the longest run of letters and digits is behind a name that no such character follows. -/
theorem takeWhile_isAlphanum_append {name rest : List Char}
    (hname : ∀ c ∈ name, c.isAlphanum = true) (hrest : rest.head?.any Char.isAlphanum = false) :
    (name ++ rest).takeWhile Char.isAlphanum = name
      ∧ (name ++ rest).dropWhile Char.isAlphanum = rest := by
  rw [List.takeWhile_append_of_pos hname, List.dropWhile_append_of_pos hname]
  cases rest with
  | nil => simp
  | cons c cs => simp_all

theorem head?_append_isAlpha {name : List Char} (h : name.head?.any Char.isAlpha = true)
    (rest : List Char) : (name ++ rest).head?.any Char.isAlpha = true := by
  cases name with
  | nil => cases h
  | cons c cs => exact h

/-- A colon with a name behind it is looked up by that name. -/
theorem scan_name_append {name : String} {rest : List Char}
    (hhead : name.toList.head?.any Char.isAlpha = true)
    (hname : ∀ c ∈ name.toList, c.isAlphanum = true)
    (hrest : rest.head?.any Char.isAlphanum = false) :
    scan d bindings .plain k (':' :: name.toList ++ rest)
      = match bindings.get? name with
        | none => .error (.missingBinding name)
        | some v =>
          if v = .null then before "NULL".toList [] (scan d bindings .plain k rest)
          else before (d.placeholder (k + 1)).toList [v]
            (scan d bindings .plain (k + 1) rest) := by
  obtain ⟨htake, hdrop⟩ := takeWhile_isAlphanum_append hname hrest
  rw [List.cons_append, scan, if_neg (by decide), if_pos ⟨rfl, head?_append_isAlpha hhead rest⟩]
  simp only [htake, hdrop, String.ofList_toList]
  cases bindings.get? name with
  | none => rfl
  | some v => cases v <;> rfl

/-- A colon with a name behind it becomes the mark for the next number, or `NULL`. -/
theorem scan_placeholder_append {name : String} {v : Value} {rest : List Char}
    (hhead : name.toList.head?.any Char.isAlpha = true)
    (hname : ∀ c ∈ name.toList, c.isAlphanum = true)
    (hrest : rest.head?.any Char.isAlphanum = false) (hv : bindings.get? name = some v) :
    scan d bindings .plain k (':' :: name.toList ++ rest)
      = if v = .null then before "NULL".toList [] (scan d bindings .plain k rest)
        else before (d.placeholder (k + 1)).toList [v]
          (scan d bindings .plain (k + 1) rest) := by
  rw [scan_name_append hhead hname hrest, hv]

end RecordGateway.Rebind
