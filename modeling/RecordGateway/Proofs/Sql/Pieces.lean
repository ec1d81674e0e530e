import Mathlib.Data.List.TakeWhile
import RecordGateway.Proofs.Sql.Rebind
import RecordGateway.Proofs.Sql.Slices

/-!
# The pieces of a statement

The text of a statement falls into pieces from left to right: quoted regions, placeholders, and
other characters.  Rebinding keeps every piece but the placeholders.  It fails if one of them has
no value, and names the leftmost of these; otherwise a placeholder becomes `NULL` or the mark
whose number is its rank among those that are passed, and the values are listed by that rank.
-/

namespace RecordGateway

namespace Rebind

/-- A piece of the text of a statement. -/
inductive Piece
  /-- What stands from a quote up to the next quote of the same kind, or to the end of the text. -/
  | quoted (text : List Char)
  /-- A colon with a name behind it. -/
  | placeholder (name : String)
  | other (c : Char)
  deriving DecidableEq, Repr

/-- A text falls into pieces, each of them as long as it can be. -/
inductive Splits : List Char → List Piece → Prop
  | nil : Splits [] []
  | closed {q : Char} {text rest : List Char} {ps : List Piece} (hq : IsQuote q)
      (htext : q ∉ text) (h : Splits rest ps) :
      Splits (q :: text ++ q :: rest) (.quoted (q :: text ++ [q]) :: ps)
  | unclosed {q : Char} {text : List Char} (hq : IsQuote q) (htext : q ∉ text) :
      Splits (q :: text) [.quoted (q :: text)]
  | placeholder {name : String} {rest : List Char} {ps : List Piece}
      (hhead : name.toList.head?.any Char.isAlpha = true)
      (hname : ∀ c ∈ name.toList, c.isAlphanum = true)
      (hrest : rest.head?.any Char.isAlphanum = false) (h : Splits rest ps) :
      Splits (':' :: name.toList ++ rest) (.placeholder name :: ps)
  | other {c : Char} {rest : List Char} {ps : List Piece} (hq : ¬IsQuote c)
      (hcolon : ¬(c = ':' ∧ rest.head?.any Char.isAlpha = true)) (h : Splits rest ps) :
      Splits (c :: rest) (.other c :: ps)

/-! ## Every text falls into pieces in one way -/

/-- The pieces of a text, found one after the other. -/
def pieces : List Char → List Piece
  | [] => []
  | c :: cs =>
    if c = '"' ∨ c = '\'' then
      let closing := cs.dropWhile (· != c)
      .quoted (c :: cs.takeWhile (· != c) ++ closing.take 1) :: pieces (closing.drop 1)
    else if c = ':' ∧ cs.head?.any Char.isAlpha then
      .placeholder (String.ofList (cs.takeWhile Char.isAlphanum))
        :: pieces (cs.dropWhile Char.isAlphanum)
    else .other c :: pieces cs
termination_by cs => cs.length
decreasing_by
  · simp only [List.length_drop, List.length_cons]
    exact Nat.lt_succ_of_le (Nat.le_trans (Nat.sub_le _ _) (List.dropWhile_sublist _).length_le)
  · exact Nat.lt_succ_of_le (List.dropWhile_sublist _).length_le
  · exact Nat.lt_succ_self _

theorem not_mem_takeWhile_ne (q : Char) (cs : List Char) : q ∉ cs.takeWhile (· != q) := by
  intro hmem
  have hne := List.mem_takeWhile_imp hmem
  rw [bne_self_eq_false] at hne
  cases hne

theorem eq_of_dropWhile_ne {q c : Char} {cs rest : List Char}
    (h : cs.dropWhile (· != q) = c :: rest) : c = q := by
  have hhead := List.head?_dropWhile_not (· != q) cs
  rw [h] at hhead
  simpa using hhead

/-- The longest run of letters and digits is not followed by another one. -/
theorem head?_dropWhile_isAlphanum (cs : List Char) :
    (cs.dropWhile Char.isAlphanum).head?.any Char.isAlphanum = false := by
  have hhead := List.head?_dropWhile_not Char.isAlphanum cs
  cases hrest : (cs.dropWhile Char.isAlphanum).head? with
  | none => rfl
  | some c => rwa [hrest] at hhead

theorem head?_takeWhile_isAlphanum {cs : List Char} (h : cs.head?.any Char.isAlpha = true) :
    (cs.takeWhile Char.isAlphanum).head?.any Char.isAlpha = true := by
  cases cs with
  | nil => cases h
  | cons c cs =>
    have halpha : c.isAlpha = true := h
    have halphanum : c.isAlphanum = true := by rw [Char.isAlphanum, halpha, Bool.true_or]
    rw [List.takeWhile_cons_of_pos halphanum]
    exact h

theorem splits_pieces (cs : List Char) : Splits cs (pieces cs) := by
  fun_induction pieces cs with
  | case1 => exact .nil
  | case2 c cs hquote closing ih =>
    have hparts : cs.takeWhile (· != c) ++ closing = cs := List.takeWhile_append_dropWhile
    have htext := not_mem_takeWhile_ne c cs
    cases hclosing : closing with
    | nil =>
      rw [hclosing, List.append_nil] at hparts
      rw [hparts] at htext ⊢
      simpa [pieces] using Splits.unclosed hquote htext
    | cons q rest =>
      obtain rfl := eq_of_dropWhile_ne hclosing
      rw [hclosing] at hparts ih
      have h := Splits.closed hquote htext ih
      rw [List.cons_append, List.drop_one, List.tail_cons, hparts] at h
      exact h
  | case3 c cs hquote hcolon ih =>
    obtain ⟨rfl, halpha⟩ := hcolon
    obtain ⟨name, hname⟩ : ∃ name : String, name.toList = cs.takeWhile Char.isAlphanum :=
      ⟨_, String.toList_ofList⟩
    have hhead : name.toList.head?.any Char.isAlpha = true :=
      hname ▸ head?_takeWhile_isAlphanum halpha
    have hletters : ∀ c ∈ name.toList, c.isAlphanum = true := by
      intro c hc
      rw [hname] at hc
      exact List.mem_takeWhile_imp hc
    have h := Splits.placeholder hhead hletters (head?_dropWhile_isAlphanum cs) ih
    rw [List.cons_append, hname, List.takeWhile_append_dropWhile] at h
    rwa [← hname, String.ofList_toList]
  | case4 c cs hquote hcolon ih => exact .other hquote hcolon ih

theorem pieces_eq_of_splits {cs : List Char} {ps : List Piece} (h : Splits cs ps) :
    pieces cs = ps := by
  induction h with
  | nil => rw [pieces]
  | @closed q text rest ps hq htext _ ih =>
    have hne := bne_of_not_mem htext
    rw [IsQuote] at hq
    rw [List.cons_append, pieces, if_pos hq, List.takeWhile_append_of_pos hne,
      List.dropWhile_append_of_pos hne]
    simp [ih]
  | @unclosed q text hq htext =>
    have hne := bne_of_not_mem htext
    rw [IsQuote] at hq
    rw [pieces, if_pos hq, List.takeWhile_eq_self_iff.2 hne, List.dropWhile_eq_nil_iff.2 hne]
    simp [pieces]
  | @placeholder name rest ps hhead hname hrest _ ih =>
    obtain ⟨htake, hdrop⟩ := takeWhile_isAlphanum_append hname hrest
    rw [List.cons_append, pieces, if_neg (by decide),
      if_pos ⟨rfl, head?_append_isAlpha hhead rest⟩, htake, hdrop, ih, String.ofList_toList]
  | @other c rest ps hq hcolon _ ih =>
    rw [IsQuote] at hq
    rw [pieces, if_neg hq, if_neg hcolon, ih]

/-- Every text falls into pieces, and in one way. -/
theorem splits_iff {cs : List Char} {ps : List Piece} : Splits cs ps ↔ ps = pieces cs :=
  ⟨fun h ↦ (pieces_eq_of_splits h).symm, fun h ↦ h ▸ splits_pieces cs⟩

/-! ## What becomes of the pieces -/

/-- The name of a placeholder. -/
def Piece.name? : Piece → Option String
  | placeholder name => some name
  | quoted _ | other _ => none

/-- The characters of a piece. -/
def Piece.text : Piece → List Char
  | quoted text => text
  | placeholder name => ':' :: name.toList
  | other c => [c]

/-- The names of the placeholders, from left to right, each as often as it stands there. -/
def names (ps : List Piece) : List String := ps.filterMap Piece.name?

variable (d : Dialect) (bindings : NameMap Value)

/-- Is the value of a name passed beside the text?  Null stands in the text itself. -/
def isPassed (name : String) : Bool := bindings.get? name != some .null

/-- How a piece stands in the new text, `n` being its number if it is one whose value is passed. -/
def Piece.rewrite (p : Piece) (n : Nat) : List Char :=
  match p.name? with
  | none => p.text
  | some name => if isPassed bindings name then (d.placeholder n).toList else "NULL".toList

/-- The new text of pieces behind `k` values: the number of a placeholder is its rank among those
whose values are passed. -/
def rewrite (k : Nat) (ps : List Piece) : List Char :=
  (ps.mapIdx fun i p ↦ p.rewrite d bindings
    (k + (ps.take (i + 1)).countP fun p ↦ p.name?.any (isPassed bindings))).flatten

/-- The values that are passed, in the order of their placeholders. -/
def passedValues (ps : List Piece) : List Value :=
  ((names ps).filter (isPassed bindings)).filterMap bindings.get?

/-- What rebinding makes of pieces behind `k` values. -/
def rebindPieces (k : Nat) (ps : List Piece) : Except SqlError (List Char × List Value) :=
  match (names ps).find? fun name ↦ (bindings.get? name).isNone with
  | some name => .error (.missingBinding name)
  | none => .ok (rewrite d bindings k ps, passedValues bindings ps)

variable {d bindings} {k : Nat}

theorem rewrite_cons (p : Piece) (ps : List Piece) :
    rewrite d bindings k (p :: ps)
      = p.rewrite d bindings (k + [p].countP fun p ↦ p.name?.any (isPassed bindings))
        ++ rewrite d bindings (k + [p].countP fun p ↦ p.name?.any (isPassed bindings)) ps := by
  rw [rewrite, mapIdx_rank_cons _ (Piece.rewrite d bindings), List.flatten_cons, rewrite]

theorem rewrite_kept {p : Piece} (hp : p.name? = none) (ps : List Piece) :
    rewrite d bindings k (p :: ps) = p.text ++ rewrite d bindings k ps := by
  rw [rewrite_cons]
  simp [Piece.rewrite, hp]

theorem names_kept {p : Piece} (hp : p.name? = none) (ps : List Piece) :
    names (p :: ps) = names ps :=
  List.filterMap_cons_none hp

/-- A piece that is no placeholder is kept. -/
theorem rebindPieces_kept {p : Piece} (hp : p.name? = none) (ps : List Piece) :
    rebindPieces d bindings k (p :: ps) = before p.text [] (rebindPieces d bindings k ps) := by
  have hnames := names_kept hp ps
  rw [rebindPieces, rebindPieces, hnames, rewrite_kept hp, passedValues, hnames, ← passedValues]
  cases (names ps).find? fun name ↦ (bindings.get? name).isNone <;> rfl

/-- A placeholder without a value is named. -/
theorem rebindPieces_unbound {name : String} (hv : bindings.get? name = none) (ps : List Piece) :
    rebindPieces d bindings k (.placeholder name :: ps) = .error (.missingBinding name) := by
  have hnames : names (.placeholder name :: ps) = name :: names ps := List.filterMap_cons_some rfl
  rw [rebindPieces, hnames, List.find?_cons_of_pos (by rw [hv]; rfl)]

/-- A placeholder with a value becomes `NULL` or the mark for the next number. -/
theorem rebindPieces_bound {name : String} {v : Value} (hv : bindings.get? name = some v)
    (ps : List Piece) :
    rebindPieces d bindings k (.placeholder name :: ps)
      = if v = .null then before "NULL".toList [] (rebindPieces d bindings k ps)
        else before (d.placeholder (k + 1)).toList [v] (rebindPieces d bindings (k + 1) ps) := by
  have hnames : names (.placeholder name :: ps) = name :: names ps := List.filterMap_cons_some rfl
  have hfind : (names (.placeholder name :: ps)).find? (fun n ↦ (bindings.get? n).isNone)
      = (names ps).find? fun n ↦ (bindings.get? n).isNone := by
    rw [hnames, List.find?_cons_of_neg (by rw [hv]; exact Bool.false_ne_true)]
  rw [rebindPieces, hfind, rewrite_cons, passedValues, hnames]
  by_cases hnull : v = .null
  · have hpassed : isPassed bindings name = false := by simp [isPassed, hv, hnull]
    have hcount :
        [Piece.placeholder name].countP (fun p ↦ p.name?.any (isPassed bindings)) = 0 := by
      simp [Piece.name?, hpassed]
    rw [if_pos hnull, hcount, Nat.add_zero, List.filter_cons_of_neg (by simp [hpassed]),
      rebindPieces]
    simp only [Piece.rewrite, Piece.name?, hpassed, passedValues]
    cases (names ps).find? fun n ↦ (bindings.get? n).isNone <;> rfl
  · have hpassed : isPassed bindings name = true := by simp [isPassed, hv, hnull]
    have hcount :
        [Piece.placeholder name].countP (fun p ↦ p.name?.any (isPassed bindings)) = 1 := by
      simp [Piece.name?, hpassed]
    rw [if_neg hnull, hcount, List.filter_cons_of_pos hpassed, List.filterMap_cons_some hv,
      rebindPieces]
    simp only [Piece.rewrite, Piece.name?, hpassed, passedValues]
    cases (names ps).find? fun n ↦ (bindings.get? n).isNone <;> rfl

/-- A scan rebinds the text piece by piece. -/
theorem scan_eq_rebindPieces {cs : List Char} {ps : List Piece} (h : Splits cs ps) :
    scan d bindings .plain k cs = rebindPieces d bindings k ps := by
  induction h generalizing k with
  | nil =>
    rw [scan]
    rfl
  | closed hq htext _ ih =>
    rw [scan_quoted_append hq htext, ih, rebindPieces_kept rfl]
    rfl
  | @unclosed q text hq htext =>
    rw [scan_quote hq, scan_inside htext, rebindPieces_kept rfl]
    simp [Piece.text, rebindPieces, names, rewrite, passedValues]
  | @placeholder name rest ps hhead hname hrest _ ih =>
    rw [scan_name_append hhead hname hrest]
    cases hv : bindings.get? name with
    | none => rw [rebindPieces_unbound hv]
    | some v =>
      rw [rebindPieces_bound hv]
      simp only [ih]
  | other hq hcolon _ ih =>
    rw [scan_other hq hcolon, ih, rebindPieces_kept rfl]
    rfl

theorem map_some_passedValues {ps : List Piece} (h : ∀ n ∈ names ps, bindings.get? n ≠ none) :
    (passedValues bindings ps).map some
      = ((names ps).filter (isPassed bindings)).map bindings.get? := by
  rw [passedValues, List.map_filterMap_some_eq_filter_map_isSome, List.filter_eq_self]
  intro v hv
  obtain ⟨name, hname, rfl⟩ := List.mem_map.1 hv
  exact Option.isSome_iff_ne_none.2 (h name (List.mem_filter.1 hname).1)

theorem rebindPieces_eq_error_iff {ps : List Piece} {e : SqlError} :
    rebindPieces d bindings k ps = .error e ↔
      ∃ before name after, names ps = before ++ name :: after ∧
        (∀ n ∈ before, bindings.get? n ≠ none) ∧ bindings.get? name = none ∧
        e = .missingBinding name := by
  rw [rebindPieces]
  constructor
  · intro h
    split at h
    next name hname =>
      cases h
      obtain ⟨hnone, before, after, hnames, hbefore⟩ := List.find?_eq_some_iff_append.1 hname
      refine ⟨before, name, after, hnames, ?_, Option.isNone_iff_eq_none.1 hnone, rfl⟩
      intro n hn
      simpa [Option.isSome_iff_ne_none] using hbefore n hn
    next => cases h
  · rintro ⟨before, name, after, hnames, hbefore, hnone, rfl⟩
    have hname : (names ps).find? (fun n ↦ (bindings.get? n).isNone) = some name := by
      rw [List.find?_eq_some_iff_append]
      refine ⟨Option.isNone_iff_eq_none.2 hnone, before, after, hnames, ?_⟩
      intro n hn
      simpa [Option.isSome_iff_ne_none] using hbefore n hn
    rw [hname]

theorem rebindPieces_eq_ok_iff {ps : List Piece} {r : List Char × List Value} :
    rebindPieces d bindings k ps = .ok r ↔ (∀ n ∈ names ps, bindings.get? n ≠ none) ∧
      r = (rewrite d bindings k ps, passedValues bindings ps) := by
  have hbound : (names ps).find? (fun n ↦ (bindings.get? n).isNone) = none ↔
      ∀ n ∈ names ps, bindings.get? n ≠ none := by
    simp
  rw [rebindPieces, ← hbound]
  cases (names ps).find? fun n ↦ (bindings.get? n).isNone with
  | none => simp [eq_comm]
  | some name => simp

end Rebind

namespace NamedStatement

open Rebind

variable {s : NamedStatement} {d : Dialect} {ps : List Piece}

theorem rebind_eq_error_iff (hps : Splits s.sql.toList ps) {e : SqlError} :
    s.rebind d = .error e ↔ rebindPieces d s.bindings 0 ps = .error e := by
  rw [rebind, scan_eq_rebindPieces hps]
  cases rebindPieces d s.bindings 0 ps <;> simp

theorem rebind_eq_ok_iff (hps : Splits s.sql.toList ps) {n : NumberedStatement} :
    s.rebind d = .ok n ↔ rebindPieces d s.bindings 0 ps = .ok (n.sql.toList, n.values) := by
  obtain ⟨sql, values⟩ := n
  rw [rebind, scan_eq_rebindPieces hps]
  cases rebindPieces d s.bindings 0 ps with
  | error e => simp
  | ok r =>
    obtain ⟨text, values'⟩ := r
    simp only [Except.ok.injEq, NumberedStatement.mk.injEq, Prod.mk.injEq, and_congr_left_iff]
    rintro -
    exact ⟨fun h ↦ h ▸ String.toList_ofList.symm, fun h ↦ h ▸ String.ofList_toList⟩

/-- **Rebinding goes piece by piece.**  Every text falls into pieces in one way.  A statement cannot
be rebound if a placeholder in it has no value, and then the leftmost of these is named.  Otherwise
all pieces stay as they are but the placeholders: `NULL` stands for one whose value is null, and for
any other the mark with its number among these, under which its value is passed.  Names can be cut
out of the text at the boundaries of characters. -/
theorem rebind_by_pieces (s : NamedStatement) (d : Dialect) :
    ∃ ps, Splits s.sql.toList ps ∧ (∀ qs, Splits s.sql.toList qs → qs = ps) ∧
      (∀ e, s.rebind d = .error e ↔
        ∃ before name after, names ps = before ++ name :: after ∧
          (∀ n ∈ before, s.bindings.get? n ≠ none) ∧ s.bindings.get? name = none ∧
          e = .missingBinding name) ∧
      (∀ n, s.rebind d = .ok n ↔
        (∀ name ∈ names ps, s.bindings.get? name ≠ none) ∧
          n.sql.toList = rewrite d s.bindings 0 ps ∧
          n.values.map some = ((names ps).filter (isPassed s.bindings)).map s.bindings.get?) ∧
      s.rebindSlicing d = some (s.rebind d) := by
  have hps := splits_pieces s.sql.toList
  refine ⟨_, hps, fun qs hqs ↦ splits_iff.1 hqs, ?_, ?_, rebindSlicing_eq s d⟩
  · intro e
    rw [rebind_eq_error_iff hps, rebindPieces_eq_error_iff]
  · intro n
    rw [rebind_eq_ok_iff hps, rebindPieces_eq_ok_iff, Prod.mk.injEq]
    refine and_congr_right fun hbound ↦ and_congr_right fun _ ↦ ?_
    rw [← map_some_passedValues hbound]
    exact (List.map_inj_right fun _ _ ↦ Option.some.inj).symm

end NamedStatement

end RecordGateway
