import RecordGateway.Proofs.Sql.Pieces

/-!
# Rebinding what was rebound

A text without placeholders stays as it is when it is rebound, whatever the values.  What rebinding
makes of a text is without placeholders, and so stays as it is, but for one case: a null value that
stands right behind a colon leaves `:NULL`, which is read as a placeholder by those who look at the
text anew.
-/

namespace RecordGateway

namespace Rebind

variable {d : Dialect} {bindings : NameMap Value} {k : Nat} {cs text : List Char}
  {p : Piece} {ps : List Piece}

/-! ## Texts without placeholders -/

/-- The pieces of a text make up the text. -/
theorem flatMap_text_of_splits (h : Splits cs ps) : ps.flatMap Piece.text = cs := by
  induction h with
  | nil => rfl
  | closed _ _ _ ih => simp [Piece.text, ih]
  | unclosed => simp [Piece.text]
  | placeholder _ _ _ _ ih => simp [Piece.text, ih]
  | other _ _ _ ih => simp [Piece.text, ih]

theorem names_eq_nil_iff : names ps = [] ↔ ∀ p ∈ ps, p.name? = none := List.filterMap_eq_nil_iff

theorem rewrite_of_names_eq_nil (h : names ps = []) :
    rewrite d bindings k ps = ps.flatMap Piece.text := by
  induction ps with
  | nil => rfl
  | cons p ps ih =>
    obtain ⟨hp, hps⟩ := List.forall_mem_cons.1 (names_eq_nil_iff.1 h)
    rw [rewrite_kept hp, ih (names_eq_nil_iff.2 hps), List.flatMap_cons]

/-- A text without placeholders is not changed. -/
theorem rebindPieces_of_names_eq_nil (h : names ps = []) :
    rebindPieces d bindings k ps = .ok (ps.flatMap Piece.text, []) := by
  rw [rebindPieces_eq_ok_iff, rewrite_of_names_eq_nil h, passedValues, h]
  exact ⟨List.forall_mem_nil _, rfl⟩

/-- Without any values, a text with placeholders cannot be rebound. -/
theorem rebindPieces_empty_of_names_ne_nil (h : names ps ≠ []) :
    ∃ name, rebindPieces d ∅ k ps = .error (.missingBinding name) := by
  obtain ⟨name, rest, hnames⟩ := List.exists_cons_of_ne_nil h
  exact ⟨name, rebindPieces_eq_error_iff.2 ⟨[], name, rest, hnames, List.forall_mem_nil _, rfl, rfl⟩⟩

/-! ## What stands in a new text -/

theorem isPlain_of_mem_placeholder {n : Nat} {c : Char} (hc : c ∈ (d.placeholder n).toList) :
    IsPlain c := by
  rw [Dialect.placeholder, String.toList_ofList, List.mem_cons] at hc
  rcases hc with rfl | hc
  · cases d <;> exact ⟨by decide, by decide, by decide⟩
  · exact isPlain_of_isAlphanum (isAlphanum_of_mem_toString hc)

theorem isPlain_of_mem_null : ∀ c ∈ "NULL".toList, IsPlain c := by
  simp [IsPlain]

/-- What a placeholder becomes holds neither quotes nor colons. -/
theorem isPlain_of_mem_rewrite {name : String} {n : Nat} {c : Char}
    (hc : c ∈ (Piece.placeholder name).rewrite d bindings n) : IsPlain c := by
  simp only [Piece.rewrite, Piece.name?] at hc
  split at hc
  · exact isPlain_of_mem_placeholder hc
  · exact isPlain_of_mem_null c hc

/-- A text without quotes and colons has no placeholders, whatever follows it. -/
theorem names_pieces_plain_append (h : ∀ c ∈ text, IsPlain c) (rest : List Char) :
    names (pieces (text ++ rest)) = names (pieces rest) := by
  induction text with
  | nil => rfl
  | cons c text ih =>
    obtain ⟨⟨hq, hq', hc⟩, htext⟩ := List.forall_mem_cons.1 h
    rw [List.cons_append, pieces, if_neg (not_or.2 ⟨hq, hq'⟩), if_neg fun h ↦ hc h.1,
      names_kept rfl, ih htext]

/-! ## Null behind a colon -/

/-- Pieces that begin with a placeholder for null. -/
def BeginsNull (bindings : NameMap Value) (ps : List Piece) : Prop :=
  ∃ name, [.placeholder name] <+: ps ∧ bindings.get? name = some .null

/-- Somewhere among the pieces a placeholder for null stands right behind a colon. -/
def HasNullBehindColon (bindings : NameMap Value) (ps : List Piece) : Prop :=
  ∃ name, [.other ':', .placeholder name] <:+: ps ∧ bindings.get? name = some .null

theorem hasNullBehindColon_cons : HasNullBehindColon bindings (p :: ps) ↔
    p = .other ':' ∧ BeginsNull bindings ps ∨ HasNullBehindColon bindings ps := by
  simp only [HasNullBehindColon, BeginsNull, List.infix_cons_iff, List.cons_prefix_cons]
  constructor
  · rintro ⟨name, ⟨hp, hps⟩ | hps, hnull⟩
    · exact .inl ⟨hp.symm, name, hps, hnull⟩
    · exact .inr ⟨name, hps, hnull⟩
  · rintro (⟨hp, name, hps, hnull⟩ | ⟨name, hps, hnull⟩)
    · exact ⟨name, .inl ⟨hp.symm, hps⟩, hnull⟩
    · exact ⟨name, .inr hps, hnull⟩

theorem beginsNull_cons : BeginsNull bindings (p :: ps) ↔
    ∃ name, p = .placeholder name ∧ bindings.get? name = some .null := by
  simp [BeginsNull, List.cons_prefix_cons, eq_comm]

theorem isPassed_eq_false_iff {name : String} :
    isPassed bindings name = false ↔ bindings.get? name = some .null := by
  simp [isPassed]

/-- Of what placeholders become, only null begins with a letter. -/
theorem head?_rewrite_placeholder {name : String} {n : Nat} (rest : List Char) :
    ((Piece.placeholder name).rewrite d bindings n ++ rest).head?.any Char.isAlpha = true ↔
      bindings.get? name = some .null := by
  rw [← isPassed_eq_false_iff]
  cases hpassed : isPassed bindings name with
  | true => cases d <;> simp [Piece.rewrite, Piece.name?, hpassed, Dialect.placeholder, Dialect.mark]
  | false => simp [Piece.rewrite, Piece.name?, hpassed]

theorem IsQuote.isAlpha_eq_false {q : Char} (hq : IsQuote q) : q.isAlpha = false := by
  rcases hq with rfl | rfl <;> decide

/-- A new text begins with a letter if the old one does, or begins with a placeholder for null. -/
theorem head?_rewrite_isAlpha (h : Splits cs ps) :
    (rewrite d bindings k ps).head?.any Char.isAlpha = true ↔
      cs.head?.any Char.isAlpha = true ∨ BeginsNull bindings ps := by
  cases h with
  | nil => simp [rewrite, BeginsNull]
  | closed hq | unclosed hq =>
    rw [rewrite_kept rfl, beginsNull_cons]
    simp [Piece.text, hq.isAlpha_eq_false]
  | placeholder =>
    rw [rewrite_cons, head?_rewrite_placeholder, beginsNull_cons]
    simp
  | other =>
    rw [rewrite_kept rfl, beginsNull_cons]
    simp [Piece.text]

/-- The new text has placeholders only where null stands behind a colon. -/
theorem names_pieces_rewrite (h : Splits cs ps) :
    names (pieces (rewrite d bindings k ps)) = [] ↔ ¬HasNullBehindColon bindings ps := by
  induction h generalizing k with
  | nil => simp [rewrite, pieces, names, HasNullBehindColon]
  | @closed q text rest ps hq htext _ ih =>
    have hpieces := pieces_eq_of_splits (.closed hq htext (splits_pieces (rewrite d bindings k ps)))
    rw [List.append_cons] at hpieces
    rw [rewrite_kept rfl, hasNullBehindColon_cons, Piece.text, hpieces, names_kept rfl, ih]
    simp
  | @unclosed q text hq htext =>
    rw [rewrite_kept rfl, hasNullBehindColon_cons, Piece.text, rewrite, List.mapIdx_nil,
      List.flatten_nil, List.append_nil, pieces_eq_of_splits (.unclosed hq htext)]
    simp [names, Piece.name?, HasNullBehindColon]
  | placeholder hhead hname hrest _ ih =>
    rw [rewrite_cons, names_pieces_plain_append fun c hc ↦ isPlain_of_mem_rewrite hc,
      hasNullBehindColon_cons, ih]
    simp
  | @other c rest ps hq hcolon hsplits ih =>
    have hhead := @head?_rewrite_isAlpha d bindings k _ _ hsplits
    rw [rewrite_kept rfl, hasNullBehindColon_cons, Piece.text, List.singleton_append]
    by_cases hnew : c = ':' ∧ (rewrite d bindings k ps).head?.any Char.isAlpha = true
    · -- a letter has come to stand behind the colon, which is that of `NULL`
      obtain ⟨rfl, halpha⟩ := hnew
      have hnull : BeginsNull bindings ps := (hhead.1 halpha).resolve_left fun h ↦ hcolon ⟨rfl, h⟩
      rw [pieces, if_neg (by decide), if_pos ⟨rfl, halpha⟩]
      simp [names, Piece.name?, hnull]
    · have hcolon' : ¬(Piece.other c = .other ':' ∧ BeginsNull bindings ps) := by
        rintro ⟨hc, hnull⟩
        exact hnew ⟨Piece.other.inj hc, hhead.2 (.inr hnull)⟩
      rw [IsQuote] at hq
      rw [pieces, if_neg hq, if_neg hnew, names_kept rfl, ih, or_iff_right hcolon']

end Rebind

namespace NamedStatement

open Rebind

variable {s : NamedStatement} {d : Dialect} {n : NumberedStatement} {ps : List Piece}

/-- A text without placeholders stays as it is, and no values are passed. -/
theorem rebind_of_names_eq_nil {sql : String} (hps : Splits sql.toList ps) (hnames : names ps = [])
    (bindings : NameMap Value) (d : Dialect) : rebind ⟨sql, bindings⟩ d = .ok ⟨sql, []⟩ := by
  rw [rebind_eq_ok_iff hps, rebindPieces_of_names_eq_nil hnames, flatMap_text_of_splits hps]

/-- A text with placeholders cannot be rebound without values. -/
theorem rebind_of_names_ne_nil {sql : String} (hps : Splits sql.toList ps) (hnames : names ps ≠ [])
    (d : Dialect) : ∃ name, rebind ⟨sql, ∅⟩ d = .error (.missingBinding name) := by
  obtain ⟨name, herror⟩ := rebindPieces_empty_of_names_ne_nil (d := d) (k := 0) hnames
  exact ⟨name, (rebind_eq_error_iff hps).2 herror⟩

theorem toList_sql_of_rebind (hps : Splits s.sql.toList ps) (h : s.rebind d = .ok n) :
    n.sql.toList = rewrite d s.bindings 0 ps :=
  congrArg Prod.fst (rebindPieces_eq_ok_iff.1 ((rebind_eq_ok_iff hps).1 h)).2

/-- **Rebinding twice.**  What rebinding makes of a text has no placeholders, and is not changed by
rebinding it in either dialect with whatever values, of which none is passed; unless a placeholder
for null stands right behind a colon of the text, outside quotes.  There the new text has a
placeholder that was not in the old one, and cannot be rebound without values. -/
theorem rebind_again (h : s.rebind d = .ok n) :
    ∃ ps, Splits s.sql.toList ps ∧
      (¬HasNullBehindColon s.bindings ps →
        (∀ qs, Splits n.sql.toList qs → names qs = []) ∧
          ∀ d' bindings, rebind ⟨n.sql, bindings⟩ d' = .ok ⟨n.sql, []⟩) ∧
      (HasNullBehindColon s.bindings ps →
        (∀ qs, Splits n.sql.toList qs → names qs ≠ []) ∧
          ∀ d', ∃ name, rebind ⟨n.sql, ∅⟩ d' = .error (.missingBinding name)) := by
  have hps := splits_pieces s.sql.toList
  have hqs := splits_pieces n.sql.toList
  have hnames : names (pieces n.sql.toList) = [] ↔
      ¬HasNullBehindColon s.bindings (pieces s.sql.toList) := by
    rw [toList_sql_of_rebind hps h, names_pieces_rewrite hps]
  refine ⟨_, hps, fun hnone ↦ ?_, fun hnull ↦ ?_⟩
  · have hnil := hnames.2 hnone
    refine ⟨fun qs h ↦ splits_iff.1 h ▸ hnil, fun d' bindings ↦ ?_⟩
    exact rebind_of_names_eq_nil hqs hnil bindings d'
  · have hne := mt hnames.1 (not_not.2 hnull)
    exact ⟨fun qs h ↦ splits_iff.1 h ▸ hne, rebind_of_names_ne_nil hqs hne⟩

/-- A colon in quotes, a value and null. -/
theorem rebind_again_quoted :
    rebind ⟨"(':x',:a,:b)", .ofList [("a", .int 1), ("b", .null)]⟩ .postgres
        = .ok ⟨"(':x',$1,NULL)", [.int 1]⟩ ∧
      rebind ⟨"(':x',$1,NULL)", ∅⟩ .sqlite = .ok ⟨"(':x',$1,NULL)", []⟩ := by
  have h : rebind ⟨"(':x',:a,:b)", .ofList [("a", .int 1), ("b", .null)]⟩ .postgres
      = .ok ⟨"(':x',$1,NULL)", [.int 1]⟩ := by decide +kernel
  obtain ⟨ps, hps, hnone, -⟩ := rebind_again h
  have hpieces : ps = [.other '(', .quoted "':x'".toList, .other ',', .placeholder "a", .other ',',
      .placeholder "b", .other ')'] := (splits_iff.1 hps).trans (by decide +kernel)
  refine ⟨h, (hnone ?_).2 .sqlite ∅⟩
  rintro ⟨name, hinfix, -⟩
  have hcolon : Piece.other ':' ∈ ps := hinfix.mem (.head _)
  rw [hpieces] at hcolon
  revert hcolon
  decide

/-- The colon in front of a placeholder for null makes a placeholder of it. -/
theorem null_behind_colon :
    rebind ⟨"::a", .ofList [("a", .null)]⟩ .sqlite = .ok ⟨":NULL", []⟩ ∧
      rebind ⟨":NULL", ∅⟩ .sqlite = .error (.missingBinding "NULL") ∧
      rebind ⟨":NULL", ∅⟩ .postgres = .error (.missingBinding "NULL") := by
  refine ⟨by decide +kernel, by decide +kernel, by decide +kernel⟩

end NamedStatement

end RecordGateway
