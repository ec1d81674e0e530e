import RecordGateway.Proofs.Record.Pattern
import RecordGateway.Proofs.Sql.Pieces

/-!
# Names in the text of a statement

A text whose quotes are closed is scanned part by part: what a scan makes of the whole is what it
makes of a first part and then of the second, unless a name goes from one into the other.  An
identifier behind a colon outside quotes is therefore read whole, wherever it stands.
-/

namespace RecordGateway

namespace Rebind

/-- Where a scan stands behind a character. -/
def Mode.behind (m : Mode) (c : Char) : Mode :=
  match m with
  | .inside q => if c = q then .plain else m
  | .plain => if c = '"' ∨ c = '\'' then .inside c else .plain

/-- Every quote that opens a quoted region in the text has one in it that closes the region. -/
def ClosesQuotes (text : List Char) : Prop := text.foldl Mode.behind .plain = .plain

instance (text : List Char) : Decidable (ClosesQuotes text) :=
  inferInstanceAs (Decidable (_ = Mode.plain))

/-- What a scan gives if the rest is scanned behind a first part, by the number of its values. -/
def andThen (first : Except SqlError (List Char × List Value))
    (rest : Nat → Except SqlError (List Char × List Value)) :
    Except SqlError (List Char × List Value) :=
  match first with
  | .error e => .error e
  | .ok (text, values) => before text values (rest values.length)

/-- What a scan gives that has read the name of a placeholder. -/
def scanBehindName (d : Dialect) (bindings : NameMap Value) (bound : Nat) (name : String)
    (rest : List Char) : Except SqlError (List Char × List Value) :=
  match bindings.get? name with
  | none => .error (.missingBinding name)
  | some v =>
    if v = .null then before "NULL".toList [] (scan d bindings .plain bound rest)
    else before (d.placeholder (bound + 1)).toList [v] (scan d bindings .plain (bound + 1) rest)

variable {d : Dialect} {bindings : NameMap Value} {k : Nat} {q : Char}
  {text rest : List Char}

/-! ## Where a scan stands -/

theorem not_isQuote_of_isAlphanum {c : Char} (h : c.isAlphanum = true) : ¬IsQuote c :=
  not_or.2 ⟨(isPlain_of_isAlphanum h).1, (isPlain_of_isAlphanum h).2.1⟩

theorem foldl_behind_inside (h : q ∉ text) :
    text.foldl Mode.behind (.inside q) = .inside q := by
  induction text with
  | nil => rfl
  | cons c text ih =>
    rw [List.mem_cons, not_or] at h
    obtain ⟨hc, htext⟩ := h
    have hbehind : (Mode.inside q).behind c = .inside q := if_neg (Ne.symm hc)
    rw [List.foldl_cons, hbehind, ih htext]

theorem foldl_behind_quote (hq : IsQuote q) (h : q ∉ text) :
    (q :: text).foldl Mode.behind .plain = .inside q := by
  have hbehind : Mode.plain.behind q = .inside q := if_pos hq
  rw [List.foldl_cons, hbehind, foldl_behind_inside h]

theorem foldl_behind_plain (h : ∀ c ∈ text, ¬IsQuote c) :
    text.foldl Mode.behind .plain = .plain := by
  induction text with
  | nil => rfl
  | cons c text ih =>
    obtain ⟨hc, htext⟩ := List.forall_mem_cons.1 h
    have hbehind : Mode.plain.behind c = .plain := if_neg hc
    rw [List.foldl_cons, hbehind, ih htext]

/-- What is left of a text behind a part with closed quotes has closed quotes if the text has. -/
theorem ClosesQuotes.right (h : ClosesQuotes (text ++ rest))
    (htext : text.foldl Mode.behind .plain = .plain) : ClosesQuotes rest := by
  rwa [ClosesQuotes, List.foldl_append, htext] at h

/-! ## Scanning part by part -/

theorem andThen_before (first : Except SqlError (List Char × List Value)) (vs : List Value)
    (f : Nat → Except SqlError (List Char × List Value)) :
    andThen (before text vs first) f
      = before text vs (andThen first fun n ↦ f (vs.length + n)) := by
  rcases first with e | ⟨t, us⟩
  · rfl
  · simp [andThen]

/-- Behind a name, a scan goes on part by part if it does so with what follows the name. -/
theorem andThen_scanBehindName {name : String}
    (h : ∀ k, scan d bindings .plain k (text ++ rest)
      = andThen (scan d bindings .plain k text) fun n ↦ scan d bindings .plain (k + n) rest) :
    andThen (scanBehindName d bindings k name text) (fun n ↦ scan d bindings .plain (k + n) rest)
      = scanBehindName d bindings k name (text ++ rest) := by
  unfold scanBehindName
  cases bindings.get? name with
  | none => rfl
  | some v =>
    by_cases hv : v = .null
    · simp only [if_pos hv, andThen_before, h, List.length_nil, Nat.zero_add]
    · simp only [if_neg hv, andThen_before, h, List.length_singleton, Nat.add_assoc]

theorem head?_append_any {p : Char → Bool} (h : text.head?.any p = false)
    (hrest : rest.head?.any p = false) : (text ++ rest).head?.any p = false := by
  cases text with
  | nil => exact hrest
  | cons c text => exact h

/-- A text with closed quotes is scanned, and then what follows it, where no name goes from one into
the other. -/
theorem scan_append (htext : ClosesQuotes text) (hrest : rest.head?.any Char.isAlphanum = false) :
    scan d bindings .plain k (text ++ rest)
      = andThen (scan d bindings .plain k text) fun n ↦ scan d bindings .plain (k + n) rest := by
  have halpha : rest.head?.any Char.isAlpha = false := by
    cases rest with
    | nil => rfl
    | cons c rest => exact (Bool.or_eq_false_iff.1 hrest).1
  obtain ⟨ps, hps⟩ : ∃ ps, Splits text ps := ⟨_, splits_pieces text⟩
  induction hps generalizing k with
  | nil => simp [scan, andThen]
  | @closed q text text' ps hq hmem _ ih =>
    have hclosed : (q :: text ++ [q]).foldl Mode.behind .plain = .plain := by
      rw [List.foldl_append, foldl_behind_quote hq hmem]
      exact if_pos rfl
    rw [List.append_cons] at htext
    have htext' := htext.right hclosed
    have hparts : q :: text ++ q :: text' ++ rest = q :: text ++ q :: (text' ++ rest) :=
      List.append_assoc ..
    rw [hparts, scan_quoted_append hq hmem, scan_quoted_append hq hmem, ih htext', andThen_before]
    simp only [List.length_nil, Nat.zero_add]
  | @unclosed q text hq hmem =>
    rw [ClosesQuotes, foldl_behind_quote hq hmem] at htext
    cases htext
  | @placeholder name text' ps hhead hname hnext _ ih =>
    have hplain : (':' :: name.toList).foldl Mode.behind .plain = .plain :=
      foldl_behind_plain (List.forall_mem_cons.2
        ⟨by simp [IsQuote], fun c hc ↦ not_isQuote_of_isAlphanum (hname c hc)⟩)
    have htext' := htext.right hplain
    rw [List.append_assoc, scan_name_append hhead hname (head?_append_any hnext hrest),
      scan_name_append hhead hname hnext]
    exact (andThen_scanBehindName fun k ↦ ih htext').symm
  | @other c text' ps hq hcolon _ ih =>
    have hplain : [c].foldl Mode.behind .plain = .plain := foldl_behind_plain (by simpa using hq)
    rw [← List.singleton_append] at htext
    have htext' := htext.right hplain
    have hcolon' : ¬(c = ':' ∧ (text' ++ rest).head?.any Char.isAlpha = true) := by
      rintro ⟨hc, hhead⟩
      cases text' with
      | nil => exact Bool.false_ne_true (halpha.symm.trans hhead)
      | cons e text' => exact hcolon ⟨hc, hhead⟩
    rw [List.cons_append, scan_other hq hcolon', scan_other hq hcolon, ih htext', andThen_before]
    simp only [List.length_nil, Nat.zero_add]

/-- An identifier behind a colon is read whole, together with the letters and digits behind it, if
there are any. -/
theorem scan_identifier {s : String} {run : List Char} (hs : Identifier.isValid s = true)
    (htext : ClosesQuotes text) (hrun : ∀ c ∈ run, c.isAlphanum = true)
    (hrest : rest.head?.any Char.isAlphanum = false) :
    scan d bindings .plain k (text ++ (':' :: s.toList ++ run ++ rest))
      = andThen (scan d bindings .plain k text) fun n ↦
          scanBehindName d bindings (k + n) (s ++ String.ofList run) rest := by
  have hname : (s ++ String.ofList run).toList = s.toList ++ run := by
    rw [String.toList_append, String.toList_ofList]
  have hcolon : (':' :: s.toList ++ run ++ rest).head?.any Char.isAlphanum = false := rfl
  have hhead : (s ++ String.ofList run).toList.head?.any Char.isAlpha = true := by
    obtain ⟨c, cs, hcs, hc⟩ := Identifier.exists_cons_of_isValid hs
    rw [hname, hcs]
    exact hc
  have hletters : ∀ c ∈ (s ++ String.ofList run).toList, c.isAlphanum = true := by
    rw [hname, List.forall_mem_append]
    exact ⟨fun c hc ↦ Identifier.isAlphanum_of_mem hs hc, hrun⟩
  rw [scan_append htext hcolon]
  congr 1
  funext n
  rw [List.cons_append, ← hname, scan_name_append hhead hletters hrest]
  rfl

end Rebind

namespace Identifier

open Rebind

/-- **Identifiers are recognised exactly, and read back whole.**  A text is an identifier exactly if
`[A-Za-z]+[0-9]?` matches it: letters of ASCII, at least one, and then nothing or one digit of
ASCII.  Its bytes tell the same.  No quote, colon, comma, parenthesis or white space stands in an
identifier, and nothing outside ASCII.  Wherever an identifier stands behind a colon outside quotes,
a scan looks up the whole of it, and more only if letters or digits follow it, and goes on behind
it. -/
theorem isValid_exact (s : String) :
    (isValid s = true ↔ s.toList ∈ pattern.matches') ∧
    (isValid s = true ↔ ∃ run tail, s.toList = run ++ tail ∧ run ≠ [] ∧
      (∀ c ∈ run, c ∈ letters) ∧ (tail = [] ∨ ∃ d ∈ digits, tail = [d])) ∧
    isValidBytes (Text.Utf8.encode s) = isValid s ∧
    (isValid s = true →
      (∀ c ∈ s.toList, c ∉ ['"', '\'', ':', ',', '(', ')', '\n'] ∧ Text.isBlank c = false ∧
        c.toNat < 0x80) ∧
      ∀ (d : Dialect) (bindings : NameMap Value) (k : Nat) (text run rest : List Char),
        ClosesQuotes text → (∀ c ∈ run, c.isAlphanum = true) →
        rest.head?.any Char.isAlphanum = false →
        scan d bindings .plain k (text ++ (':' :: s.toList ++ run ++ rest))
          = andThen (scan d bindings .plain k text) fun n ↦
              scanBehindName d bindings (k + n) (s ++ String.ofList run) rest) := by
  refine ⟨isValid_iff_exists.trans mem_matches'_pattern.symm, isValid_iff_exists,
    isValidBytes_encode s, fun hs ↦ ⟨fun c hc ↦ ?_, ?_⟩⟩
  · have halphanum := isAlphanum_of_mem hs hc
    refine ⟨fun hmem ↦ ?_, isBlank_of_isAlphanum halphanum, lt_of_isAlphanum halphanum⟩
    have hother : (['"', '\'', ':', ',', '(', ')', '\n'].any Char.isAlphanum) = false := by decide
    exact List.any_eq_false.1 hother c hmem halphanum
  · intro d bindings k text run rest htext hrun hrest
    exact scan_identifier hs htext hrun hrest

/-- A name that another one begins with, behind a colon in quotes. -/
theorem isValid_exact_prefix :
    isValid "Ab1" = true ∧ ClosesQuotes "'it''s :a', ".toList ∧
      scan .postgres (NameMap.ofList [("Ab", .null), ("Ab1", .int 5)]) .plain 0
          "'it''s :a', :Ab1, :Ab".toList
        = .ok ("'it''s :a', $1, NULL".toList, [.int 5]) := by
  have hs : isValid "Ab1" = true := by decide
  have htext : ClosesQuotes "'it''s :a', ".toList := by decide
  refine ⟨hs, htext, ?_⟩
  obtain ⟨-, -, -, h⟩ := isValid_exact "Ab1"
  have hscan := (h hs).2 .postgres (NameMap.ofList [("Ab", .null), ("Ab1", .int 5)]) 0
    "'it''s :a', ".toList [] ", :Ab".toList htext (List.forall_mem_nil _) (by decide)
  exact hscan.trans (by decide +kernel)

end Identifier

end RecordGateway
