import RecordGateway.Proofs.Text.Slices
import RecordGateway.Sql.Rebind

/-!
# Names cut out of a text

A scan that keeps count of the bytes behind it can cut the names of placeholders out of the whole
text: from the byte behind the colon up to the one behind the last letter or digit.  A cut that
would go through a character has no result.  No cut of a scan is of this kind, and what is cut out
is the name.
-/

namespace RecordGateway

namespace Rebind

/-- The byte behind the letters and digits that a text begins with at the byte `start`. -/
def nameEnd (start : Nat) : List Char → Nat
  | [] => start
  | c :: cs => if c.isAlphanum then nameEnd (start + c.utf8Size) cs else start

/-- Rebinds the rest of a text that begins at the byte `start` of the whole, out of which the names
are cut.  There is no result if a cut goes through a character. -/
def scanSlicing (d : Dialect) (bindings : NameMap Value) (whole : List Char) (mode : Mode)
    (bound start : Nat) : List Char → Option (Except SqlError (List Char × List Value))
  | [] => some (.ok ([], []))
  | c :: cs =>
    let next := start + c.utf8Size
    match mode with
    | .inside q =>
      (scanSlicing d bindings whole (if c = q then .plain else mode) bound next cs).map
        (before [c] [])
    | .plain =>
      if c = '"' ∨ c = '\'' then
        (scanSlicing d bindings whole (.inside c) bound next cs).map (before [c] [])
      else if c = ':' ∧ cs.head?.any Char.isAlpha then
        let stop := nameEnd next cs
        match Text.slice? whole next stop with
        | none => none
        | some name =>
          let rest := cs.dropWhile Char.isAlphanum
          match bindings.get? (String.ofList name) with
          | none => some (.error (.missingBinding (String.ofList name)))
          | some .null =>
            (scanSlicing d bindings whole .plain bound stop rest).map (before "NULL".toList [])
          | some v =>
            (scanSlicing d bindings whole .plain (bound + 1) stop rest).map
              (before (d.placeholder (bound + 1)).toList [v])
      else (scanSlicing d bindings whole .plain bound next cs).map (before [c] [])
termination_by cs => cs.length
decreasing_by
  all_goals
    simp only [List.length_cons]
    first
      | exact Nat.lt_succ_self _
      | exact Nat.lt_succ_of_le (List.dropWhile_sublist _).length_le

theorem nameEnd_eq (start : Nat) (cs : List Char) :
    nameEnd start cs = start + Text.byteCount (cs.takeWhile Char.isAlphanum) := by
  induction cs generalizing start with
  | nil => rfl
  | cons c cs ih =>
    rw [nameEnd]
    by_cases h : c.isAlphanum = true
    · rw [if_pos h, ih, List.takeWhile_cons_of_pos h, Text.byteCount_cons, Nat.add_assoc]
    · rw [if_neg h, List.takeWhile_cons_of_neg h, Text.byteCount_nil, Nat.add_zero]

variable {d : Dialect} {bindings : NameMap Value} {bound : Nat}

/-- The whole text, and the byte that the next character begins at, seen from that character. -/
theorem whole_next (past : List Char) (c : Char) (cs : List Char) :
    past ++ c :: cs = (past ++ [c]) ++ cs
      ∧ Text.byteCount past + c.utf8Size = Text.byteCount (past ++ [c]) := by
  constructor
  · rw [List.append_cons]
  · rw [Text.byteCount_append, Text.byteCount_cons, Text.byteCount_nil, Nat.add_zero]

/-- What is cut out behind a colon is the longest run of letters and digits there. -/
theorem scanSlicing_colon {past cs : List Char} (h : cs.head?.any Char.isAlpha = true) :
    scanSlicing d bindings (past ++ ':' :: cs) .plain bound (Text.byteCount past) (':' :: cs)
      = let name := cs.takeWhile Char.isAlphanum
        let rest := cs.dropWhile Char.isAlphanum
        let past' := past ++ [':'] ++ name
        match bindings.get? (String.ofList name) with
        | none => some (.error (.missingBinding (String.ofList name)))
        | some .null =>
          (scanSlicing d bindings (past' ++ rest) .plain bound (Text.byteCount past') rest).map
            (before "NULL".toList [])
        | some v =>
          (scanSlicing d bindings (past' ++ rest) .plain (bound + 1) (Text.byteCount past')
            rest).map (before (d.placeholder (bound + 1)).toList [v]) := by
  obtain ⟨hwhole, hnext⟩ := whole_next past ':' cs
  have hparts : cs.takeWhile Char.isAlphanum ++ cs.dropWhile Char.isAlphanum = cs :=
    List.takeWhile_append_dropWhile
  have hwhole' : past ++ [':'] ++ cs.takeWhile Char.isAlphanum ++ cs.dropWhile Char.isAlphanum
      = past ++ ':' :: cs := by
    rw [List.append_assoc _ _ (cs.dropWhile _), hparts, ← hwhole]
  have hslice := Text.slice?_append (past ++ [':']) (cs.takeWhile Char.isAlphanum)
    (cs.dropWhile Char.isAlphanum)
  rw [hparts, ← hwhole] at hslice
  rw [scanSlicing, if_neg (by decide), if_pos ⟨rfl, h⟩]
  simp only [hnext, nameEnd_eq, hslice, hwhole', Text.byteCount_append _ (cs.takeWhile _)]

/-- No cut of a scan goes through a character, and a scan that cuts gives what one does that reads
the names. -/
theorem scanSlicing_eq (d : Dialect) (bindings : NameMap Value) (mode : Mode) (bound : Nat)
    (past cs : List Char) :
    scanSlicing d bindings (past ++ cs) mode bound (Text.byteCount past) cs
      = some (scan d bindings mode bound cs) := by
  fun_induction scan d bindings mode bound cs generalizing past with
  | case1 => rw [scanSlicing]
  | case2 bound c cs q ih =>
    obtain ⟨hwhole, hnext⟩ := whole_next past c cs
    rw [scanSlicing, hwhole, hnext]
    simp only [← dite_eq_ite, ih, Option.map_some]
  | case3 bound c cs hquote ih =>
    obtain ⟨hwhole, hnext⟩ := whole_next past c cs
    rw [scanSlicing, if_pos hquote, hwhole, hnext, ih]
    rfl
  | case4 bound c cs hquote hcolon name hnone =>
    obtain ⟨rfl, halpha⟩ := hcolon
    rw [scanSlicing_colon halpha]
    simp only [name] at hnone ⊢
    rw [hnone]
  | case5 bound c cs hquote hcolon name rest hnull ih =>
    obtain ⟨rfl, halpha⟩ := hcolon
    rw [scanSlicing_colon halpha]
    simp only [name, rest] at hnull ih ⊢
    rw [hnull, ih]
    rfl
  | case6 bound c cs hquote hcolon name rest v hv hsome ih =>
    obtain ⟨rfl, halpha⟩ := hcolon
    rw [scanSlicing_colon halpha]
    simp only [name, rest] at hsome ih ⊢
    rw [hsome]
    simp only [ih]
    rfl
  | case7 bound c cs hquote hcolon ih =>
    obtain ⟨hwhole, hnext⟩ := whole_next past c cs
    rw [scanSlicing, if_neg hquote, if_neg hcolon, hwhole, hnext, ih]
    rfl

end Rebind

namespace NamedStatement

/-- Rebinding with names that are cut out of the text. -/
def rebindSlicing (s : NamedStatement) (d : Dialect) :
    Option (Except SqlError NumberedStatement) :=
  (Rebind.scanSlicing d s.bindings s.sql.toList .plain 0 0 s.sql.toList).map fun
    | .error e => .error e
    | .ok (text, values) => .ok ⟨String.ofList text, values⟩

theorem rebindSlicing_eq (s : NamedStatement) (d : Dialect) :
    s.rebindSlicing d = some (s.rebind d) := by
  have h := Rebind.scanSlicing_eq d s.bindings .plain 0 [] s.sql.toList
  rw [List.nil_append, Text.byteCount_nil] at h
  rw [rebindSlicing, rebind, h]
  rfl

end NamedStatement

end RecordGateway
