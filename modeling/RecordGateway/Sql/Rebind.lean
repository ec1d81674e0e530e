import RecordGateway.Sql.Statement

/-!
# From named to numbered values

Databases take values by number.  Rebinding goes through the text of a statement once: a colon
and the letters and digits behind it, outside quotes, become the mark for the next number, or
`NULL` if the value is null, and the values are listed in the order of their marks.  Everything
else stays as it is.
-/

namespace RecordGateway

/-- A statement in which values are numbered from one, with the values. -/
structure NumberedStatement where
  /-- The text, with the dialect's marks. -/
  sql : String
  /-- The values, the first of them first. -/
  values : List Value
  deriving DecidableEq

namespace Rebind

/-- Where a scan stands: outside quotes, or behind a quote that the same character closes. -/
inductive Mode
  | plain
  | inside (quote : Char)
  deriving DecidableEq, Repr

/-- Text and values written so far are put in front of what the rest of a scan gives. -/
def before (text : List Char) (values : List Value) :
    Except SqlError (List Char × List Value) → Except SqlError (List Char × List Value)
  | .error e => .error e
  | .ok (t, vs) => .ok (text ++ t, values ++ vs)

/-- Rebinds the rest of a text, `bound` values having been numbered before. -/
def scan (d : Dialect) (bindings : NameMap Value) (mode : Mode) (bound : Nat) :
    List Char → Except SqlError (List Char × List Value)
  | [] => .ok ([], [])
  | c :: cs =>
    match mode with
    | .inside q =>
      before [c] [] (scan d bindings (if c = q then .plain else mode) bound cs)
    | .plain =>
      if c = '"' ∨ c = '\'' then before [c] [] (scan d bindings (.inside c) bound cs)
      else if c = ':' ∧ cs.head?.any Char.isAlpha then
        let name := String.ofList (cs.takeWhile Char.isAlphanum)
        let rest := cs.dropWhile Char.isAlphanum
        match bindings.get? name with
        | none => .error (.missingBinding name)
        | some .null => before "NULL".toList [] (scan d bindings .plain bound rest)
        | some v =>
          before (d.placeholder (bound + 1)).toList [v] (scan d bindings .plain (bound + 1) rest)
      else before [c] [] (scan d bindings .plain bound cs)
termination_by cs => cs.length
decreasing_by
  all_goals
    simp only [List.length_cons]
    first
      | exact Nat.lt_succ_self _
      | exact Nat.lt_succ_of_le (List.dropWhile_sublist _).length_le

end Rebind

namespace NamedStatement

/-- The statement with its values numbered as a dialect does. -/
def rebind (s : NamedStatement) (d : Dialect) : Except SqlError NumberedStatement :=
  match Rebind.scan d s.bindings .plain 0 s.sql.toList with
  | .error e => .error e
  | .ok (text, values) => .ok ⟨String.ofList text, values⟩

end NamedStatement

end RecordGateway
