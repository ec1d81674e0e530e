import RecordGateway.Settings.Basic
import RecordGateway.Text.Basic
import RecordGateway.Text.Quoted
import RecordGateway.Text.Unicode

/-!
# Environment files

A file of lines `NAME=value` adds variables to the environment; those that are there already stay
as they are.  Values may be quoted, and other variables may be referred to behind a dollar sign,
outside single quotes.  Reading ends at the first line that is not well formed, and what stands
before it counts.
-/

namespace RecordGateway.EnvFile

/-- The name of the file, which is in the working directory. -/
def name : String := ".env"

/-- The variables of the lines read so far, the last first. -/
abbrev Known := List (String × String)

/-- The value that a reference stands for: that of the environment, else that of an earlier line,
else nothing. -/
def referred (env : Environment) (known : Known) (name : List Char) : List Char :=
  let n := String.ofList name
  ((env.lookup n <|> known.lookup n).getD "").toList

/-- A reference whose name is being read. -/
structure Reference where
  /-- Is it in braces? -/
  braced : Bool
  /-- The name so far. -/
  name : List Char

/-- How much of a value has been read. -/
structure ValueState where
  /-- Between single quotes. -/
  strong : Bool := false
  /-- Between double quotes. -/
  weak : Bool := false
  /-- Behind a backslash. -/
  escaped : Bool := false
  /-- Behind a blank, where nothing but a comment may follow. -/
  ended : Bool := false
  reference : Option Reference := none
  /-- The value so far. -/
  text : List Char := []

/-- The state with more of the value read. -/
def ValueState.push (s : ValueState) (cs : List Char) : ValueState :=
  { s with text := s.text ++ cs }

/-- The value at the end of a line, where all quotes and braces have to be closed. -/
def ValueState.finish (look : List Char → List Char) (s : ValueState) : Option (List Char) :=
  if s.strong || s.weak then none
  else
    match s.reference with
    | none => some s.text
    | some r => if r.braced then none else some (s.text ++ look r.name)

/-- One character of a value outside references. -/
def ValueState.plain (s : ValueState) (c : Char) : ValueState :=
  if c = '$' then { s with reference := some ⟨false, []⟩ }
  else if s.weak then
    if c = '"' then { s with weak := false }
    else if c = '\\' then { s with escaped := true }
    else s.push [c]
  else if c = '\'' then { s with strong := true }
  else if c = '"' then { s with weak := true }
  else if c = '\\' then { s with escaped := true }
  else if c = ' ' ∨ c = '\t' then { s with ended := true }
  else s.push [c]

/-- One character of a reference. -/
def ValueState.refer (look : List Char → List Char) (s : ValueState) (r : Reference) (c : Char) :
    ValueState :=
  if Text.isAlphanumeric c then { s with reference := some { r with name := r.name ++ [c] } }
  else if r.braced then
    if c = '\x7d' then { s.push (look r.name) with reference := none }
    else { s with reference := some { r with name := r.name ++ [c] } }
  else if c = '\x7b' ∧ r.name.isEmpty then { s with reference := some { r with braced := true } }
  else
    let s := s.push (look r.name)
    if c = '$' then { s with reference := some ⟨false, []⟩ }
    else { s.push [c] with reference := none }

/-- Reads a value to the end of its line. -/
def readValue (look : List Char → List Char) (s : ValueState) :
    List Char → Option (List Char)
  | [] => s.finish look
  | c :: cs =>
    if s.ended then
      if c = ' ' ∨ c = '\t' then readValue look s cs
      else if c = '#' then s.finish look
      else none
    else if s.escaped then
      if c = '\\' ∨ c = '\'' ∨ c = '"' ∨ c = '$' ∨ c = ' ' then
        readValue look { s.push [c] with escaped := false } cs
      else if c = 'n' then readValue look { s.push ['\n'] with escaped := false } cs
      else none
    else if s.strong then
      readValue look (if c = '\'' then { s with strong := false } else s.push [c]) cs
    else
      match s.reference with
      | some r => readValue look (s.refer look r c) cs
      | none => readValue look (s.plain c) cs

/-- May a character stand in a name, behind the first? -/
def isNameChar (c : Char) : Bool := c.isAlphanum || c == '_' || c == '.'

/-- Reads a name. -/
def readName? (cs : List Char) : Option (String × List Char) :=
  match cs with
  | c :: _ =>
    if c.isAlpha || c == '_' then
      some (String.ofList (cs.takeWhile isNameChar), cs.dropWhile isNameChar)
    else none
  | [] => none

/-- Passes over blanks. -/
def skipBlanks (cs : List Char) : List Char := cs.dropWhile Text.isBlank

/-- Reads a name and the equals sign behind it.  The word `export` may stand in front. -/
def readTarget? (cs : List Char) : Option (String × List Char) := do
  let (name, rest) ← readName? cs
  match skipBlanks rest with
  | '=' :: rest => some (name, rest)
  | rest =>
    if name = "export" then
      let (name, rest) ← readName? rest
      match skipBlanks rest with
      | '=' :: rest => some (name, rest)
      | _ => none
    else none

/-- What a line says. -/
inductive Line
  /-- It holds no variable. -/
  | blank
  | assignment (name value : String)
  | malformed
  deriving DecidableEq, Repr

/-- Reads a line. -/
def readLine (env : Environment) (known : Known) (line : List Char) : Line :=
  match Text.trim line with
  | [] => .blank
  | '#' :: _ => .blank
  | cs =>
    match readTarget? cs with
    | none => .malformed
    | some (name, rest) =>
      match skipBlanks rest with
      | [] => .assignment name ""
      | '#' :: _ => .assignment name ""
      | value =>
        match readValue (referred env known) {} value with
        | none => .malformed
        | some v => .assignment name (String.ofList v)

/-- A variable whose value has a NUL character in it, which no environment can hold. -/
structure BadVariable where
  name : String
  value : String
  deriving DecidableEq, Repr

def BadVariable.message (v : BadVariable) : String :=
  "failed to set environment variable " ++ Text.quoted v.name ++ " to " ++ Text.quoted v.value

/-- The environment with a variable added, unless it has one of that name. -/
def addVariable (env : Environment) (name value : String) : Except BadVariable Environment :=
  if (env.lookup name).isSome then .ok env
  else if value.toList.contains '\x00' then .error ⟨name, value⟩
  else .ok (env ++ [(name, value)])

/-- The environment with the variables of lines added. -/
def addLines (env : Environment) (known : Known) :
    List (List Char) → Except BadVariable Environment
  | [] => .ok env
  | line :: lines =>
    match readLine env known line with
    | .blank => addLines env known lines
    | .malformed => .ok env
    | .assignment name value =>
      match addVariable env name value with
      | .error e => .error e
      | .ok env => addLines env ((name, value) :: known) lines

/-- The environment with the variables of a file added. -/
def load (env : Environment) (content : String) : Except BadVariable Environment :=
  addLines env [] (content.toList.splitOn '\n')

/-- The names of variables that stand somewhere in a file. -/
def mentioned (content : String) : List String :=
  let words (isIn : Char → Bool) : List String :=
    (content.toList.splitBy fun a b ↦ isIn a == isIn b).map String.ofList
  words isNameChar ++ words Text.isAlphanumeric

end RecordGateway.EnvFile
