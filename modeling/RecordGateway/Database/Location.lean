import RecordGateway.Database.Source
import RecordGateway.Text.Basic

/-!
# Where a database is

A database is opened at a place that a source gives, among the files that are there.
-/

namespace RecordGateway.Database

/-! ## Locations

The name that a source gives is taken as a path, unless it begins with `file:`.  Then it holds a
path and options of its own: an authority behind two slashes, which has to be empty or the local
host, the path with percent signs, options behind a question mark, and a fragment behind a `#`,
which does not count.  The options may ask for less than the source, not for more. -/

/-- The place of a database and what it may be used for. -/
structure Location where
  /-- The path of its file; the empty path is that of a file that nobody sees. -/
  path : String
  access : Access
  /-- Is the file taken for one that nobody changes? -/
  immutable : Bool
  /-- The name of the layer that files are reached through. -/
  layer : String
  deriving DecidableEq, Repr

/-- What an access allows, by how much. -/
def Access.rank (a : Access) : Nat :=
  if a.memory then 4 else if a.readOnly then 1 else if a.create then 3 else 2

namespace Location

/-- The layers that files can be reached through. -/
def fileLayers : List String := ["unix", "unix-none", "unix-dotfile", "unix-excl"]

/-- The layer that keeps files in memory. -/
def memoryLayer : String := "memdb"

/-- A part of a name in which percent signs are decoded, up to the first byte that is zero. -/
def decodePart (cs : List Char) : String :=
  String.ofList (((Text.Percent.decode? cs).getD "").toList.takeWhile (· != '\x00'))

/-- What stands before a fragment. -/
def withoutFragment (cs : List Char) : List Char := cs.takeWhile (· != '#')

/-- What follows the authority, if there is one and it is that of this machine. -/
def withoutAuthority? : List Char → Option (List Char)
  | '/' :: '/' :: cs =>
    let authority := cs.takeWhile (· != '/')
    if authority = [] ∨ authority = "localhost".toList then some (cs.dropWhile (· != '/')) else none
  | cs => some cs

/-- The words that switch an option on. -/
def isYes (value : String) : Bool :=
  ["1", "on", "yes", "true"].any fun w ↦ Text.sameIgnoringCase w value

/-- The access that the option `mode` asks for, and how much that is. -/
def modeAccess? (value : String) : Option (Access × Nat) :=
  if value = "ro" then some ({ readOnly := true }, 1)
  else if value = "rw" then some ({}, 2)
  else if value = "rwc" then some ({ create := true }, 3)
  else if value = "memory" then some ({ memory := true }, 0)
  else none

/-- The location with what an option asks for; an unknown one does not count. -/
def applyOption (l : Location) (key value : String) : Option Location :=
  if key = "mode" then
    match modeAccess? value with
    | some (access, rank) => if rank ≤ l.access.rank then some { l with access } else none
    | none => none
  else if key = "cache" then
    if value = "private" ∨ value = "shared" then some l else none
  else if key = "vfs" then some { l with layer := value }
  else if key = "immutable" then some { l with immutable := isYes value }
  else some l

/-- The location with what options ask for, as they are written. -/
def applyOptions (l : Location) : List (List Char × List Char) → Option Location
  | [] => some l
  | (key, value) :: ps =>
    if decodePart key = "" then applyOptions l ps
    else (l.applyOption (decodePart key) (decodePart value)).bind (applyOptions · ps)

/-- The location of a path that is reached through the usual layer. -/
def ofPath (path : String) (access : Access) : Location := ⟨path, access, false, "unix"⟩

/-- The location that a name stands for.  A path has no zero byte in it. -/
def ofName? (name : String) (access : Access) : Option Location :=
  if name.toList.contains '\x00' then none
  else
    match name.toList with
    | 'f' :: 'i' :: 'l' :: 'e' :: ':' :: cs => do
      let rest ← withoutAuthority? cs
      let (path, options) := Source.splitAt '?' (withoutFragment rest)
      (ofPath (decodePart path) access).applyOptions (Source.parameters (options.getD []))
    | _ => some (ofPath name access)

/-- The options that a source asks for besides its access. -/
def optionsText (s : Source) : List Char :=
  let immutable := if s.immutable then ["immutable=true".toList] else []
  let layer := s.layer?.toList.map fun l ↦ "vfs=".toList ++ l.toList
  ['&'].intercalate (immutable ++ layer)

/-- The location that a source stands for.  One that asks for options is written out as a name with
them. -/
def ofSource? (s : Source) : Option Location :=
  let options := optionsText s
  if options.isEmpty then ofName? s.name s.access
  else if options.contains '\x00' then none
  else
    let path := String.ofList (s.name.toList.takeWhile (· != '\x00'))
    (ofPath path s.access).applyOptions (Source.parameters (withoutFragment options))

/-- Is the database kept where no file is seen? -/
def isHidden (l : Location) : Bool :=
  l.access.memory || l.path.isEmpty || l.path == ":memory:"

/-- Can the layer be used? -/
def hasLayer (l : Location) : Bool := l.layer == memoryLayer || fileLayers.contains l.layer

/-- Does the database have a file? -/
def hasFile (l : Location) : Bool := !l.isHidden && l.layer != memoryLayer

/-- Can anything be written to the database? -/
def isWritable (l : Location) : Bool :=
  !l.access.readOnly && (!l.immutable || l.isHidden)

end Location

/-! ## Files

What is known of the file system, and what is there once a database has been opened.  Paths are
compared in a plain form, without needless slashes, dots and steps back. -/

/-- What is known of the files that are there. -/
structure Files where
  /-- The paths of files. -/
  present : List String := []
  /-- The paths of directories in which files can be made.  The empty path is that of the working
  directory. -/
  directories : List String := ["", "..", "/", "/tmp"]
  /-- The paths of files that hold something else than a database. -/
  foreign : List String := []
  deriving DecidableEq, Repr

namespace Files

/-- The directories passed through, the last of them first, after one more step from there. -/
def step (absolute : Bool) (passed : List (List Char)) (name : List Char) : List (List Char) :=
  if name = [] ∨ name = ['.'] then passed
  else if name = ['.', '.'] then
    match passed with
    | [] => if absolute then [] else [name]
    | d :: ds => if d = name then name :: d :: ds else ds
  else name :: passed

/-- The directory that a path leads to and the name in it, unless it leads to a directory. -/
def plain? (path : String) : Option (String × String) :=
  let absolute := path.toList.head? == some '/'
  match (path.toList.splitOn '/').foldl (step absolute) [] with
  | [] => none
  | name :: passed =>
    if name = ['.', '.'] then none
    else
      let directory := ['/'].intercalate passed.reverse
      some (String.ofList (if absolute then '/' :: directory else directory), String.ofList name)

/-- The path of a name in a directory. -/
def join (directory name : String) : String :=
  if directory = "" ∨ directory = "/" then directory ++ name else directory ++ "/" ++ name

/-- The most bytes that the name of a file can have. -/
def maxName : Nat := 255

/-- A file that is always there and always empty. -/
def nullDevice : String := "/dev/null"

/-- The directory and the name of the file of a location, if it has one. -/
def placeOf? (l : Location) : Option (String × String) :=
  if l.hasFile then plain? l.path else none

/-- The path of the file of a location, in its plain form. -/
def pathOf? (l : Location) : Option String := (placeOf? l).map fun p ↦ join p.1 p.2

/-- What is there once the database at a location has been opened, if it can be. -/
def openAt? (fs : Files) (l : Location) : Option Files :=
  if !l.hasLayer then none
  else if !l.hasFile then some fs
  else
    match plain? l.path with
    | none => none
    | some (directory, name) =>
      let path := join directory name
      if fs.present.contains path || path == nullDevice then some fs
      else if l.access.create && !l.access.readOnly && fs.directories.contains directory &&
          name.utf8ByteSize ≤ maxName then
        some { fs with present := fs.present ++ [path] }
      else none

/-- Can anything be written to the database at a location once it is open?  A file that holds
something else can be opened, but that is all. -/
def isWritable (fs : Files) (l : Location) : Bool :=
  l.isWritable && !(pathOf? l).any fs.foreign.contains

/-- The names of the files in the working directory. -/
def inWorkingDirectory (fs : Files) : List String :=
  fs.present.filter fun p ↦ !p.toList.contains '/'

end Files

end RecordGateway.Database
