import PullReview.Files.Path
import PullReview.Keyed
import PullReview.Run
import PullReview.Text.Utf8
/-!
# Files

The files that a run can see, by the names that lead to them: from its working directory, with double dots in front if
they lead out of it, or from the root, with a slash in front.  A walk along a path goes up at double dots and fails at the
first name that is missing, that is a file with more after it, or that is longer than names can be.  A directory that is a
clone carries the address it was cloned from, which goes when the directory is removed or emptied.
-/
namespace PullReview

inductive FileEntry where
  | file (bytes : List UInt8)
  | directory (origin : Option String := none)
deriving DecidableEq

def FileEntry.plain : FileEntry → FileEntry
  | .file bytes => .file bytes
  | .directory _ => .directory

structure Files where
  entries : List (List String × FileEntry)

inductive Found where
  | file (bytes : List UInt8)
  | directory (place : List String)
  | missing
  /-- A file stands where a directory would have to. -/
  | blocked
  /-- A name, or the path as a whole, has too many octets. -/
  | tooLong
  /-- The path holds a null character, which no path can. -/
  | unspeakable
deriving DecidableEq

namespace Files

def empty : Files := ⟨[]⟩

def get? (fs : Files) (names : List String) : Option FileEntry :=
  (fs.entries.find? fun e => e.1 = names).map Prod.snd

def putEntry (fs : Files) (names : List String) (entry : FileEntry) : Files :=
  ⟨putBy Prod.fst (names, entry) fs.entries⟩

def isInside (dir names : List String) : Bool :=
  dir.isPrefixOf names &&
    match names.drop dir.length with
    | [] => false
    -- what is around the working directory or below the root is not in the working directory
    | name :: _ => name ≠ ".." && name ≠ "/"

/-- A clone is a plain directory once it is emptied. -/
def emptied (dir : List String) (e : List String × FileEntry) : List String × FileEntry :=
  (e.1, if e.1 = dir then e.2.plain else e.2)

def clear (fs : Files) (dir : List String) : Files :=
  ⟨(fs.entries.filter fun e => !isInside dir e.1).map (emptied dir)⟩

def remove (fs : Files) (names : List String) : Files :=
  ⟨fs.entries.filter fun e => e.1 ≠ names && !isInside names e.1⟩

/-! ## Walks -/

def nameLimit : Nat := 255

def pathLimit : Nat := 4095

def rootPlace : List String := ["/"]

def startOf (isAbsolute : Bool) : List String := if isAbsolute then rootPlace else []

/-- The root, or the working directory or one that it is in. -/
def isBase (names : List String) : Bool := names = rootPlace || names.all (· = "..")

/-- The directory above.  There is none above the root. -/
def up (names : List String) : List String :=
  if names = rootPlace then names else if isBase names then names ++ [".."] else names.dropLast

/-- A walk from a directory; an empty name or a single dot stays in it. -/
def walk (fs : Files) (here : List String) : List String → Found
  | [] => .directory here
  | name :: rest =>
    if name = "" || name = "." then walk fs here rest
    else if name = ".." then walk fs (up here) rest
    else if nameLimit < name.utf8ByteSize then .tooLong
    else
      match fs.get? (here ++ [name]) with
      | some (.directory _) => walk fs (here ++ [name]) rest
      | some (.file bytes) => if rest.isEmpty then .file bytes else .blocked
      | none => .missing

/-- What a path, just as it is written, leads to. -/
def find (fs : Files) (written : String) : Found :=
  if written.toList.contains '\x00' then .unspeakable
  else if written = "" then .missing
  else if pathLimit < written.utf8ByteSize then .tooLong
  else
    fs.walk (startOf (Text.startsWith "/" written)) ((Text.splitOn '/' written.toList).map String.ofList)

/-- Whether a path leads to anything; a path that is too long is refused. -/
def hasPath (fs : Files) (p : Path) : Except Fault Bool :=
  match fs.find p.toString with
  | .file _ | .directory _ => .ok true
  | .missing | .blocked | .unspeakable => .ok false
  | .tooLong => .error (.nameTooLong p.toString)

/-- Removes a directory with everything in it.  First it is emptied; then the path has to lead to it still, so a path
that passes through what was in it leaves the empty directory behind. -/
def removeTree (p : Path) : Run Files Unit := do
  match (← Run.state).find p.toString with
  | .directory place =>
    Run.update (·.clear place)
    if p.toString = "." then throw (.invalidRemoval p.toString)
    if (← Run.state).find p.toString = .directory place && !isBase place then Run.update (·.remove place)
    else throw (.noSuchFile p.toString)
  | .missing => throw (.noSuchFile p.toString)
  | .file _ | .blocked => throw (.notRemovable p.toString)
  | .tooLong => throw (.nameTooLong p.toString)
  | .unspeakable => throw .embeddedNull

/-! ## Clones -/

def origin? (fs : Files) (written : String) : Option String :=
  match fs.find written with
  | .directory place =>
    match fs.get? place with
    | some (.directory origin) => origin
    | _ => none
  | _ => none

def setOrigin (fs : Files) (written url : String) : Files :=
  match fs.find written with
  | .directory place => fs.putEntry place (.directory (some url))
  | _ => fs

/-! ## Contents -/

/-- The content of a file.  `written` is the path as it was given. -/
def read (fs : Files) (written : String) : Except Fault (List UInt8) :=
  match fs.find written with
  | .file bytes => .ok bytes
  | .directory _ => .error (.isDirectory written)
  | .missing => .error (.noSuchFile written)
  | .blocked => .error (.notDirectory written)
  | .tooLong => .error (.nameTooLong written)
  | .unspeakable => .error .embeddedNull

def decode (bytes : List UInt8) : Except Fault String :=
  match Text.decodeUtf8 bytes with
  | .ok s => .ok s
  | .error refusal => .error (.undecodable refusal)

def readText (fs : Files) (written : String) : Except Fault String := do
  let s ← decode (← fs.read written)
  return String.ofList (Text.unifyLineEnds s.toList)

def names (fs : Files) (dir : List String) : List String :=
  fs.entries.filterMap fun e => if isInside dir e.1 && e.1.length = dir.length + 1 then e.1.getLast? else none

end Files
end PullReview
