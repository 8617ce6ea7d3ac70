import PullReview.Files.Basic
/-!
# Making directories and files

One directory is made at a time, in a directory that is there, under a name that is free.  A way of several directories
is made from its beginning: what is missing above is made first, and stays when the last step fails.
-/
namespace PullReview
namespace Files

/-- Whether a path leads to anything; one that cannot be followed leads nowhere. -/
def isThere (fs : Files) (p : Path) : Bool :=
  match fs.find p.toString with
  | .file _ | .directory _ => true
  | _ => false

def isDirectory (fs : Files) (p : Path) : Bool :=
  match fs.find p.toString with
  | .directory _ => true
  | _ => false

/-- Where a path ends: the directory that its last name stands in, and that name. -/
def destination (fs : Files) (p : Path) : Except Fault (List String × Option String) :=
  if p.toString.toList.contains '\x00' then .error .embeddedNull
  else if pathLimit < p.toString.utf8ByteSize then .error (.nameTooLong p.toString)
  else
    match fs.walk (startOf p.isAbsolute) p.names.dropLast with
    | .directory above => .ok (above, p.names.getLast?)
    | .missing => .error (.noSuchFile p.toString)
    | .file _ | .blocked => .error (.notDirectory p.toString)
    | .tooLong => .error (.nameTooLong p.toString)
    | .unspeakable => .error .embeddedNull

/-- Makes a directory.  The name must be free; double dots never are. -/
def makeDirectory (p : Path) : Run Files Unit := do
  match ← Run.of ((← Run.state).destination p) with
  | (_, none) => throw (.fileExists p.toString)
  | (above, some name) =>
    if name = ".." then throw (.fileExists p.toString)
    else if nameLimit < name.utf8ByteSize then throw (.nameTooLong p.toString)
    else if ((← Run.state).get? (above ++ [name])).isSome then throw (.fileExists p.toString)
    else Run.update (·.putEntry (above ++ [name]) .directory)

def unlessThere (act : Run Files Unit) : Run Files Unit :=
  act.orElse fun
    | .fileExists _ => pure ()
    | cause => throw cause

/-- Makes the directory at the end of a way and what is missing above it.  The names stand last to first. -/
def makeBackwards (mayBeThere : Bool) (root : String) : List String → Run Files Unit
  | [] => if mayBeThere then pure () else throw (.fileExists (Path.toString ⟨root, []⟩))
  | name :: above => do
    let p : Path := ⟨root, (name :: above).reverse⟩
    if !above.isEmpty && !(← Run.state).isThere ⟨root, above.reverse⟩ then
      unlessThere (makeBackwards mayBeThere root above)
    (makeDirectory p).orElse fun cause => do
      if mayBeThere && (← Run.state).isDirectory p then pure () else throw cause

def makeNew (p : Path) : Run Files Unit := makeBackwards false p.root p.names.reverse

def ensure (p : Path) : Run Files Unit := makeBackwards true p.root p.names.reverse

def write (p : Path) (bytes : List UInt8) : Run Files Unit := do
  match ← Run.of ((← Run.state).destination p) with
  | (_, none) => throw (.isDirectory p.toString)
  | (above, some name) =>
    if (← Run.state).isDirectory p then throw (.isDirectory p.toString)
    else if nameLimit < name.utf8ByteSize then throw (.nameTooLong p.toString)
    else Run.update (·.putEntry (above ++ [name]) (.file bytes))

def bring (p : Path) : FileEntry → Run Files Unit
  | .directory _ => ensure p
  | .file bytes => do
    ensure ⟨p.root, p.names.dropLast⟩
    write p bytes

end Files
end PullReview
