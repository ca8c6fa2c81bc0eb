import AquariumControl.Storage.Basic

/-!
# Memory cards

On a memory card every value is a file: the value of `key` in `space` is the file `key.cfg` in the
directory `space` below the place where the card is mounted.

`Volume` is the tree of files and directories, as a table from full paths to what is there.  Names
are looked up one component at a time, starting at the root: `.` and empty components stay where
they are, `..` goes up, and every component but the last must be a directory.  Spaces and keys are
used as they are, so a key may contain several components; an absolute space or key leaves the
card's directory.  Writing makes the directories that are missing, and a path of a directory ends
with the last component that leads somewhere: what follows it does not count for its length.

Users of the card learn only that something failed (`FileError.storageError`); why it failed is
reported.
-/

set_option autoImplicit false

namespace AquariumControl

/-- What is at a path. -/
inductive Node
  | file (bytes : List UInt8)
  | directory
deriving DecidableEq

/-- A directory or file by the way to it from the root. -/
structure Place where
  /-- How many names there are.  Places at different depths are told apart without their names. -/
  depth : Nat
  /-- Plain names, the last one first. -/
  names : List String
  length_names : names.length = depth
deriving DecidableEq

namespace Place

def root : Place := ⟨0, [], rfl⟩

/-- What has a name in a directory. -/
def child (p : Place) (name : String) : Place :=
  ⟨p.depth + 1, name :: p.names, by simp [p.length_names]⟩

/-- The directory that holds a place.  The root holds itself. -/
def up (p : Place) : Place :=
  ⟨p.depth - 1, p.names.drop 1, by simp [p.length_names]⟩

theorem ext_names {p q : Place} (h : p.names = q.names) : p = q := by
  obtain ⟨_, _, rfl⟩ := p
  obtain ⟨_, _, rfl⟩ := q
  cases h
  rfl

@[simp] theorem up_root : root.up = root := rfl

@[simp] theorem up_child (p : Place) (name : String) : (p.child name).up = p :=
  ext_names rfl

end Place

/-- Files and directories by their paths.  The root is always there. -/
structure Volume where
  nodes : Table Place Node

namespace Volume

/-- The most bytes in a name. -/
def nameLimit : Nat := 255

/-- The most bytes in a path, counted before it is looked up. -/
def pathLimit : Nat := 4095

def node? (v : Volume) (place : Place) : Option Node :=
  if place = .root then some .directory else v.nodes.get? place

/-! ## Paths as text -/

/-- The components of a path. -/
def components (path : String) : List String :=
  (path.split '/').toList.map String.Slice.copy

theorem components_eq (path : String) :
    components path = (path.toList.splitOn '/').map String.ofList :=
  String.toList_split_char

/-- The path with given components. -/
def ofComponents (names : List String) : String :=
  "/".intercalate names

/-- A component that leads nowhere else. -/
def isIdle (name : String) : Bool :=
  name == "" || name == "."

/-- The components of the directory that holds the last component of a path.  Idle components at
its end are not part of it. -/
def parent (path : String) : List String :=
  ((components path).dropLast.reverse.dropWhile isIdle).reverse

def isAbsolute (path : String) : Bool :=
  path.startsWith "/"

/-- A path relative to a directory; an absolute path is taken as it is. -/
def join (directory path : String) : String :=
  if isAbsolute path then path
  else if directory.endsWith "/" then directory ++ path
  else directory ++ "/" ++ path

/-- Refuses a path that cannot even be looked up. -/
def check (path : String) : Except FileError Unit :=
  if path.contains '\x00' then .error .containsNul
  else if pathLimit < path.utf8ByteSize then .error .nameTooLong
  else .ok ()

/-! ## Looking up -/

/-- Goes from a directory to one of its components. -/
def step (here : Place) (name : String) : Except FileError Place :=
  if isIdle name then .ok here
  else if name = ".." then .ok here.up
  else if nameLimit < name.utf8ByteSize then .error .nameTooLong
  else .ok (here.child name)

/-- Follows the components of a path through existing directories.  The place that is reached need
not exist, but everything on the way to it must. -/
def walk (v : Volume) : Place → List String → Except FileError Place
  | here, [] => .ok here
  | here, name :: rest =>
    match v.node? here with
    | none => .error .absent
    | some (.file _) => .error .notDirectory
    | some .directory =>
      match step here name with
      | .error e => .error e
      | .ok there => walk v there rest

/-- The place that a path leads to. -/
def locate (v : Volume) (path : String) : Except FileError Place :=
  match check path with
  | .error e => .error e
  | .ok () => v.walk .root (components path)

/-- The contents of the file at a path. -/
def readFile (v : Volume) (path : String) : Except FileError (List UInt8) :=
  match v.locate path with
  | .error e => .error e
  | .ok place =>
    match v.node? place with
    | none => .error .absent
    | some .directory => .error .isDirectory
    | some (.file bytes) => .ok bytes

/-! ## Changing -/

/-- Follows the components of a path and makes the directories that are missing.  `made` says
whether one was missing before: then every further one is made by itself, and a file is met only
as something that is there already. -/
def makeDirectories (v : Volume) (made : Bool) :
    Place → List String → Except FileError Unit × Volume
  | _, [] => (.ok (), v)
  | here, name :: rest =>
    match step here name with
    | .error e => (.error e, v)
    | .ok there =>
      match v.node? there with
      | some (.file _) =>
        (.error (if made || rest.isEmpty then .alreadyThere else .notDirectory), v)
      | some .directory => makeDirectories v made there rest
      | none => makeDirectories ⟨v.nodes.put there .directory⟩ true there rest

/-- Makes the directories that are missing on the way to the last component of a path. -/
def makeParents (v : Volume) (path : String) : Except FileError Unit × Volume :=
  match check (ofComponents (parent path)) with
  | .error e => (.error e, v)
  | .ok () => v.makeDirectories false .root (parent path)

/-- Replaces the contents of a file, or makes the file in a directory that is there. -/
def writeFile (v : Volume) (path : String) (bytes : List UInt8) :
    Except FileError Unit × Volume :=
  match v.locate path with
  | .error e => (.error e, v)
  | .ok place =>
    match v.node? place with
    | some .directory => (.error .isDirectory, v)
    | _ => (.ok (), ⟨v.nodes.put place (.file bytes)⟩)

/-- Removes a file. -/
def removeFile (v : Volume) (path : String) : Except FileError Unit × Volume :=
  match v.locate path with
  | .error e => (.error e, v)
  | .ok place =>
    match v.node? place with
    | none => (.error .absent, v)
    | some .directory => (.error .isDirectory, v)
    | some (.file _) => (.ok (), ⟨v.nodes.erase place⟩)

end Volume

/-- What is reported of a file that could not be used; nothing if it is just not there. -/
def FileError.journal : FileError → Journal
  | .absent => []
  | e => [.notice (.fileRefused e)]

/-- A mounted card. -/
structure Card where
  volume : Volume
  /-- Where the card is mounted. -/
  mount : String

namespace Card

/-- A card with nothing on it. -/
def empty : Card where
  volume := ⟨Table.empty.put (Place.root.child "sdcard") .directory⟩
  mount := "/sdcard"

/-- The directory of a space. -/
def directory (c : Card) (space : String) : String :=
  Volume.join c.mount space

/-- The file of a key in a space. -/
def path (c : Card) (space key : String) : String :=
  Volume.join (c.directory space) (key ++ ".cfg")

/-- The card after an operation that failed. -/
def refuse (c : Card) (e : FileError) (volume : Volume) :
    Outcome Card (Except StorageError Unit) :=
  ⟨.error e.storageError, { c with volume := volume }, e.journal⟩

/-- Reads a whole file into a buffer. -/
def read (c : Card) (space key : String) (capacity : Nat) :
    Except StorageError Block × Journal :=
  match c.volume.readFile (c.path space key) with
  | .error e => (.error e.storageError, e.journal)
  | .ok bytes => (Storage.copy (some bytes) capacity, [])

/-- Makes the directories on the way to a file and writes it.  The directories stay if the file
cannot be written. -/
def write (c : Card) (space key : String) (bytes : List UInt8) :
    Outcome Card (Except StorageError Unit) :=
  let path := c.path space key
  match c.volume.makeParents path with
  | (.error e, volume) => c.refuse e volume
  | (.ok (), volume) =>
    match volume.writeFile path bytes with
    | (.error e, volume) => c.refuse e volume
    | (.ok (), volume) =>
      ⟨.ok (), { c with volume := volume }, [.notice (.fileWritten path bytes.length)]⟩

/-- Removes a file, if there is one. -/
def delete (c : Card) (space key : String) : Outcome Card (Except StorageError Unit) :=
  match c.volume.removeFile (c.path space key) with
  | (.ok (), volume) => ⟨.ok (), { c with volume := volume }, []⟩
  | (.error .absent, _) => ⟨.ok (), c, []⟩
  | (.error e, volume) => c.refuse e volume

/-- Whether there is such a file. -/
def holds (c : Card) (space key : String) : Bool :=
  (c.volume.readFile (c.path space key)).toBool

instance : Storage Card where
  read := Card.read
  write := Card.write
  delete := Card.delete
  holds := Card.holds

end Card

end AquariumControl
