/-
# Volumes

The files, directories and devices that a program can reach.  A path is resolved name by name from
the root or from the current directory, through links if it comes to any; opening one for writing
makes an empty file of it or says why it cannot.
-/

namespace Conformance

/-- Why a file cannot be written. -/
inductive FileFault where
  /-- There is nothing at some name of the path. -/
  | noEntry
  /-- Some name of the path that is not the last leads to something else than a directory. -/
  | notDirectory
  /-- The path leads to a directory. -/
  | isDirectory
  /-- The path leads to a device that is not connected. -/
  | noDevice
  /-- The path leads to the program that runs. -/
  | busy
  /-- There is no space left. -/
  | noSpace
  /-- A name of the path, or the path as a whole, is too long. -/
  | nameTooLong
  /-- There is a zero byte in the path. -/
  | zeroByte
  /-- The program may not write there. -/
  | denied
  /-- Nothing can be changed in this part of the volume. -/
  | readOnly
  /-- The user has no space left. -/
  | quota
  /-- The device does not work. -/
  | broken
  deriving DecidableEq

/-- The text shown for a fault. -/
def FileFault.message : FileFault → String
  | noEntry => "No such file or directory (os error 2)"
  | notDirectory => "Not a directory (os error 20)"
  | isDirectory => "Is a directory (os error 21)"
  | noDevice => "No such device or address (os error 6)"
  | busy => "Text file busy (os error 26)"
  | noSpace => "No space left on device (os error 28)"
  | nameTooLong => "File name too long (os error 36)"
  | zeroByte => "file name contained an unexpected NUL byte"
  | denied => "Permission denied (os error 13)"
  | readOnly => "Read-only file system (os error 30)"
  | quota => "Disk quota exceeded (os error 122)"
  | broken => "Input/output error (os error 5)"

/-- The streams that a program is started with. -/
inductive StandardStream where
  /-- Standard input.  Nobody reads what is written to it. -/
  | input
  /-- Standard output. -/
  | output
  /-- The console. -/
  | console
  deriving DecidableEq

/-- What a name can stand for. -/
inductive Node where
  /-- A directory. -/
  | directory
  /-- A directory in which nothing can be made. -/
  | fixedDirectory
  /-- A file with its content. -/
  | file (content : List UInt8)
  /-- A device that swallows everything. -/
  | sinkhole
  /-- Something that can be opened, but takes nothing, and why. -/
  | refusing (fault : FileFault)
  /-- Something that cannot be opened for writing, and why. -/
  | closed (fault : FileFault)
  /-- A stream of the program. -/
  | stream (s : StandardStream)
  /-- A link to a place, where there is no other link. -/
  | link (target : List String)
  deriving DecidableEq

/-- Whether a node is a directory. -/
def Node.isDirectory : Node → Bool
  | directory | fixedDirectory => true
  | _ => false

/-- Room for a number of bytes, `none` for any number. -/
abbrev Room := Option Nat

/-- How many of `offered` bytes there is room for. -/
def Room.allows : Room → Nat → Nat
  | none, offered => offered
  | some left, offered => min offered left

/-- What is left of the room after `taken` bytes. -/
def Room.less (room : Room) (taken : Nat) : Room := room.map (· - taken)

/-- The room with that of `freed` bytes added. -/
def Room.more (room : Room) (freed : Nat) : Room := room.map (· + freed)

/-- Nodes by the names on the way from the root, and the current directory. -/
structure Volume where
  /-- Everything but the root. -/
  nodes : List (List String × Node)
  /-- Where paths that do not begin at the root start from. -/
  current : List String
  /-- The room that is left for the content of files. -/
  room : Room := none
  deriving DecidableEq

namespace Volume

/-- What is at a place, which is given by the names from the root. -/
def node? (v : Volume) (place : List String) : Option Node :=
  if place = [] then some .directory else v.nodes.lookup place

/-- Puts a node at a place, over what was there. -/
def put (v : Volume) (place : List String) (node : Node) : Volume :=
  { v with nodes := (place, node) :: v.nodes.filter (·.1 != place) }

/-- Makes the directories that `names` lead through from the directory `here`, as far as they are
not there. -/
def makeDirectories (v : Volume) (here : List String) : List String → Volume
  | [] => v
  | name :: rest =>
    if name = "." then makeDirectories v here rest
    else if name = ".." then makeDirectories v here.dropLast rest
    else
      let place := here ++ [name]
      let made := if (v.node? place).isSome then v else v.put place .directory
      made.makeDirectories place rest

/-- The names of a path, which are what stands between its slashes. -/
def names (path : List Char) : List String :=
  match path with
  | [] => []
  | c :: rest =>
    if c = '/' then names rest
    else
      let name := rest.takeWhile (· != '/')
      String.ofList (c :: name) :: names (rest.drop name.length)
termination_by path.length
decreasing_by all_goals (simp only [List.length_cons, List.length_drop]; omega)

/-- How many bytes a name can have. -/
def maxNameSize : Nat := 255

/-- How many bytes a path can have. -/
def maxPathSize : Nat := 4095

/-- The place that a link leads to; what is no link leads to itself. -/
def follow (v : Volume) (place : List String) : List String :=
  match v.node? place with
  | some (.link target) => target
  | _ => place

/-- Whether nothing can be made in a directory. -/
def isFixed (v : Volume) (here : List String) : Bool := v.node? here == some .fixedDirectory

/-- The place that a name in the directory `here` leads to.  Where nothing can be made, a name that
is too long is just one that is not there. -/
def look (v : Volume) (here : List String) (name : String) : Except FileFault (List String) :=
  if maxNameSize < name.utf8ByteSize then
    .error (if v.isFixed here then .noEntry else .nameTooLong)
  else .ok (v.follow (here ++ [name]))

/-- The place of a file to be written, which has a name in the directory `here`. -/
def locateFile (v : Volume) (here : List String) (name : String) :
    Except FileFault (List String) :=
  match v.look here name with
  | .error fault => .error fault
  | .ok place =>
    match v.node? place with
    | none => if v.isFixed here then .error .noEntry else .ok place
    | some (.closed fault) => .error fault
    | some node => if node.isDirectory then .error .isDirectory else .ok place

/-- The place of a directory that has a name in the directory `here`. -/
def locateDirectory (v : Volume) (here : List String) (name : String) :
    Except FileFault (List String) :=
  match v.look here name with
  | .error fault => .error fault
  | .ok place =>
    match v.node? place with
    | none => .error .noEntry
    | some node => if node.isDirectory then .ok place else .error .notDirectory

/-- Where a file to be written is, following `names` from the directory `here`.  A slash at the
end of a path asks for a directory. -/
def locate (v : Volume) (slash : Bool) (here : List String) : List String →
    Except FileFault (List String)
  | [] => .error .isDirectory
  | [name] =>
    if name = "." ∨ name = ".." ∨ slash then .error .isDirectory else v.locateFile here name
  | name :: rest =>
    if name = "." then locate v slash here rest
    else if name = ".." then locate v slash here.dropLast rest
    else match v.locateDirectory here name with
      | .error fault => .error fault
      | .ok place => locate v slash place rest

/-- Where a path leads to, for writing. -/
def resolve (v : Volume) (path : String) : Except FileFault (List String) :=
  if path.toList.contains '\x00' then .error .zeroByte
  else if maxPathSize < path.utf8ByteSize then .error .nameTooLong
  else match path.toList with
  | [] => .error .noEntry
  | first :: rest =>
    let start := if first = '/' then [] else v.current
    v.locate ((first :: rest).getLast? == some '/') start (names (first :: rest))

/-- Opens a path for writing: a file that is there is emptied, and one is made if there is none.
Devices and streams stay as they are. -/
def create (v : Volume) (path : String) : Except FileFault (List String × Volume) :=
  match v.resolve path with
  | .error fault => .error fault
  | .ok place =>
    match v.node? place with
    | none => .ok (place, v.put place (.file []))
    | some (.file content) =>
      .ok (place, { v.put place (.file []) with room := v.room.more content.length })
    | some _ => .ok (place, v)

/-- Adds bytes at the end of a file, as many as there is room for. -/
def extend (v : Volume) (place : List String) (content bytes : List UInt8) :
    Except FileFault (Nat × Volume) :=
  let taken := v.room.allows bytes.length
  if taken = 0 ∧ bytes ≠ [] then .error .noSpace
  else
    .ok (taken,
      { v.put place (.file (content ++ bytes.take taken)) with room := v.room.less taken })

/-- Offers bytes to what is at a place, and answers how many of them were taken.  What is written to
a stream is kept by those who have it at its other end. -/
def append (v : Volume) (place : List String) (bytes : List UInt8) :
    Except FileFault (Nat × Volume) :=
  match v.node? place with
  | some (.file content) => v.extend place content bytes
  | some .sinkhole | some (.stream _) => .ok (bytes.length, v)
  | some (.refusing fault) => .error fault
  | some (.closed fault) => .error fault
  | some .directory | some .fixedDirectory => .error .isDirectory
  | some (.link _) | none => .error .noEntry

/-- The files below a directory, by the rest of their path. -/
def filesBelow (v : Volume) (directory : List String) : List (String × List UInt8) :=
  v.nodes.filterMap fun (place, node) =>
    match node with
    | .file content =>
      if directory.isPrefixOf place then
        some ("/".intercalate (place.drop directory.length), content)
      else none
    | _ => none

end Volume

end Conformance
