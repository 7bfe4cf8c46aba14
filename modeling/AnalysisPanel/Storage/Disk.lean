import AnalysisPanel.Storage.Path
import AnalysisPanel.Text.Utf8

/-! A disk: directories and files by their place, and what may be asked of it. A request that fails
changes nothing. -/

namespace AnalysisPanel.Storage

/-- A place below the root: the names that lead to it. -/
abbrev Place := List String

/-- What is at a place. -/
inductive Node where
  | directory
  | file (content : Bytes)
  deriving DecidableEq, Inhabited

/-- Why a request failed. -/
inductive DiskError where
  | notFound
  | exists
  | notDirectory
  | isDirectory
  | nameTooLong
  | zeroInPath
  | fault (message : String)
  deriving DecidableEq, Inhabited

/-- A failure in words. -/
def DiskError.message : DiskError → String
  | .notFound => "No such file or directory (os error 2)"
  | .exists => "File exists (os error 17)"
  | .notDirectory => "Not a directory (os error 20)"
  | .isDirectory => "Is a directory (os error 21)"
  | .nameTooLong => "File name too long (os error 36)"
  | .zeroInPath => "file name contained an unexpected NUL byte"
  | .fault message => message

/-! ### Names of temporary files -/

/-- What the names of temporary files are drawn from. -/
def alphabet : List Char :=
  "0123456789ABCDEFGHIJKLMNOPQRSTUVWXYZabcdefghijklmnopqrstuvwxyz".toList

/-- What has been drawn for the name of a temporary file. Nothing more is known of it: a caller may
hit on the same name. -/
structure Draw where
  letters : List Char
  six : letters.length = 6
  plain : ∀ c ∈ letters, c ∈ alphabet
  deriving DecidableEq

/-- The name that was drawn. -/
def Draw.name (x : Draw) : String := ".tmp" ++ String.ofList x.letters

/-- The draw of a number, whose digits are letters of the alphabet. -/
def Draw.numbered (n : Nat) : Draw where
  letters := (List.range 6).map fun i => alphabet.getD (n / Nat.pow 62 i % 62) '0'
  six := by rw [List.length_map, List.length_range]
  plain := by
    intro c mem
    obtain ⟨i, -, rfl⟩ := List.mem_map.mp mem
    rw [List.getD_eq_getElem?_getD]
    cases found : alphabet[n / Nat.pow 62 i % 62]? with
    | none => decide
    | some c => exact List.mem_of_getElem? found

instance : Inhabited Draw := ⟨.numbered 0⟩

/-- The nodes of a disk, each once. The root itself is not among them. -/
structure Disk where
  nodes : List (Place × Node) := []
  deriving DecidableEq, Inhabited

namespace Disk

/-! ### Places -/

/-- What is at a place. -/
def node? (d : Disk) (place : Place) : Option Node :=
  if place = [] then some .directory
  else (d.nodes.find? fun entry => entry.1 == place).map (·.2)

/-- Leaves a place empty. -/
def clear (d : Disk) (place : Place) : Disk := ⟨d.nodes.filter fun entry => entry.1 != place⟩

/-- Puts a node at a place, instead of what was there. -/
def put (d : Disk) (place : Place) (node : Node) : Disk :=
  ⟨(place, node) :: (d.clear place).nodes⟩

/-- How many octets a name may have. -/
def maxName : Nat := 255

/-- How many octets a path may have. -/
def maxPath : Nat := 4095

/-- Follows parts of a path from a directory. All but the last must lead to directories, and dots
are parts of directories only. -/
def walk (d : Disk) (here : Place) : List String → Except DiskError Place
  | [] => .ok here
  | part :: rest =>
    match d.node? here with
    | none => .error .notFound
    | some (.file _) => .error .notDirectory
    | some .directory =>
      if part = "." then d.walk here rest
      else if part = ".." then d.walk here.dropLast rest
      else if maxName < part.utf8ByteSize then .error .nameTooLong
      else d.walk (here ++ [part]) rest

/-- The place a path leads to. -/
def locate (d : Disk) (path : String) : Except DiskError Place :=
  if '\x00' ∈ path.toList then .error .zeroInPath
  else if path = "" then .error .notFound
  else if maxPath < path.utf8ByteSize then .error .nameTooLong
  else d.walk [] ((partsOf path).filter (· != ""))

/-- The place of a directory; the empty path is where paths start. -/
def directory? (d : Disk) (path : String) : Except DiskError Place :=
  match if path = "" then .ok [] else d.locate path with
  | .error e => .error e
  | .ok place =>
    match d.node? place with
    | none => .error .notFound
    | some (.file _) => .error .notDirectory
    | some .directory => .ok place

/-! ### Requests -/

/-- Looks what a path leads to. A path that ends with a slash leads to a directory only. -/
def look (d : Disk) (path : String) : Except DiskError Node :=
  match d.locate path with
  | .error e => .error e
  | .ok place =>
    match d.node? place with
    | none => .error .notFound
    | some .directory => .ok .directory
    | some node => if path.toList.getLast? = some '/' then .error .notDirectory else .ok node

/-- Makes a directory. -/
def makeDirectory (d : Disk) (path : String) : Except DiskError Disk :=
  match d.locate path with
  | .error e => .error e
  | .ok place =>
    match d.node? place with
    | some _ => .error .exists
    | none => .ok (d.put place .directory)

/-- Tries drawn names in a directory, one after the other. -/
def claim (d : Disk) (place : Place) (directory : String) :
    List Draw → Except DiskError (String × Disk)
  | [] => .error (.fault "too many temporary files exist")
  | draw :: rest =>
    match d.locate (join directory draw.name) with
    | .error e => .error e
    | .ok _ =>
      match d.node? (place ++ [draw.name]) with
      | some _ => d.claim place directory rest
      | none => .ok (join directory draw.name, d.put (place ++ [draw.name]) (.file []))

/-- Makes an empty file in a directory, of the first of the drawn names that is not taken. -/
def makeTemporary (d : Disk) (directory : String) (draws : List Draw) :
    Except DiskError (String × Disk) :=
  match d.directory? directory with
  | .error e => .error e
  | .ok place => d.claim place directory draws

/-- Writes a file, which is there already. -/
def write (d : Disk) (path : String) (content : Bytes) : Except DiskError Disk :=
  match d.locate path with
  | .error e => .error e
  | .ok place =>
    match d.node? place with
    | none => .error .notFound
    | some .directory => .error .isDirectory
    | some (.file _) => .ok (d.put place (.file content))

/-- Removes a file. -/
def remove (d : Disk) (path : String) : Except DiskError Disk :=
  match d.locate path with
  | .error e => .error e
  | .ok place =>
    match d.node? place with
    | none => .error .notFound
    | some .directory => .error .isDirectory
    | some (.file _) => .ok (d.clear place)

/-- Gives a file another name, instead of a file that has it. -/
def rename (d : Disk) (source target : String) : Except DiskError Disk :=
  match d.locate source, d.locate target with
  | .error e, _ => .error e
  | _, .error e => .error e
  | .ok old, .ok new =>
    match d.node? old, d.node? new, d.node? new.dropLast with
    | some (.file content), some (.file _), _
    | some (.file content), none, some .directory => .ok ((d.clear old).put new (.file content))
    | some (.file _), some .directory, _ => .error .isDirectory
    | _, _, _ => .error .notFound

end Disk

end AnalysisPanel.Storage
