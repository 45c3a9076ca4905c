import BootMedia.Fault
import BootMedia.Host.Tree
import BootMedia.Text.ByteSlice

/-!
Following path texts through a tree. Every piece but the last has to lead to a directory; the last
one leads to a spot, at which something may stand or not. The faults are those of the system, in
the order in which it finds them.
-/
namespace BootMedia

def longestName : Nat := 255

/-- A path has to have fewer bytes than this. -/
def pathLimit : Nat := 4096

def hasNul (t : List Char) : Bool := t.any (· == '\x00')

/-- Where following a path from a directory starts. -/
def PathText.start (p : PathText) (directory : Location) : Location :=
  if p.isAbsolute then [] else directory

/-- Where a path leads: to a directory it does not name by its last piece, as the root, `.` and
`..` do, or to a name in a directory, possibly with a slash behind it. -/
inductive Spot
  | unnamed (location : Location)
  | named (directory : Location) (name : Name) (slash : Bool)
deriving DecidableEq

namespace Tree

def child (t : Tree) (directory : Location) (name : Name) : Except Fault (Option Node) :=
  if longestName < byteLength name then .error Fault.nameTooLong
  else .ok (t.get? (name :: directory))

def enter (t : Tree) : Location → List Name → Except Fault Location
  | directory, [] => .ok directory
  | directory, piece :: rest =>
    if piece = ['.'] then t.enter directory rest
    else if piece = ['.', '.'] then t.enter directory.tail rest
    else match t.child directory piece with
      | .error cause => .error cause
      | .ok none => .error Fault.noEntry
      | .ok (some (.file ..)) => .error Fault.notDirectory
      | .ok (some .directory) => t.enter (piece :: directory) rest

/-- The spot of the last piece in the directory that the others lead to. -/
def spotOf (directory : Location) (slash : Bool) : List Char → Spot
  | ['.'] => .unnamed directory
  | ['.', '.'] => .unnamed directory.tail
  | name => .named directory name slash

def spot (t : Tree) (directory : Location) (p : PathText) : Except Fault Spot :=
  if hasNul p then .error Fault.nulInPath
  else if p.isEmpty then .error Fault.noEntry
  else if pathLimit ≤ byteLength p then .error Fault.nameTooLong
  else match p.pieces.getLast? with
    | none => .ok (.unnamed (p.start directory))
    | some last =>
      match t.enter (p.start directory) p.pieces.dropLast with
      | .error cause => .error cause
      | .ok reached => .ok (spotOf reached p.endsWithSlash last)

/-- What stands where a path leads, and its location. A slash behind a file is a fault. -/
def find (t : Tree) (directory : Location) (p : PathText) : Except Fault (Location × Node) :=
  match t.spot directory p with
  | .error cause => .error cause
  | .ok (.unnamed location) =>
    match t.get? location with
    | some node => .ok (location, node)
    | none => .error Fault.noEntry
  | .ok (.named outer name slash) =>
    match t.child outer name with
    | .error cause => .error cause
    | .ok none => .error Fault.noEntry
    | .ok (some .directory) => .ok (name :: outer, .directory)
    | .ok (some (.file contents executable)) =>
      if slash then .error Fault.notDirectory
      else .ok (name :: outer, .file contents executable)

def isFile (t : Tree) (directory : Location) (p : PathText) : Bool :=
  match t.find directory p with
  | .ok (_, .file ..) => true
  | _ => false

def findDirectory (t : Tree) (directory : Location) (p : PathText) : Except Fault Location :=
  match t.find directory p with
  | .error cause => .error cause
  | .ok (location, .directory) => .ok location
  | .ok (_, .file ..) => .error Fault.notDirectory

end Tree

end BootMedia
