import BootMedia.Host.Lookup

/-!
Changes of a tree by path: removing and moving a file, writing a file and making directories. A
change that fails leaves the tree as it was.
-/
namespace BootMedia.Tree

def removeFile (t : Tree) (directory : Location) (p : PathText) : Except Fault Tree :=
  match t.spot directory p with
  | .error cause => .error cause
  | .ok (.unnamed _) => .error Fault.isDirectory
  | .ok (.named outer name slash) =>
    match t.child outer name with
    | .error cause => .error cause
    | .ok none => .error Fault.noEntry
    | .ok (some .directory) => .error Fault.isDirectory
    | .ok (some (.file ..)) =>
      if slash then .error Fault.notDirectory else .ok (t.erase (name :: outer))

/-- Puts a file that stands at one location to another one, in place of a file there. The new
location must not be a directory, least of all one around the file. -/
def relocate (t : Tree) (source target : Location) (file : Node) : Except Fault Tree :=
  if target.isSuffixOf source.tail then .error Fault.notEmpty
  else if target = source then .ok t
  else match t.get? target with
    | some .directory => .error Fault.isDirectory
    | _ => .ok ((t.erase source).put target file)

def moveFile (t : Tree) (directory : Location) (source target : PathText) : Except Fault Tree :=
  match t.spot directory source with
  | .error cause => .error cause
  | .ok old =>
    match t.spot directory target with
    | .error cause => .error cause
    | .ok new =>
      match old, new with
      | .named outer name slash, .named newOuter newName newSlash =>
        match t.child outer name with
        | .error cause => .error cause
        | .ok none => .error Fault.noEntry
        | .ok (some .directory) => .error Fault.isDirectory
        | .ok (some (.file contents executable)) =>
          match t.child newOuter newName with
          | .error cause => .error cause
          | .ok _ =>
            if slash || newSlash then .error Fault.notDirectory
            else t.relocate (name :: outer) (newName :: newOuter) (.file contents executable)
      | _, _ => .error Fault.busy

/-- Writes a file where a path leads. A new file is not executable, an old one stays what it
was. -/
def writeFile (t : Tree) (directory : Location) (p : PathText) (contents : Bytes) :
    Except Fault Tree :=
  match t.spot directory p with
  | .error cause => .error cause
  | .ok (.unnamed _) => .error Fault.isDirectory
  | .ok (.named outer name slash) =>
    match t.child outer name with
    | .error cause => .error cause
    | .ok (some .directory) => .error Fault.isDirectory
    | .ok none =>
      if slash then .error Fault.isDirectory
      else .ok (t.put (name :: outer) (.file contents false))
    | .ok (some (.file _ executable)) =>
      if slash then .error Fault.isDirectory
      else .ok (t.put (name :: outer) (.file contents executable))

def makePieces (t : Tree) : Location → List Name → Tree
  | _, [] => t
  | directory, piece :: rest =>
    if piece = ['.'] then t.makePieces directory rest
    else if piece = ['.', '.'] then t.makePieces directory.tail rest
    else match t.child directory piece with
      | .ok none => (t.put (piece :: directory) .directory).makePieces (piece :: directory) rest
      | .ok (some .directory) => t.makePieces (piece :: directory) rest
      | _ => t

/-- Makes the directory a path leads to, with those around it, as far as nothing is in the way. -/
def makeDirectories (t : Tree) (directory : Location) (p : PathText) : Tree :=
  if hasNul p then t else t.makePieces (p.start directory) p.pieces

end BootMedia.Tree
