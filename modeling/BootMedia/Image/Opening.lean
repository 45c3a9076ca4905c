import BootMedia.Host.Process
import BootMedia.Image.Analyzer

/-!
Opening images on a host. A directory can be opened for reading, but not read from, and not be
opened for writing.
-/
namespace BootMedia.Host

def openImage (h : Host) (p : PathText) : Except Fault OpenImage :=
  match h.tree.find h.directory p with
  | .error cause => .error cause
  | .ok (location, .directory) => .ok (.ofDirectory (h.tree.directorySize location))
  | .ok (_, .file contents _) => .ok (.ofFile contents)

def openToAppend (h : Host) (p : PathText) : Except Fault Bytes :=
  match h.tree.find h.directory p with
  | .error cause => .error cause
  | .ok (_, .directory) => .error Fault.isDirectory
  | .ok (_, .file contents _) => .ok contents

/-- The host after new contents were written to the file at a path, if there are any. -/
def withContents (h : Host) (p : PathText) : Option Bytes → Host
  | none => h
  | some contents =>
    match h.tree.writeFile h.directory p contents with
    | .error _ => h
    | .ok tree => { h with tree }

end BootMedia.Host
