import BootMedia.Activity
import BootMedia.Host.Process

/-!
Where the archiver is looked for: a path that was given, if a file is there, and otherwise the
directories of the search path. One name is looked for in all directories before the other one.
-/
namespace BootMedia.ArchiverSearch

def names : List Name := ["7z".toList, "7za".toList]

/-- The paths to look at, in order. An empty element of the search path gives the bare name. -/
def candidates : Option PathText → List PathText
  | none => []
  | some searchPath =>
    let directories : List PathText := fields ':' searchPath
    names.flatMap fun name => directories.map fun directory => PathText.join directory name

def search (h : Host) : Option PathText := (candidates h.searchPath).find? h.isFile

def searchHost : Activity Host (Option PathText) := do
  let found ← Activity.look search
  Activity.note (.archiverFound found)
  return found

/-- Looks for the archiver, first where it was said to be. -/
def locate : Option PathText → Activity Host (Option PathText)
  | none => searchHost
  | some path => do
    if ← Activity.look (Host.isFile · path) then return some path
    Activity.note (.archiverMissing path)
    searchHost

end BootMedia.ArchiverSearch
