import BootMedia.Host.Files
import BootMedia.Host.WaitStatus

/-!
A host as the archiver driver meets it: a tree, a current directory, a search path, and programs
that are files marked as executable. What a program does when it runs is data: the directories
and files it writes in its own current directory, what it says, and how it ends. What this leaves
of the tree can be any function; in the program itself, the effects happen one after the other.
-/
namespace BootMedia

/-- Something a running program does to the tree. -/
inductive Effect
  | makeDirectories (path : PathText)
  | writeFile (path : PathText) (contents : Bytes)
deriving DecidableEq

/-- An effect in a directory; one that is not possible does nothing. -/
def Effect.apply (directory : Location) (t : Tree) : Effect → Tree
  | makeDirectories path => t.makeDirectories directory path
  | writeFile path contents =>
    match t.writeFile directory path contents with
    | .ok changed => changed
    | .error _ => t

/-- What one run of a program does. -/
structure Run where
  effects : List Effect
  status : WaitStatus
  complaint : Bytes

/-- How a run changes the tree it was started on, from the directory it was started in. -/
abbrev Aftermath := Run → Location → Tree → Tree

/-- What is left when each effect of a run has happened. -/
def Run.leave : Aftermath := fun run directory t => run.effects.foldl (Effect.apply directory) t

/-- A program that was started: the file it is, its current directory and its arguments. -/
structure Launch where
  program : Location
  directory : Location
  arguments : List (List Char)
deriving DecidableEq

structure Host where
  tree : Tree
  directory : Location
  searchPath : Option PathText
  /-- What the program does at each launch, counted from zero. -/
  runs : Nat → Run
  launches : List Launch

namespace Host

def isFile (h : Host) (p : PathText) : Bool := h.tree.isFile h.directory p

def programAt (h : Host) (directory : Location) (p : PathText) : Except Fault Location :=
  match h.tree.find directory p with
  | .error cause => .error cause
  | .ok (location, .file _ true) => .ok location
  | .ok _ => .error Fault.accessDenied

def defaultSearchPath : PathText := "/bin:/usr/bin".toList

/-- A candidate that is missing does not end a search. -/
def isMissing (cause : Fault) : Bool := cause == Fault.noEntry || cause == Fault.notDirectory

/-- The first program among candidates. One that may not be run is remembered as the fault to
report if nothing else is found. -/
def firstProgram (h : Host) (directory : Location) : Fault → List PathText → Except Fault Location
  | report, [] => .error report
  | report, p :: rest =>
    match h.programAt directory p with
    | .ok location => .ok location
    | .error cause =>
      if cause = Fault.accessDenied then h.firstProgram directory cause rest
      else if isMissing cause then
        h.firstProgram directory (if report = Fault.accessDenied then report else cause) rest
      else .error cause

/-- A name in a directory of the search path; an empty text is for the current directory. -/
def candidate (outer name : List Char) : PathText :=
  if outer.isEmpty then name else outer ++ '/' :: name

def isUnnameable (outer : List Char) : Bool := pathLimit ≤ byteLength outer

/-- The candidates for a name. The current directory stands for a directory that no path could
name, unless that is the last one. -/
def candidates (name : List Char) : List (List Char) → List PathText
  | [] => []
  | [outer] => if isUnnameable outer then [] else [candidate outer name]
  | outer :: rest =>
    candidate (if isUnnameable outer then [] else outer) name :: candidates name rest

/-- The program a launch in a directory runs: a path with a slash leads from that directory, a
bare name is searched along the search path. -/
def resolveProgram (h : Host) (directory : Location) (p : PathText) : Except Fault Location :=
  if p.isEmpty then .error Fault.noEntry
  else if p.contains '/' then h.programAt directory p
  else h.firstProgram directory Fault.noEntry
    (candidates p (fields ':' (h.searchPath.getD defaultSearchPath)))

/-- A text that is handed to a new process has to have fewer bytes than this. -/
def argumentLimit : Nat := 131072

def searchPathEntry (h : Host) : List (List Char) :=
  (h.searchPath.map fun p => "PATH=".toList ++ p).toList

/-- Starts a program in a directory and lets it run to its end. The new process first goes to its
directory and looks for the program from there. -/
def launch (h : Host) (program directory : PathText) (arguments : List (List Char))
    (aftermath : Aftermath := Run.leave) : Except Fault (Run × Host) :=
  if (program :: directory :: arguments).any hasNul then .error Fault.nulInArgument
  else match h.tree.findDirectory h.directory directory with
    | .error cause => .error cause
    | .ok inside =>
      match h.resolveProgram inside program with
      | .error cause => .error cause
      | .ok location =>
        if (arguments ++ h.searchPathEntry).any fun t => argumentLimit ≤ byteLength t then
          .error Fault.argumentsTooLong
        else
          let run := h.runs h.launches.length
          .ok (run, { h with
            tree := aftermath run inside h.tree
            launches := h.launches ++ [⟨location, inside, arguments⟩] })

end Host

end BootMedia
