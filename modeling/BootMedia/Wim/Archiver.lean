import BootMedia.Text.Blank
import BootMedia.Text.Utf8
import BootMedia.Wim.Backend
import BootMedia.Wim.ArchiverSearch

/-!
Extraction by an archiver program. The program runs in the destination directory and leaves the
file there under its expected name; the file is then moved to the destination. A file of the
expected name from before is removed first, so that only the output of this run counts.
-/
namespace BootMedia

/-- A host, and the archiver found on it once it has been looked for. -/
structure Desk where
  host : Host
  located : Option (Option PathText)

namespace Desk

/-- The archiver, looked for on first use and remembered. -/
def executable (locator : Activity Host (Option PathText)) : Activity Desk (Option PathText) :=
  ⟨fun d =>
    match d.located with
    | some found => ⟨found, d, []⟩
    | none =>
      let reply := locator.run d.host
      ⟨reply.value, ⟨reply.state, some reply.value⟩, reply.notices⟩⟩

end Desk

namespace Archiver

def name : String := "7z"

/-- The image as the archiver is told of it: in absolute form, because it runs elsewhere. -/
def imageArgument (directory : Location) (image : PathText) : PathText :=
  (PathText.absolute? directory.path image).getD image

def sourceArgument (index : UInt32) (src : List Char) : List Char :=
  (toString index.toNat).toList ++ '\\' :: src

def arguments (directory : Location) (r : Request) : List (List Char) :=
  ["-y".toList, "e".toList, imageArgument directory r.image, sourceArgument r.index r.src]

def complaintText (said : Bytes) : String := String.ofList (Blank.trim (Utf8.decode said))

/-- Removes what an earlier run may have left; nothing there is fine. -/
def clearStale (output : PathText) : Activity Host (Except ExtractError Unit) :=
  ⟨fun h =>
    match h.tree.removeFile h.directory output with
    | .ok tree => ⟨.ok (), { h with tree }, [.removedPrevious output]⟩
    | .error cause =>
      if cause.isNotFound then ⟨.ok (), h, []⟩ else ⟨.error (.staleOutput output cause), h, []⟩⟩

def runProgram (program : PathText) (r : Request) (aftermath : Aftermath := Run.leave) :
    Activity Host (Except ExtractError Unit) :=
  ⟨fun h =>
    match h.launch program r.destinationDir (arguments h.directory r) aftermath with
    | .error cause => ⟨.error (.launch program cause), h, []⟩
    | .ok (run, after) =>
      if run.status.isSuccess then ⟨.ok (), after, []⟩
      else ⟨.error (.archiverExit program run.status (complaintText run.complaint)), after, []⟩⟩

def collect (output : PathText) (r : Request) : Activity Host (Except ExtractError Unit) :=
  ⟨fun h =>
    if !h.isFile output then ⟨.error (.missingOutput output), h, []⟩
    else match h.tree.moveFile h.directory output r.dst with
      | .error cause => ⟨.error (.rename output r.dst cause), h, []⟩
      | .ok tree => ⟨.ok (), { h with tree }, []⟩⟩

def thenStage (first second : Activity Host (Except ExtractError Unit)) :
    Activity Host (Except ExtractError Unit) := do
  match ← first with
  | .error reason => return .error reason
  | .ok () => second

def work (program : PathText) (expected : ExpectedOutput) (r : Request)
    (aftermath : Aftermath := Run.leave) : Activity Host (Except ExtractError Unit) := do
  Activity.note (.opening .archiver r.image r.index)
  Activity.note (.extracting .archiver r.dst r.src)
  let output := expected.path r
  thenStage (clearStale output) (thenStage (runProgram program r aftermath) (collect output r))

def atHost {α : Type} (x : Activity Host α) : Activity Desk α :=
  x.within Desk.host fun d host => { d with host }

def extract (locator : Activity Host (Option PathText)) (expected : ExpectedOutput)
    (r : Request) (aftermath : Aftermath := Run.leave) :
    Activity Desk (Except ExtractError Unit) := do
  match ← Desk.executable locator with
  | none => return .error (.unavailable name)
  | some program => atHost (work program expected r aftermath)

def backend (locator : Activity Host (Option PathText)) (expected : ExpectedOutput)
    (aftermath : Aftermath := Run.leave) : Backend Desk where
  name := name
  probe := Option.isSome <$> Desk.executable locator
  extract := fun r => extract locator expected r aftermath

end Archiver

end BootMedia
