import BootMedia.Command.Shell
import BootMedia.Console.RuleText
import Std.Time.Format

/-!
The command line. This module only reads arguments, environment and files, and writes what the
commands answer. It starts no other program: to an extraction a file that it finds on the host
counts as one that may not be run.
-/
namespace BootMedia.Main

/-- The number of a failure that the system reports. -/
def faultOf : IO.Error → Fault
  | .alreadyExists _ n _ | .otherError n _ | .resourceBusy n _ | .resourceVanished n _
  | .unsupportedOperation n _ | .hardwareFault n _ | .unsatisfiedConstraints n _
  | .illegalOperation n _ | .protocolError n _ | .timeExpired n _ | .interrupted _ n _
  | .noFileOrDirectory _ n _ | .invalidArgument _ n _ | .permissionDenied _ n _
  | .resourceExhausted _ n _ | .inappropriateType _ n _ | .noSuchThing _ n _ =>
    .system (Int.ofNat n.toNat)
  | .unexpectedEof => Fault.shortRead
  | .userError text => .told .other text

def attempt {α : Type} (x : IO α) : IO (Except Fault α) := do
  match ← x.toBaseIO with
  | .ok value => return .ok value
  | .error e => return .error (faultOf e)

def momentText : IO String := do
  let moment := Std.Time.DateTime.ofTimestamp (← Std.Time.Timestamp.now)
    Std.Time.TimeZone.ZoneRules.UTC
  return moment.format "uuuu-MM-dd'T'HH:mm:ss.SSSSSS'Z'"

def freshStamp : IO Stamp := do
  let seconds := (← Std.Time.Timestamp.now).toSecondsSinceUnixEpoch.val
  let random ← IO.getRandomBytes 16
  return ⟨UInt64.ofNat seconds.toNat, Block.fit 16 random.toList⟩

def environmentText (name : String) : IO (Option (List Char)) := do
  return (← IO.getEnv name).map String.toList

/-- Opens an image. The system refuses to read a directory, but does open it. -/
def openImage (path : PathText) : IO (Except Fault OpenImage) := do
  match ← attempt (IO.FS.readBinFile path.text) with
  | .ok contents => return .ok (OpenImage.ofFile contents.toList)
  | .error cause =>
    if cause == Fault.isDirectory then return .ok (.ofDirectory usualDirectorySize)
    else return .error cause

def appendImage (path : PathText) : IO CommandRun := do
  let stamp ← freshStamp
  match ← attempt (IO.FS.Handle.mk path.text .readWrite) with
  | .error cause => return (Command.append path (.error cause) stamp).1
  | .ok handle =>
    let contents := (← handle.readBinToEnd).toList
    let (run, after) := Command.append path (.ok contents) stamp
    let added := (after.getD contents).drop contents.length
    match ← attempt (do handle.write ⟨added.toArray⟩; handle.flush) with
    | .ok () => return run
    | .error cause => return .failure [] (AppendError.notWritten cause).chain

/-- The host with those files in its tree that an archiver may be. -/
def hostWith (searchPath : Option PathText) (candidates : List PathText) : IO Host := do
  let here := (← IO.currentDir).toString.toList
  let directory : Location := ((fields '/' here).filter (!·.isEmpty)).reverse
  let mut tree := Tree.empty.makeDirectories [] here
  for candidate in candidates do
    if (← attempt (IO.FS.readBinFile candidate.text)).toBool then
      tree := tree.makeDirectories directory ((PathText.parent? candidate).getD [])
      tree := (tree.writeFile directory candidate []).toOption.getD tree
  return ⟨tree, directory, searchPath, fun _ => ⟨[], ⟨0⟩, []⟩, []⟩

def extractFile (wim : PathText) (index src : List Char) (dst : PathText) : IO CommandRun := do
  let archiver ← environmentText Config.archiverVariable
  let searchPath ← environmentText "PATH"
  let host ← hostWith searchPath (archiver.toList ++ ArchiverSearch.candidates searchPath)
  let settings : Command.ExtractSettings := ⟨archiver, ← environmentText "TMPDIR"⟩
  return (Command.extract settings host wim index src dst).1

def runJob : Job → IO CommandRun
  | .append image => appendImage image
  | .inspect image => do
    let first ← openImage image
    let second ← openImage image
    return Command.inspect Analyzer.partitionTable image first second
  | .extract wim index src dst => extractFile wim index src dst

end BootMedia.Main

open BootMedia in
def main (arguments : List String) : IO UInt32 := do
  let run ← match Job.ofArguments (arguments.map String.toList) with
    | some job => Main.runJob job
    | none => pure ⟨1, [], Job.usageText "vhd"⟩
  let selection := Selection.ofVariable (← Main.environmentText "RUST_LOG")
  IO.print (run.outputText selection (← Main.momentText))
  IO.eprint run.complaint
  return UInt32.ofNat run.exitCode
