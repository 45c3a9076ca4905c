import BootMedia.Command.ImageIndex
import BootMedia.Console.Line
import BootMedia.Wim.Extractor

/-!
The command that takes a file out of a WIM image. A wrong image number is refused before anything
is looked for; a missing archiver is pointed out before the attempt is made.
-/
namespace BootMedia.Command

/-- The settings an extraction takes from the environment. -/
structure ExtractSettings where
  /-- The archiver to use. -/
  archiver : Option PathText
  /-- The directory for temporary files. -/
  tempDir : Option PathText

def extractor (settings : ExtractSettings) : Extractor Desk :=
  (Extractor.ofConfig (Config.ofVariable settings.archiver)
    (settings.tempDir.getD ImagingApi.defaultTempDir)).withCompletion
    (Activity.note .extractionComplete)

def extraction (settings : ExtractSettings) (r : Request) :
    Activity (Session Desk) (Except ExtractError Unit) := do
  let known ← (extractor settings).capabilities
  if !known.isAvailable Archiver.name then Activity.note .archiverHint
  (extractor settings).extract r

def errorChain (reason : ExtractError) : List String :=
  reason.message :: (reason.cause?.map Fault.text).toList

/-- Takes a file out of a WIM image. The second part is the host afterwards. -/
def extract (settings : ExtractSettings) (host : Host) (wim : PathText) (index src : List Char)
    (dst : PathText) : CommandRun × Host :=
  match ImageIndex.read index with
  | .error reason =>
    (.failure [] ["Invalid image index '" ++ String.ofList index ++ "'", reason.text], host)
  | .ok number =>
    let reply := (extraction settings ⟨wim, number, src, dst⟩).run (Session.fresh ⟨host, none⟩)
    let lines := reply.notices.map Line.notice
    match reply.value with
    | .error reason => (.failure lines (errorChain reason), reply.state.world.host)
    | .ok () => (.success lines, reply.state.world.host)

end BootMedia.Command
