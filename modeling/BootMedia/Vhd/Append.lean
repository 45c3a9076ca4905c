import BootMedia.Notice
import BootMedia.Transfer.Writing

/-!
Appending a footer to an image. The sink is moved to its end, the footer describes everything
before it, and the bytes accepted are always a beginning of that one footer.
-/
namespace BootMedia

structure Stamp where
  unixTime : UInt64
  random : Block 16

/-- How an append ended, the calls it made, the bytes the sink accepted, and its diagnostics. -/
structure AppendRun where
  outcome : Except AppendError Footer
  calls : List SinkCall
  accepted : Bytes
  notices : List Notice

/-- The diagnostics of a footer that is built: a missing identity is worth a warning. -/
def Footer.identityNotices (uniqueId : Option UniqueId) : List Notice :=
  if uniqueId.isNone then [.missingId] else []

def Stamp.footer (s : Stamp) (size : UInt64) (tags : CreatorTags) : Footer :=
  Footer.fixed size (Footer.timestampAt s.unixTime) (some (UniqueId.ofRandom s.random)) tags

def writeFooter (sink : Sink) (stamp : Stamp) (tags : CreatorTags) : AppendRun :=
  match sink.size with
  | .error cause => ⟨.error (.noEnd cause), [.seekEnd], [], []⟩
  | .ok size =>
    let footer := stamp.footer size tags
    let run := writeAll sink.turns footer.encode.bytes
    let calls := SinkCall.seekEnd :: run.offers.map SinkCall.write
    match run.outcome with
    | .error cause => ⟨.error (.notWritten cause), calls, run.accepted, []⟩
    | .ok () =>
      match sink.flushFault with
      | some cause => ⟨.error (.notWritten cause), calls ++ [.flush], run.accepted, []⟩
      | none => ⟨.ok footer, calls ++ [.flush], run.accepted,
          [.appended size footer.geometry footer.checksum]⟩

/-- Appends a footer to the file at `path`, given its contents or why it could not be opened for
writing; the second part is what the file holds afterwards. -/
def appendFooter (path : PathText) (opened : Except Fault Bytes) (stamp : Stamp)
    (tags : CreatorTags) : AppendRun × Option Bytes :=
  match opened with
  | .error cause => (⟨.error (.notOpened path cause), [], [], []⟩, none)
  | .ok contents =>
    let run := writeFooter ⟨.ok (UInt64.ofNat contents.length), [], none⟩ stamp tags
    (run, some (contents ++ run.accepted))

end BootMedia
