import BootMedia.Bytes
import BootMedia.Transfer.Turn

/-!
Writing a whole buffer to a sink. Each call offers exactly the bytes not yet accepted;
interrupted calls are tried again, and a call that takes nothing ends the write.
-/
namespace BootMedia

/-- Where bytes are written: the end it can be moved to, a script for its writes, and whether
flushing it fails. -/
structure Sink where
  size : Except Fault UInt64
  turns : List Turn
  flushFault : Option Fault

inductive SinkCall
  | seekEnd
  | write (offered : Bytes)
  | flush
deriving DecidableEq

/-- How a write ended, the bytes offered at each call, and the bytes accepted. -/
structure WriteRun where
  outcome : Except Fault Unit
  offers : List Bytes
  accepted : Bytes

def WriteRun.after (buffer taken : Bytes) (rest : WriteRun) : WriteRun :=
  ⟨rest.outcome, buffer :: rest.offers, taken ++ rest.accepted⟩

def writeAll : List Turn → Bytes → WriteRun
  | [], buffer => if buffer.isEmpty then ⟨.ok (), [], []⟩ else ⟨.ok (), [buffer], buffer⟩
  | turn :: turns, buffer =>
    if buffer.isEmpty then ⟨.ok (), [], []⟩
    else match turn with
      | .fault cause =>
        if cause.isInterrupted then (writeAll turns buffer).after buffer []
        else ⟨.error cause, [buffer], []⟩
      | .limit most =>
        if most = 0 then ⟨.error Fault.shortWrite, [buffer], []⟩
        else (writeAll turns (buffer.drop most)).after buffer (buffer.take most)

end BootMedia
