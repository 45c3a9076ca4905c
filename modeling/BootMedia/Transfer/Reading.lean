import BootMedia.Bytes
import BootMedia.Transfer.Turn

/-!
Reading a whole window from a positioned source. Each call asks for what is still missing, at the
offset where the bytes obtained so far end; interrupted calls are tried again, and a call that
brings nothing ends the read.
-/
namespace BootMedia

/-- Bytes that can be read at any offset. -/
structure Source where
  size : Nat
  byteAt : Nat → UInt8

namespace Source

def ofBytes (b : Bytes) : Source :=
  let data := b.toArray
  ⟨b.length, fun i => data.getD i 0⟩

/-- What one call brings: at most `count` bytes from `offset`, none past the end. -/
def window (s : Source) (offset count : Nat) : Bytes :=
  (List.range (min count (s.size - offset))).map fun i => s.byteAt (offset + i)

def truncate (s : Source) (size : Nat) : Source := ⟨min size s.size, s.byteAt⟩

end Source

structure ReadCall where
  offset : UInt64
  count : Nat
deriving DecidableEq

/-- How a read ended, and the calls it made in order. -/
structure ReadRun where
  outcome : Except Fault Bytes
  calls : List ReadCall

namespace ReadRun

def after (call : ReadCall) (chunk : Bytes) (rest : ReadRun) : ReadRun :=
  ⟨rest.outcome.map (chunk ++ ·), call :: rest.calls⟩

end ReadRun

namespace Source

/-- Reading without a script: the first call brings all there is, and a second finds the end. -/
def readFreely (s : Source) (offset : UInt64) (count : Nat) : ReadRun :=
  if count = 0 then ⟨.ok [], []⟩
  else
    let chunk := s.window offset.toNat count
    let missing := count - chunk.length
    if missing = 0 then ⟨.ok chunk, [⟨offset, count⟩]⟩
    else if chunk.isEmpty then ⟨.error Fault.shortRead, [⟨offset, count⟩]⟩
    else ⟨.error Fault.shortRead,
      [⟨offset, count⟩, ⟨offset + UInt64.ofNat chunk.length, missing⟩]⟩

/-- Reads exactly `count` bytes from `offset`, with a script for the first calls. -/
def readExact (s : Source) : List Turn → UInt64 → Nat → ReadRun
  | [], offset, count => s.readFreely offset count
  | turn :: turns, offset, count =>
    if count = 0 then ⟨.ok [], []⟩
    else match turn with
      | .fault cause =>
        if cause.isInterrupted then (s.readExact turns offset count).after ⟨offset, count⟩ []
        else ⟨.error cause, [⟨offset, count⟩]⟩
      | .limit most =>
        let chunk := s.window offset.toNat (min most count)
        if chunk.isEmpty then ⟨.error Fault.shortRead, [⟨offset, count⟩]⟩
        else (s.readExact turns (offset + UInt64.ofNat chunk.length)
          (count - chunk.length)).after ⟨offset, count⟩ chunk

end Source

end BootMedia
