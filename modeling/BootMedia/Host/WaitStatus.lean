import BootMedia.Text.Numeral

/-!
How a process ended, in the encoding of the system: an exit code in the second byte, or the
number of a signal in the low seven bits with a mark for a core dump.
-/
namespace BootMedia

@[ext] structure WaitStatus where
  raw : UInt32
deriving DecidableEq

namespace WaitStatus

def exited (code : UInt8) : WaitStatus := ⟨code.toUInt32 <<< 8⟩

def signalled (signal : UInt8) : WaitStatus := ⟨signal.toUInt32⟩

def isSuccess (s : WaitStatus) : Bool := s.raw == 0

def signalNames : List String :=
  ["SIGHUP", "SIGINT", "SIGQUIT", "SIGILL", "SIGTRAP", "SIGABRT", "SIGBUS", "SIGFPE", "SIGKILL",
   "SIGUSR1", "SIGSEGV", "SIGUSR2", "SIGPIPE", "SIGALRM", "SIGTERM", "SIGSTKFLT", "SIGCHLD",
   "SIGCONT", "SIGSTOP", "SIGTSTP", "SIGTTIN", "SIGTTOU", "SIGURG", "SIGXCPU", "SIGXFSZ",
   "SIGVTALRM", "SIGPROF", "SIGWINCH", "SIGIO", "SIGPWR", "SIGSYS"]

def signalText (signal : Nat) : String :=
  toString signal ++
    match signal with
    | 0 => ""
    | n + 1 => match signalNames[n]? with
      | some name => " (" ++ name ++ ")"
      | none => ""

def signedText (s : WaitStatus) : String :=
  if s.raw < 0x80000000 then toString s.raw.toNat else "-" ++ toString (0x100000000 - s.raw.toNat)

def text (s : WaitStatus) : String :=
  let low := (s.raw &&& 0x7F).toNat
  let second := ((s.raw >>> 8) &&& 0xFF).toNat
  if low = 0 then "exit status: " ++ toString second
  else if low < 0x7F then
    "signal: " ++ signalText low ++ if s.raw &&& 0x80 = 0 then "" else " (core dumped)"
  else if s.raw &&& 0xFF = 0x7F then
    "stopped (not terminated) by signal: " ++ signalText second
  else if s.raw = 0xFFFF then "continued (WIFCONTINUED)"
  else "unrecognised wait status: " ++ s.signedText ++ " 0x" ++ Numeral.hexLower s.raw.toNat

end WaitStatus

end BootMedia
