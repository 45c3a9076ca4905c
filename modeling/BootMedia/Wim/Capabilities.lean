import BootMedia.Notice

/-!
Which extraction methods a host supports, as found at one moment: every method in order of
preference with the answer of its probe.
-/
namespace BootMedia

structure Capabilities where
  entries : List (String × Bool)
deriving DecidableEq

namespace Capabilities

def available (c : Capabilities) : List String := (c.entries.filter (·.2)).map (·.1)

def any (c : Capabilities) : Bool := c.entries.any (·.2)

def isAvailable (c : Capabilities) (name : String) : Bool :=
  c.entries.any fun e => e.2 && e.1 == name

def text (c : Capabilities) : String := Notice.methodList c.available

end Capabilities

end BootMedia
