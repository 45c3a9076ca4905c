import BootMedia.Wim.Request

/-!
Settings of an extraction: an archiver to use instead of searching the host, and the file it is
expected to leave.
-/
namespace BootMedia

structure Config where
  archiver : Option PathText
  expectedOutput : ExpectedOutput
deriving DecidableEq

namespace Config

def default : Config := ⟨none, .sourceName⟩

def archiverVariable : String := "WIMEXTRACT_7Z"

/-- The settings for a value of that variable; an empty value counts as none. -/
def ofVariable (value : Option PathText) : Config :=
  { default with archiver := value.filter fun v => !v.isEmpty }

end Config

end BootMedia
