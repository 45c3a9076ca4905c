import BootMedia.Fault

/-!
One turn of a transfer: the other side moves at most so many bytes, or fails. A list of turns is
a script for the first calls; after its end every call is served in full.
-/
namespace BootMedia

/-- How one call of a transfer goes. -/
inductive Turn
  | limit (count : Nat)
  | fault (cause : Fault)
deriving DecidableEq

end BootMedia
