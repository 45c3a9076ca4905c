import BootMedia.Bytes
import BootMedia.Path

/-!
A tree of files and directories without links. A location is the list of names from the innermost
one outward, so that the directory around it is its tail; the root is always there. Main
statements: a put or an erase is seen at its own location and nowhere else.
-/
namespace BootMedia

abbrev Name := List Char

/-- Names from the innermost outward; the root has none. -/
abbrev Location := List Name

inductive Node
  | directory
  | file (contents : Bytes) (executable : Bool)
deriving DecidableEq

/-- What many file systems state as the size of a small directory. -/
def usualDirectorySize : UInt64 := 4096

structure Tree where
  entries : List (Location × Node)
  /-- The size the file system states for the directory at a location. -/
  directorySize : Location → UInt64 := fun _ => usualDirectorySize

namespace Tree

def empty : Tree := { entries := [] }

def get? (t : Tree) (l : Location) : Option Node :=
  match l with
  | [] => some .directory
  | name :: outer => t.entries.lookup (name :: outer)

def erase (t : Tree) (l : Location) : Tree :=
  { t with entries := t.entries.filter fun e => e.1 != l }

def put (t : Tree) (l : Location) (n : Node) : Tree :=
  { t with entries := (l, n) :: (t.erase l).entries }

private theorem lookup_filter_ne (l other : Location) (es : List (Location × Node)) :
    (es.filter fun e => e.1 != l).lookup other =
      if other = l then none else es.lookup other := by
  induction es with
  | nil => simp
  | cons e es ih =>
    obtain ⟨k, n⟩ := e
    by_cases hk : k = l
    · rw [List.filter_cons_of_neg (by simp [hk]), ih]
      by_cases ho : other = l
      · simp [ho]
      · have hne : (other == k) = false := by simpa [hk] using ho
        simp [ho, List.lookup_cons, hne]
    · rw [List.filter_cons_of_pos (by simp [hk]), List.lookup_cons, List.lookup_cons, ih]
      by_cases ho : other = l
      · have hne : (other == k) = false := by simpa [ho] using Ne.symm hk
        simp [ho, ho ▸ hne]
      · simp [ho]

theorem get?_erase (t : Tree) {l : Location} (hl : l ≠ []) (other : Location) :
    (t.erase l).get? other = if other = l then none else t.get? other := by
  cases other with
  | nil => simp [get?, Ne.symm hl]
  | cons name outer => simp only [get?, erase, lookup_filter_ne]

theorem get?_put (t : Tree) {l : Location} (hl : l ≠ []) (n : Node) (other : Location) :
    (t.put l n).get? other = if other = l then some n else t.get? other := by
  cases other with
  | nil => simp [get?, Ne.symm hl]
  | cons name outer =>
    by_cases ho : name :: outer = l
    · simp [get?, put, ho]
    · have hne : (name :: outer == l) = false := by simpa using ho
      simp [get?, put, erase, List.lookup_cons, hne, lookup_filter_ne, ho]

end Tree

def Location.path : Location → PathText
  | [] => ['/']
  | l => l.foldl (fun tail name => '/' :: name ++ tail) []

end BootMedia
