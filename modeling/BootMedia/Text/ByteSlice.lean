/-!
Cutting texts at offsets that count bytes. An offset inside a character cuts nothing.
-/
namespace BootMedia

def byteLength (t : List Char) : Nat := t.foldl (fun n c => n + c.utf8Size) 0

def dropBytes? : Nat → List Char → Option (List Char)
  | 0, t => some t
  | _, [] => none
  | n, c :: t => if c.utf8Size ≤ n then dropBytes? (n - c.utf8Size) t else none

def takeBytes? : Nat → List Char → Option (List Char)
  | 0, _ => some []
  | _, [] => none
  | n, c :: t =>
    if c.utf8Size ≤ n then (takeBytes? (n - c.utf8Size) t).map (c :: ·) else none

def byteSlice? (t : List Char) (start stop : Nat) : Option (List Char) :=
  (dropBytes? start t).bind (takeBytes? (stop - start))

end BootMedia
