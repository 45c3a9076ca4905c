/-!
Path texts: their components, the parent of a path, joining, and the absolute form. A path is a
sequence of characters and `/` separates its components; repeated and trailing slashes and dots
between slashes say nothing, but a text that is kept is kept as it was written.
-/
namespace BootMedia

abbrev PathText := List Char

/-- The pieces between separators; there is always at least one. -/
def fields (separator : Char) : List Char → List (List Char)
  | [] => [[]]
  | c :: rest =>
    if c = separator then [] :: fields separator rest
    else match fields separator rest with
      | [] => [[c]]
      | piece :: pieces => (c :: piece) :: pieces

namespace PathText

def here : PathText := ['.']

def isAbsolute (p : PathText) : Bool := p.head? == some '/'

def endsWithSlash (p : PathText) : Bool := p.getLast? == some '/'

def startsHere : PathText → Bool
  | ['.'] => true
  | '.' :: '/' :: _ => true
  | _ => false

/-- The pieces of a path that are followed, lone dots included. -/
def pieces (p : PathText) : List (List Char) := (fields '/' p).filter (!·.isEmpty)

inductive Component
  | root
  | here
  | up
  | name (text : List Char)
deriving DecidableEq

def Component.ofPiece : List Char → Option Component
  | [] => none
  | ['.'] => none
  | ['.', '.'] => some .up
  | text => some (.name text)

/-- The components in order; a dot counts only at the very start. -/
def components (p : PathText) : List Component :=
  (if p.isAbsolute then [Component.root] else if p.startsHere then [Component.here] else []) ++
    (fields '/' p).filterMap Component.ofPiece

/-- Removes slashes and lone dots from the end of a text that is given backwards. -/
def trimBackwards : List Char → List Char
  | '/' :: rest => trimBackwards rest
  | ['.'] => []
  | '.' :: '/' :: rest => trimBackwards rest
  | rest => rest

def headLength (p : PathText) : Nat := if p.isAbsolute || p.startsHere then 1 else 0

/-- The path without its last component, as a beginning of its text. The root and the empty path
have none. -/
def parent? (p : PathText) : Option PathText :=
  let head := p.take p.headLength
  match trimBackwards (p.drop p.headLength).reverse with
  | [] => if p.isAbsolute then none else if p.startsHere then some [] else none
  | body => some (head ++ (trimBackwards (body.dropWhile (· != '/'))).reverse)

/-- A path below another one; an absolute path stands for itself. -/
def join (directory p : PathText) : PathText :=
  if p.isAbsolute then p
  else if directory.isEmpty || directory.endsWithSlash then directory ++ p
  else directory ++ '/' :: p

def joinPieces : List (List Char) → PathText
  | [] => []
  | [piece] => piece
  | piece :: pieces => piece ++ '/' :: joinPieces pieces

/-- The pieces of a path that say something, dots upward included. -/
def solidPieces (p : PathText) : List (List Char) :=
  (fields '/' p).filter fun piece => piece != [] && piece != ['.']

def startsWithTwoSlashes : PathText → Bool
  | ['/', '/'] => true
  | '/' :: '/' :: c :: _ => c != '/'
  | _ => false

/-- The absolute form of a path in a directory, by its text alone. Lone dots and repeated slashes
go, `..` and a trailing slash stay, as do two slashes at the start. The empty path has none. -/
def absolute? (directory p : PathText) : Option PathText :=
  if p.isEmpty then none
  else
    let base : PathText :=
      if p.startsWithTwoSlashes then ['/', '/'] else if p.isAbsolute then ['/'] else directory
    let whole := p.solidPieces.foldl join base
    some (if p.endsWithSlash && !whole.endsWithSlash then whole ++ ['/'] else whole)

def text (p : PathText) : String := String.ofList p

end PathText

end BootMedia
