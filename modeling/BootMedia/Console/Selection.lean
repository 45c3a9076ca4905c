import BootMedia.Notice

/-!
Which diagnostics are shown. A selection is a list of rules. A rule concerns the diagnostics of
the scopes that begin with a given text, or only those of them that carry a value of a given name,
and says up to which depth they are shown; of the rules that concern a diagnostic the most
particular one decides, and without one the diagnostic is not shown.
-/
namespace BootMedia

/-- How deep a level lies; depth 0 shows nothing, and one beyond all levels shows everything. -/
def Level.depth : Level → Nat
  | error => 1
  | warn => 2
  | info => 3
  | debug => 4

/-- The names of the values that a diagnostic carries; its text is one of them. -/
def Notice.valueNames (n : Notice) : List (List Char) :=
  "message".toList :: n.details.map fun d => d.1.toList

/-- Shows the diagnostics it concerns up to a depth. -/
structure SelectionRule where
  /-- What their scopes begin with. -/
  scope : List Char
  /-- The name of a value that they carry; the empty text asks for none. -/
  value : List Char
  depth : Nat
deriving DecidableEq

namespace SelectionRule

def concerns (rule : SelectionRule) (n : Notice) : Bool :=
  rule.scope.isPrefixOf n.scope.toList &&
    (rule.value.isEmpty || n.valueNames.contains rule.value)

/-- Another rule is at least as particular. A longer scope counts first, then a value over none,
and of two values the later one by name. -/
def givesWayTo (rule other : SelectionRule) : Bool :=
  rule.scope.length < other.scope.length ||
    (rule.scope.length == other.scope.length && !other.value.lex rule.value (· < ·))

end SelectionRule

abbrev Selection := List SelectionRule

namespace Selection

def fullDepth : Nat := 5

/-- The more particular of two rules, the second one if neither is. -/
def prefer (best : Option SelectionRule) (rule : SelectionRule) : Option SelectionRule :=
  match best with
  | none => some rule
  | some other => if other.givesWayTo rule then some rule else some other

def depth (s : Selection) (n : Notice) : Nat :=
  match (s.filter fun rule => rule.concerns n).foldl prefer none with
  | some rule => rule.depth
  | none => 0

def shows (s : Selection) (n : Notice) : Bool := n.level.depth ≤ s.depth n

def standard : Selection := [⟨"vhd".toList, [], 3⟩, ⟨"wimextract".toList, [], 3⟩]

end Selection

end BootMedia
