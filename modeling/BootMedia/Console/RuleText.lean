import BootMedia.Console.Selection
import BootMedia.Path
import BootMedia.Text.Alphanumeric
import BootMedia.Text.Blank
import BootMedia.Text.ByteSlice
import BootMedia.Text.Pattern

/-!
Selections as they are written: rules with commas between them. A rule is a depth alone, or a
scope, a bracket and, behind an equals sign, a depth, of which the scope or the bracket may be
left out and the depth too. The bracket names a span and, in braces, a value that has to be there,
or what it has to hold. No diagnostic is written inside a span, and no value is looked into, so
that a rule for a span or for what a value holds is understood but concerns nothing.
-/
namespace BootMedia

namespace Selection

/-- The words for depths, in any case of letters; their numbers are understood too. -/
def depthWords : List (List Char) :=
  ["off".toList, "error".toList, "warn".toList, "info".toList, "debug".toList, "trace".toList]

def depthOfWord (word : List Char) : Option Nat :=
  match Numeral.ofDecimal? word with
  | some n => if n ≤ fullDepth then some n else none
  | none => depthWords.idxOf? (word.map Char.toLower)

/-- The depth behind an equals sign; where it is left out, everything is shown. -/
def depthOfTail (word : List Char) : Option Nat :=
  if word.isEmpty then some fullDepth else depthOfWord word

end Selection

/-- How far a rule has been read. A number is the byte offset at which a part began. -/
inductive RuleStage
  | start
  | word
  | span (start : Nat)
  | value (start : Nat)
  | pastValue
  | pastBracket
  | depth (start : Nat)
deriving DecidableEq

/-- A rule that is being read. -/
structure RuleDraft where
  stage : RuleStage
  scope : List Char
  value : List Char
  /-- The rule is for a span or for what a value holds. -/
  void : Bool

namespace RuleDraft

def blank : RuleDraft := ⟨.start, [], [], false⟩

def startsWord (c : Char) : Bool :=
  Alphanumeric.isAlphanumeric c || c == '-' || c == ':' || c == '_'

/-- What a value has to hold is a number or a regular expression. -/
def isContentTest (t : List Char) : Bool :=
  Pattern.isPattern t || (t.head? == some '+' && Numeral.isFractional t.tail)

/-- The draft after the text between two braces: the name of a value, or a name and what the value
has to hold. -/
def withValue (d : RuleDraft) (text : List Char) : Option RuleDraft :=
  match fields '=' text with
  | name :: test :: _ =>
    if isContentTest test then some { d with stage := .pastValue, value := name, void := true }
    else none
  | [name] => if name.isEmpty then none else some { d with stage := .pastValue, value := name }
  | [] => none

/-- The draft after a character at a byte offset. Offsets count from the first character that is
no blank, but texts are cut from the whole piece. -/
def step (piece : List Char) (d : RuleDraft) (i : Nat) (c : Char) : Option RuleDraft :=
  match d.stage with
  | .start =>
    if c == '[' then some { d with stage := .span (i + 1) }
    else if startsWord c then some { d with stage := .word } else none
  | .word =>
    if c == '=' then
      (byteSlice? piece 0 i).map fun scope => { d with stage := .depth (i + 1), scope }
    else if c == '[' then
      (byteSlice? piece 0 i).map fun scope => { d with stage := .span (i + 1), scope }
    else some d
  | .span start =>
    if c == ']' then some { d with stage := .pastBracket, void := true }
    else if c == '\x7b' then
      (byteSlice? piece start i).map fun name =>
        { d with stage := .value (i + 1), void := !name.isEmpty }
    else some d
  | .value start =>
    if c == '\x7d' then (byteSlice? piece start i).bind d.withValue else some d
  | .pastValue => if c == ']' then some { d with stage := .pastBracket } else none
  | .pastBracket => if c == '=' then some { d with stage := .depth (i + 1) } else none
  | .depth _ => some d

def read (piece : List Char) : RuleDraft → Nat → List Char → Option RuleDraft
  | d, _, [] => some d
  | d, i, c :: rest => (d.step piece i c).bind fun next => next.read piece (i + c.utf8Size) rest

def rules (d : RuleDraft) (depth : Nat) : Selection :=
  if d.void then [] else [⟨d.scope, d.value, depth⟩]

/-- What a piece stands for at its end. A word that names no depth is a scope. -/
def finish (piece : List Char) (d : RuleDraft) : Option Selection :=
  match d.stage with
  | .word =>
    match Selection.depthOfWord piece with
    | some depth => some [⟨[], [], depth⟩]
    | none => some [⟨piece, [], Selection.fullDepth⟩]
  | .pastBracket => some (d.rules Selection.fullDepth)
  | .depth start => ((dropBytes? start piece).bind Selection.depthOfTail).map d.rules
  | _ => none

end RuleDraft

namespace Selection

def ofPiece (piece : List Char) : Option Selection :=
  (RuleDraft.blank.read piece 0 (Blank.trim piece)).bind (RuleDraft.finish piece)

def ofPieces : List (List Char) → Option Selection
  | [] => some []
  | piece :: rest =>
    match ofPiece piece, ofPieces rest with
    | some rules, some more => some (rules ++ more)
    | _, _ => none

def ofText (t : List Char) : Option Selection :=
  ofPieces ((fields ',' t).filter (!·.isEmpty))

/-- The selection a variable asks for; one that cannot be read asks for nothing. -/
def ofVariable (value : Option (List Char)) : Selection := (value.bind ofText).getD standard

end Selection

end BootMedia
