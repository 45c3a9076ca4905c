import BootMedia.Console.Selection

/-!
What a command writes: lines of its answer and diagnostics, in the order in which they arise, and
a complaint if it fails. Which diagnostics are shown is decided when the lines are written out.
-/
namespace BootMedia

/-- A line of the answer, or a diagnostic. -/
inductive Line
  | answer (text : String)
  | notice (n : Notice)
deriving DecidableEq

namespace Level

def name : Level → String
  | error => "ERROR"
  | warn => "WARN"
  | info => "INFO"
  | debug => "DEBUG"

end Level

/-- Bell, backspace, form feed, escape and delete: controls that a terminal would obey. -/
def terminalControls : List Nat := [0x07, 0x08, 0x0C, 0x1B, 0x7F]

/-- A character of a diagnostic, by its number if a terminal would obey it. -/
def harmless (c : Char) : String :=
  let n := c.toNat
  if terminalControls.contains n then "\\x" ++ Numeral.padLeft '0' 2 (Numeral.hexLower n)
  else if 0x80 ≤ n ∧ n ≤ 0x9F then "\\u\x7b" ++ Numeral.hexLower n ++ "\x7d"
  else String.singleton c

def harmlessText (t : String) : String := String.join (t.toList.map harmless)

/-- A diagnostic after the moment it arose: its level, its text, and its details by name. -/
def Notice.lineText (moment : String) (n : Notice) : String :=
  moment ++ " " ++ Numeral.padLeft ' ' 5 n.level.name ++ " " ++ harmlessText n.text ++
    String.join (n.details.map fun d => " " ++ d.1 ++ "=" ++ d.2) ++ "\n"

/-- A line as it is written out, if it is shown. -/
def Line.text (s : Selection) (moment : String) : Line → String
  | answer t => t ++ "\n"
  | notice n => if s.shows n then n.lineText moment else ""

/-- What a command comes to. -/
structure CommandRun where
  exitCode : Nat
  lines : List Line
  complaint : String
deriving DecidableEq

namespace CommandRun

def outputText (r : CommandRun) (s : Selection) (moment : String) : String :=
  String.join (r.lines.map (Line.text s moment))

/-- An error with its causes below it, the outermost first. -/
def errorText : List String → String
  | [] => ""
  | [outermost] => "Error: " ++ outermost ++ "\n"
  | outermost :: causes =>
    "Error: " ++ outermost ++ "\n\nCaused by:" ++
      String.join (causes.map fun cause => "\n    " ++ cause) ++ "\n"

def success (lines : List Line) : CommandRun := ⟨0, lines, ""⟩

def failure (lines : List Line) (chain : List String) : CommandRun := ⟨1, lines, errorText chain⟩

def breakdown : CommandRun := ⟨101, [], ""⟩

end CommandRun

end BootMedia
