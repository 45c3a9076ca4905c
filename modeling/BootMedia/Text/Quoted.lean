import BootMedia.Text.Numeral
import BootMedia.Text.Unprintable

/-!
Path texts in quotation marks. A quotation mark, backslashes and the common controls are written
with a backslash, and what would not show is written by its number.
-/
namespace BootMedia.Quoted

def escape (c : Char) : String :=
  match c.toNat with
  | 0 => "\\0"
  | 9 => "\\t"
  | 10 => "\\n"
  | 13 => "\\r"
  | 34 => "\\\""
  | 92 => "\\\\"
  | n => if Unprintable.isUnprintable c then "\\u\x7b" ++ Numeral.hexLower n ++ "\x7d"
    else String.singleton c

def quote (t : List Char) : String :=
  "\"" ++ String.join (t.map escape) ++ "\""

def quoteOption : Option (List Char) → String
  | none => "None"
  | some t => "Some(" ++ quote t ++ ")"

end BootMedia.Quoted
