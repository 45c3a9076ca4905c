/-!
The compression of an image as its name tells it. What counts is the text from the last dot on,
compared exactly; a dot in the first position starts no suffix.
-/
namespace BootMedia

inductive Compression
  | none
  | xz
  | gzip
  | lzma
  | bzip2
  | lzw
deriving DecidableEq

namespace Compression

def suffixes : List (List Char × Compression) :=
  [(['.', 'x', 'z'], xz), (['.', 'g', 'z'], gzip), (['.', 'l', 'z', 'm', 'a'], lzma),
   (['.', 'b', 'z', '2'], bzip2), (['.', 'Z'], lzw)]

def suffix? (c : Compression) : Option (List Char) :=
  (suffixes.find? fun s => s.2 == c).map (·.1)

def isCompressed (c : Compression) : Bool := c.suffix?.isSome

/-- The text from the last dot on, unless that dot is the first character or missing. -/
def lastSuffix? (path : List Char) : Option (List Char) :=
  match path.reverse.span (· != '.') with
  | (_, []) => Option.none
  | (_, [_]) => Option.none
  | (tail, dot :: _) => some (dot :: tail.reverse)

def sniff (path : List Char) : Compression :=
  match lastSuffix? path with
  | Option.none => none
  | some found => ((suffixes.find? fun s => s.1 == found).map (·.2)).getD none

/-- A compressed image is taken to be bootable until it has been decompressed. -/
def suggestsBootable (path : List Char) : Bool := (sniff path).isCompressed

def name : Compression → String
  | none => "None"
  | xz => "Xz"
  | gzip => "Gzip"
  | lzma => "Lzma"
  | bzip2 => "Bzip2"
  | lzw => "Lzw"

end Compression

end BootMedia
