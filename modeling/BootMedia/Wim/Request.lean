import BootMedia.Wim.ExtractError

/-!
A request to take one file out of a numbered image of a WIM file. The file is named inside the
image, with backslashes between directories; the destination is a path of the host.
-/
namespace BootMedia

/-- Extract the file `src` of image number `index` in the WIM file `image` to `dst`. -/
structure Request where
  image : PathText
  index : UInt32
  src : List Char
  dst : PathText
deriving DecidableEq

namespace Request

/-- The first of image, source and destination that is empty makes the request invalid. -/
def validate (r : Request) : Except ExtractError Unit :=
  if r.image.isEmpty then .error (.invalidRequest "no image given")
  else if r.src.isEmpty then .error (.invalidRequest "no source file given")
  else if r.dst.isEmpty then .error (.invalidRequest "no destination given")
  else .ok ()

/-- The directory part of the destination, or the current directory when it has none. -/
def destinationDir (r : Request) : PathText :=
  match r.dst.parent? with
  | some (c :: rest) => c :: rest
  | _ => PathText.here

def isSeparator (c : Char) : Bool := c == '\\' || c == '/'

def sourceName (r : Request) : List Char :=
  (r.src.reverse.takeWhile (!isSeparator ·)).reverse

end Request

/-- The file an archiver is expected to leave in the destination directory: the one that was
asked for, or one of a fixed name whatever was asked for. -/
inductive ExpectedOutput
  | sourceName
  | fixed (name : List Char)
deriving DecidableEq

namespace ExpectedOutput

def legacy : ExpectedOutput := fixed "bootmgfw.efi".toList

def fileName (e : ExpectedOutput) (r : Request) : List Char :=
  match e with
  | sourceName => r.sourceName
  | fixed name => name

def path (e : ExpectedOutput) (r : Request) : PathText := r.destinationDir.join (e.fileName r)

end ExpectedOutput

end BootMedia
