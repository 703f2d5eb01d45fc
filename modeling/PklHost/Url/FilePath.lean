import PklHost.Url.Parse

/-!
# File paths and file URLs

A file path is a string of octets whose components stand between slashes; empty components and
single dots say nothing, double dots are kept. A relative path is taken from the working directory. A
file URL holds each component encoded, and taking a path from a URL decodes it.
-/

namespace PklHost

/-- A path in a file system. -/
abbrev FilePath := Bytes

namespace FilePath

/-- The octet of a slash. -/
def slash : UInt8 := 0x2f

/-- The octet of a dot. -/
def dot : UInt8 := 0x2e

def ofText (s : String) : FilePath := Bytes.ofText s

/-- Octets between slashes. -/
def splitSlashes : Bytes → List Bytes
  | [] => [[]]
  | b :: bs =>
    if b = slash then [] :: splitSlashes bs
    else
      match splitSlashes bs with
      | [] => [[b]]
      | part :: parts => (b :: part) :: parts

/-- A part that names something. -/
def isComponent (part : Bytes) : Bool :=
  !(part.isEmpty || part == [dot])

/-- The components of a path. -/
def components (path : FilePath) : List Bytes :=
  (splitSlashes path).filter isComponent

def isAbsolute (path : FilePath) : Bool :=
  path.head? = some slash

/-- What a path names, taken from a directory: an absolute path is itself. -/
def join (dir name : FilePath) : FilePath :=
  if dir.isEmpty || name.isAbsolute then name
  else if dir.getLast? = some slash then dir ++ name
  else dir ++ slash :: name

/-- Parts in reverse, without those at the front that name nothing. -/
def dropNothing : List Bytes → List Bytes
  | [] => []
  | part :: rest => if isComponent part then part :: rest else dropNothing rest

/-- The directory that holds what an absolute path names; the root is in none. -/
def parent? (path : FilePath) : Option FilePath :=
  match dropNothing (splitSlashes path).reverse with
  | [] => none
  | _ :: before =>
    match dropNothing before with
    | [] => some [slash]
    | parts => some (List.intercalate [slash] parts.reverse)

end FilePath

namespace Url

/-- The file URL of a path taken from the working directory; an empty path has none. -/
def ofFilePath? (workingDir path : FilePath) : Option Url :=
  if path.isEmpty then none
  else
    let segments := (workingDir.join path).components.map (encodeOctets inSegmentSet)
    let text := if segments.isEmpty then ['/'] else segments.flatMap fun s => '/' :: s
    some ⟨"file", some {}, String.ofList text, none, none⟩

/-- The path that a URL without a host of its own names: its segments, decoded. A path that ends in
a drive letter ends in a slash. -/
def toFilePath? (u : Url) : Option FilePath :=
  let host := u.authority.bind Authority.host
  if (host = none || host = some (.domain "localhost")) && u.path.startsWith "/" then
    let path := decode u.path
    match path.reverse with
    | b :: a :: _ :: _ =>
      let isDrive := (Char.ofNat a.toNat).isAlpha && (b == 0x3a || b == 0x7c)
      some (if isDrive then path ++ [FilePath.slash] else path)
    | _ => some path
  else none

end Url

end PklHost
