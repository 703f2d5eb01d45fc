import PklHost.Url.Host

/-!
# Paths

A path is cut at its slashes, its segments are encoded, and segments that are one or two dots, also
spelled with escapes, are resolved. A drive letter at the front of a path stays when two dots would
remove it. In file URLs a drive letter is written with a colon and a slash after it, and slashes at
the front of the path collapse into one.
-/

namespace PklHost.Url

def isSingleDot (segment : List Char) : Bool :=
  segment == ".".toList || segment == "%2e".toList || segment == "%2E".toList

def isDoubleDot (segment : List Char) : Bool :=
  ["..", "%2e%2e", "%2e%2E", "%2E%2e", "%2E%2E", "%2e.", "%2E.", ".%2e", ".%2E"].any
    fun s => segment == s.toList

/-- A letter and a colon or bar. -/
def isDriveLetter : List Char → Bool
  | [a, b] => a.isAlpha && (b == ':' || b == '|')
  | _ => false

/-- A segment that two dots do not remove. -/
def isKept : List Char → Bool
  | [a, b] => isDriveLetter [a, b]
  | a :: b :: '\\' :: _ => isDriveLetter [a, b]
  | _ => false

/-- The segments before the last, the latest first. -/
abbrev Completed := List (List Char)

/-- The completed segments without the latest, unless it is kept. -/
def Completed.shorten : Completed → Completed
  | [] => []
  | segment :: before => if isKept segment then segment :: before else before

/-- The first segment of a file path: one that begins with a drive letter and a colon is two. -/
def splitDrive : List Char → List (List Char)
  | a :: ':' :: c :: rest => if a.isAlpha then [[a, ':'], c :: rest] else [a :: ':' :: c :: rest]
  | [a, '|'] => if a.isAlpha then [[a, ':']] else [[a, '|']]
  | segment => [segment]

/-- A path whose dots are resolved. -/
structure Resolved where
  done : Completed
  last : List Char
  /-- A whole segment at the front was a drive letter. -/
  drive : Bool

/-- Resolves the dots of the segments that follow the completed ones. -/
def resolve (isFile drive : Bool) : Completed → List (List Char) → Resolved
  | done, [] => ⟨done, [], drive⟩
  | done, segment :: rest =>
    if isDoubleDot segment then
      if rest.isEmpty then ⟨done.shorten, [], drive⟩ else resolve isFile drive done.shorten rest
    else if isSingleDot segment then
      if rest.isEmpty then ⟨done, [], drive⟩ else resolve isFile drive done rest
    else
      let atFront := isFile && done.isEmpty
      let parts := if atFront then splitDrive segment else [segment]
      let drive := drive || (atFront && isDriveLetter segment)
      if rest.isEmpty then ⟨parts.dropLast.reverse ++ done, parts.getLast?.getD [], drive⟩
      else resolve isFile drive (parts.reverse ++ done) rest

/-- The path of segments, with a slash before each. -/
def joinSegments (done : Completed) (last : List Char) : List Char :=
  (done.reverse ++ [last]).flatMap fun segment => '/' :: segment

/-- The resolved segments after the slash that begins a path. -/
def segmentsOf (c : SchemeClass) (cs : List Char) : Resolved :=
  let slashes := if c.isSpecial then cs.map fun ch => if ch = '\\' then '/' else ch else cs
  resolve (c == .file) false [] ((Text.splitAll '/' slashes).map (encodeChars inPathSet))

/-- The path after the slash that begins it. -/
def pathOf (c : SchemeClass) (cs : List Char) : List Char :=
  let r := segmentsOf c cs
  let path := joinSegments r.done r.last
  if c == .file then '/' :: path.dropWhile (· == '/') else path

end PklHost.Url
