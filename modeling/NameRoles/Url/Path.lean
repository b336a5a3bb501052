import NameRoles.Text.Split
import NameRoles.Url.Percent
import NameRoles.Url.Scheme

/-!
# Paths of URLs

A path is read segment by segment, each behind what has been read so far. A segment of one dot
stands for its own directory and one of two dots for the directory above; a directory that has the
name of a drive has none above it.
-/

namespace NameRoles.Url.Path

open Text

/-- The name of a drive, a letter with a colon or a bar. -/
def isDrive : List Char → Bool
  | [letter, mark] => letter.isAlpha && (mark = ':' || mark = '|')
  | _ => false

/-- A text starts with a segment that is the name of a drive. -/
def startsWithDrive (cs : List Char) : Bool :=
  isDrive (cs.take 2) && (cs.drop 2).head?.all ['/', '\\', '?', '#'].contains

/-- A segment that stands for its own directory. -/
def isSingleDot (segment : List Char) : Bool :=
  [".", "%2e"].contains (String.ofList (segment.map Char.toLower))

/-- A segment that stands for the directory above. -/
def isDoubleDot (segment : List Char) : Bool :=
  ["..", "%2e.", ".%2e", "%2e%2e"].contains (String.ofList (segment.map Char.toLower))

def endsWithSlash (path : List Char) : Bool := path.getLast? = some '/'

/-- The path up to its last slash. -/
def directory (path : List Char) : List Char := (path.reverse.dropWhile (· ≠ '/')).reverse

/-- The directory above a directory, which is the same for the root and for a drive. -/
def parent (path : List Char) : List Char :=
  let above := directory path.dropLast
  if endsWithSlash path && !above.isEmpty && !startsWithDrive (path.drop above.length) then above
  else directory path

def withSlash (path : List Char) : List Char :=
  if endsWithSlash path then path else path ++ ['/']

/-- The path with one more segment, which a slash follows or not. The first segment of a file's path
may be a drive, whose name is written with a colon. -/
def push (kind : SchemeKind) (path segment : List Char) (slash : Bool) : List Char :=
  if isDoubleDot segment then if slash then withSlash (parent path) else parent path
  else if isSingleDot segment then withSlash path
  else
    let segment := if kind = .file && path.length = 1 && isDrive segment
      then segment.take 1 ++ [':'] else segment
    path ++ segment ++ if slash then ['/'] else []

/-- The path with more segments, all but the last of which are followed by slashes. -/
def pushAll (kind : SchemeKind) (path : List Char) : List (List Char) → List Char
  | [] => path
  | [segment] => push kind path segment false
  | segment :: segments => pushAll kind (push kind path segment true) segments

/-- The path that a text leads to from a path. -/
def follow (kind : SchemeKind) (path cs : List Char) : List Char :=
  pushAll kind path (splitWhere (isSlash kind.isSpecial) (encode inPath cs))

/-- The path of a text that stands behind a server, or where one might stand. -/
def readBehind (kind : SchemeKind) (hasHost : Bool) (cs : List Char) : List Char :=
  match kind, cs with
  | .other, [] => []
  | .other, '/' :: _ => follow kind [] cs
  | .other, cs => follow kind ['/'] cs
  | _, [] => follow kind (if hasHost then ['/'] else []) []
  | _, c :: cs =>
    if hasHost then follow kind ['/'] (if isSlash true c then cs else c :: cs)
    else follow kind [] (c :: cs)

/-- The path as it is written: that of a file starts with a single slash. -/
def text (kind : SchemeKind) (path : List Char) : String :=
  String.ofList <| match kind with
    | .file => '/' :: path.dropWhile (· = '/')
    | _ => path

end NameRoles.Url.Path
