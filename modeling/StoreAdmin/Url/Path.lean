import StoreAdmin.Text.Split
import StoreAdmin.Url.Percent

/-!
# Paths

A path is a list of segments. While it is read, a segment of one dot is dropped and a segment of two
dots takes the segment before it along, also if the dots are escaped. A segment that names a drive,
a letter with a colon, is never taken along.
-/

namespace StoreAdmin.Url

/-- A segment of a path, with its escapes. -/
abbrev Segment := List Char

/-- A segment with escaped dots written as dots. -/
def plainDots : List Char → List Char
  | [] => []
  | c :: rest =>
    match rest with
    | two :: e :: rest' =>
      if c = '%' ∧ two = '2' ∧ (e = 'e' ∨ e = 'E') then '.' :: plainDots rest'
      else c :: plainDots (two :: e :: rest')
    | rest => c :: plainDots rest

/-- Whether a segment stands for the place where it is. -/
def Segment.isHere (s : Segment) : Bool :=
  plainDots s = ['.']

/-- Whether a segment stands for the place above. -/
def Segment.isUp (s : Segment) : Bool :=
  plainDots s = ['.', '.']

/-- Whether a segment names a drive: a letter with a colon or a bar. -/
def Segment.isDrive : Segment → Bool
  | [letter, mark] => letter.isAlpha && (mark = ':' || mark = '|')
  | _ => false

/-- The way up from some segments, the last one first. -/
def goUp : List Segment → List Segment
  | [] => []
  | s :: rest => if s.isDrive then s :: rest else rest

/-- Follows segments from `done`, the last one first. A last segment of dots leaves an empty one. -/
def follow : List Segment → List Segment → List Segment
  | done, [] => done.reverse
  | done, [s] =>
    if s.isUp then ([] :: goUp done).reverse
    else if s.isHere then ([] :: done).reverse
    else (s :: done).reverse
  | done, s :: rest =>
    if s.isUp then follow (goUp done) rest
    else if s.isHere then follow done rest
    else follow (s :: done) rest

/-- The segments of a text that follows a leading slash. Schemes with hosts also cut at
backslashes. -/
def segments (special : Bool) (text : List Char) : List Segment :=
  let isSlash (c : Char) := c = '/' || (special && c = '\\')
  follow [] ((Text.splitWhere isSlash text).map (percentEncode isPathChar))

/-- The segments of a path to a file: the path does not start with empty ones, and the drive that
may come first is written with a colon. -/
def fileSegments (text : List Char) : List Segment :=
  let colon (s : Segment) : Segment := if s.isDrive then s.take 1 ++ [':'] else s
  match segments true text with
  | first :: rest =>
    match (colon first :: rest).dropWhile (· = []) with
    | [] => [[]]
    | path => path
  | [] => [[]]

/-- The text of a path: each segment behind a slash. -/
def pathText (path : List Segment) : List Char :=
  path.flatMap fun s => '/' :: s

end StoreAdmin.Url
