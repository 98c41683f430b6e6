import FluentAssist.Text.Search
import FluentAssist.Url.Percent

/-!
# Segments of a path in an address

The path of an address is read segment by segment. A segment of one dot stands for the place it is
at, a segment of two dots for the place above, and neither stays in the path. A drive letter is
never left by going up.

In the address of a file, a drive letter at the front of the path is written with a colon, and empty
segments at the front are dropped at the end. Tabs and line breaks are left out of every address,
but one behind the drive letter of a file ends the segment of the drive letter.
-/

set_option autoImplicit false

namespace FluentAssist.Url

/-- Tabs and line breaks are left out of an address. -/
def isLeftOut (c : Char) : Bool := c == '\t' || c == '\n' || c == '\r'

/-- A text without what is left out of an address. -/
def kept (text : Text) : Text := text.filter fun c => !isLeftOut c

/-- What separates segments: a slash, and in schemes with hosts a backslash. -/
def isSegmentEnd (special : Bool) (c : Char) : Bool := c == '/' || (special && c == '\\')

/-- What follows a segment end at the start of a text. -/
def afterSegmentEnd? (special : Bool) (text : Text) : Option Text :=
  match text.dropWhile isLeftOut with
  | c :: rest => if isSegmentEnd special c then some rest else none
  | [] => none

/-- The parts of a text between segment ends. -/
def splitSegments (special : Bool) (text : Text) : List Text :=
  Text.pieces '/' (if special then text.map (fun c => if c = '\\' then '/' else c) else text)

/-- A segment that stands for the place it is at. -/
def isSingleDot (segment : Text) : Bool :=
  segment == ['.'] || segment.map Char.toLower == "%2e".toList

/-- A segment that stands for the place above. -/
def isDoubleDot (segment : Text) : Bool :=
  ["..", ".%2e", "%2e.", "%2e%2e"].any fun form => segment.map Char.toLower == form.toList

/-- A drive letter followed by a colon or a vertical bar. -/
def isDriveLetter : Text → Bool
  | [letter, mark] => letter.isAlpha && (mark == ':' || mark == '|')
  | _ => false

/-- Whether a segment begins with a drive letter that ends there or at a backslash. -/
def beginsWithDrive (segment : Text) : Bool :=
  isDriveLetter (segment.take 2) && (segment.drop 2).head?.all (· == '\\')

/-- The segments without the last one; a drive letter stays. -/
def above (segments : List Text) : List Text :=
  if segments.getLast?.any beginsWithDrive then segments else segments.dropLast

/-- What follows a number of characters that are kept. -/
def dropKept : Nat → Text → Text
  | 0, text => text
  | _ + 1, [] => []
  | n + 1, c :: rest => if isLeftOut c then dropKept (n + 1) rest else dropKept n rest

/-- A drive letter with a colon, if something is left out behind it, and the rest of its segment. -/
def detachedDrive? (segment : Text) : Option (Text × Text) :=
  let (drive, rest) := ((kept segment).take 2, (kept segment).drop 2)
  let isDetached := (dropKept 2 segment).head?.any isLeftOut && !rest.isEmpty
  if isDriveLetter drive && drive.getLast? == some ':' && isDetached then some (drive, rest)
  else none

/-- How far a path has been read. -/
structure PathScan where
  /-- The segments, written. -/
  names : List Text := []
  /-- Whether a drive letter of a file was met at the front. -/
  hasDrive : Bool := false

/-- Appends a segment; `last` tells that nothing follows it. A path that ends in a segment of dots
ends in a slash. -/
def PathScan.push (file last : Bool) (scan : PathScan) (segment : Text) : PathScan :=
  let end_ : List Text := if last then [[]] else []
  let atFront := file && scan.names.isEmpty
  let name := kept segment
  match (detachedDrive? segment).filter fun _ => atFront with
  | some (drive, rest) => { scan with names := [drive, percentEncode inPathSet rest] }
  | none =>
    if isDoubleDot name then { scan with names := above scan.names ++ end_ }
    else if isSingleDot name then { scan with names := scan.names ++ end_ }
    else if atFront && isDriveLetter name then ⟨[name.take 1 ++ [':']], true⟩
    else { scan with names := scan.names ++ [percentEncode inPathSet name] }

/-- Appends all segments. -/
def PathScan.pushAll (file : Bool) : PathScan → List Text → PathScan
  | scan, [] => scan
  | scan, [segment] => scan.push file true segment
  | scan, segment :: rest => (scan.push file false segment).pushAll file rest

/-- Segments without empty ones at the front; one segment is left. -/
def withoutEmptyFront (segments : List Text) : List Text :=
  match segments.dropWhile List.isEmpty with
  | [] => [[]]
  | names => names

/-- Reads the segments of a path. In the address of a file the path is as written behind two slashes
without a host, and its first segment end makes an empty segment. -/
def scanPath (special file : Bool) (text : Text) : PathScan :=
  let scan := PathScan.pushAll file {} (splitSegments special text)
  if file then { scan with names := withoutEmptyFront scan.names } else scan

/-- Reads the segments of a path behind its first segment end, if it begins with one. -/
def scanRooted (special file : Bool) (text : Text) : PathScan :=
  scanPath special file ((afterSegmentEnd? special text).getD text)

end FluentAssist.Url
