import FluentAssist.Json.Printer
import FluentAssist.Json.Reader
import FluentAssist.Text.Blank
import FluentAssist.Text.Search
import FluentAssist.Text.Utf8

/-!
# Messages on a byte stream

A message is sent as a frame: header lines, an empty line, and a body of as many bytes as the header
`Content-Length` says. The body is a JSON value. Header names are compared without regard to case,
other headers are skipped, and of several lengths the last one counts.

`Frame.write` makes the frame of a value. `Frame.read` takes one frame from the start of a stream.
A body that is no JSON value is passed over, so that the stream stays in step; a fault in the header
or an end in the middle of a frame breaks the stream.
-/

set_option autoImplicit false

namespace FluentAssist.Frame

/-- Why a stream broke. -/
inductive Fault
  /-- A header line is not UTF-8. -/
  | invalidText
  /-- The stream ended in the middle of a body. -/
  | truncatedBody
  /-- The header has no length, or the stream ended in the middle of a header. -/
  | missingLength
  /-- The length is not a number of 64 bits. -/
  | invalidLength
  deriving DecidableEq, Repr

/-- The wording of the faults of a header. -/
def Fault.message? : Fault → Option String
  | .missingLength => some "missing Content-Length header"
  | .invalidLength => some "invalid Content-Length header"
  | .invalidText => none
  | .truncatedBody => none

/-- What a header line says. -/
inductive HeaderLine
  /-- An empty line ends the header. -/
  | last
  | length (bytes : Nat)
  | other
  deriving DecidableEq, Repr

/-- What stands at the start of a stream. -/
inductive Incoming
  | message (value : Json) (rest : List UInt8)
  /-- A frame whose body is no JSON value. -/
  | malformed (rest : List UInt8)
  /-- More bytes have to come. -/
  | waiting
  /-- The stream ended between two frames. -/
  | ended
  | broken (fault : Fault)

/-- The byte of a line feed. -/
def lineFeed : UInt8 := 10

/-- The first line, with its line feed if it has one, and what follows. -/
def splitLine : List UInt8 → List UInt8 × List UInt8
  | [] => ([], [])
  | b :: rest =>
    if b = lineFeed then ([b], rest)
    else
      let (line, after) := splitLine rest
      (b :: line, after)

/-- Behind a line there are no more bytes than before. -/
theorem splitLine_rest_le (bytes : List UInt8) : (splitLine bytes).2.length ≤ bytes.length := by
  induction bytes with
  | nil => simp [splitLine]
  | cons b rest ih =>
    by_cases hfeed : b = lineFeed
    · simp [splitLine, hfeed]
    · simpa [splitLine, hfeed] using Nat.le_succ_of_le ih

/-- Taking a line makes a stream shorter. -/
theorem splitLine_rest_lt (b : UInt8) (rest : List UInt8) :
    (splitLine (b :: rest)).2.length < (b :: rest).length := by
  by_cases hfeed : b = lineFeed
  · simp [splitLine, hfeed]
  · simpa [splitLine, hfeed] using Nat.lt_succ_of_le (splitLine_rest_le rest)

/-- Whether a line is complete. -/
def endsLine (line : List UInt8) : Bool := line.getLast? == some lineFeed

/-- A line without line feeds and carriage returns at its end. -/
def trimLine (line : Text) : Text :=
  (line.reverse.dropWhile fun c => c == '\r' || c == '\n').reverse

/-- A natural number of 64 bits in decimal digits, possibly after a plus sign. -/
def natural? (text : Text) : Option Nat :=
  let digits := if text.head? = some '+' then text.drop 1 else text
  if digits.isEmpty || !digits.all Char.isDigit then none
  else
    let value := digits.foldl (fun n c => n * 10 + Json.digitValue c) 0
    if value < wordSize64 then some value else none

/-- Whether a name is that of the length, in any case. -/
def isLengthName (name : Text) : Bool := name.map Char.toLower == "content-length".toList

/-- Reads a header line. -/
def headerLine (line : Text) : Except Fault HeaderLine :=
  let trimmed := trimLine line
  if trimmed.isEmpty then .ok .last
  else
    match Text.splitOnce? ':' trimmed with
    | some (name, value) =>
      if isLengthName name then
        match natural? (Text.trim value) with
        | some bytes => .ok (.length bytes)
        | none => .error .invalidLength
      else .ok .other
    | none => .ok .other

/-- What is known of a header. -/
inductive Header
  /-- The header is complete; the length may be missing. -/
  | complete (length : Option Nat) (rest : List UInt8)
  | waiting
  | broken (fault : Fault)

/-- Reads header lines up to an empty one. `length` is what earlier lines said, and `ended` tells
whether no more bytes will come. -/
def readHeader (ended : Bool) (length : Option Nat) : List UInt8 → Header
  | [] => if ended then .broken .missingLength else .waiting
  | b :: rest =>
    let line := (splitLine (b :: rest)).1
    if !ended && !endsLine line then .waiting
    else
      match Utf8.decode? line with
      | none => .broken .invalidText
      | some text =>
        match headerLine text with
        | .error fault => .broken fault
        | .ok .last => .complete length (splitLine (b :: rest)).2
        | .ok (.length bytes) => readHeader ended (some bytes) (splitLine (b :: rest)).2
        | .ok .other => readHeader ended length (splitLine (b :: rest)).2
termination_by bytes => bytes.length
decreasing_by
  · exact splitLine_rest_lt b rest
  · exact splitLine_rest_lt b rest

/-- The value of a body. -/
def body? (bytes : List UInt8) : Option Json := (Utf8.decode? bytes).bind Json.read?

/-- Takes a body of a length from a stream. -/
def readBody (ended : Bool) (length : Nat) (bytes : List UInt8) : Incoming :=
  if bytes.length < length then
    if ended then .broken .truncatedBody else .waiting
  else
    match body? (bytes.take length) with
    | some value => .message value (bytes.drop length)
    | none => .malformed (bytes.drop length)

/-- Takes a frame from the start of a stream. `ended` tells whether no more bytes will come. -/
def read (ended : Bool) (bytes : List UInt8) : Incoming :=
  if bytes.isEmpty then
    if ended then .ended else .waiting
  else
    match readHeader ended none bytes with
    | .waiting => .waiting
    | .broken fault => .broken fault
    | .complete none _ => .broken .missingLength
    | .complete (some length) rest => readBody ended length rest

/-- The header of a body of some bytes. -/
def header (length : Nat) : Text :=
  "Content-Length: ".toList ++ Nat.toDigits 10 length ++ "\r\n\r\n".toList

/-- The body of a value: its members in the order of their keys. -/
def body (value : Json) : List UInt8 := Utf8.encode value.sorted.compact

/-- The frame of a body. -/
def ofBody (bytes : List UInt8) : List UInt8 := Utf8.encode (header bytes.length) ++ bytes

/-- The frame of a value. -/
def write (value : Json) : List UInt8 := ofBody (body value)

/-- A complete header takes at least one byte. -/
theorem readHeader_rest_lt (ended : Bool) (length : Option Nat) (bytes : List UInt8)
    {found : Option Nat} {rest : List UInt8}
    (hread : readHeader ended length bytes = .complete found rest) :
    rest.length < bytes.length := by
  fun_induction readHeader ended length bytes with
  | case1 => simp at hread
  | case2 => simp at hread
  | case3 => simp at hread
  | case4 => simp at hread
  | case5 => simp at hread
  | case6 length b tail line hwait text hdecode hline =>
    cases hread
    exact splitLine_rest_lt b tail
  | case7 length b tail line hwait text hdecode bytes hline ih =>
    exact Nat.lt_trans (ih hread) (splitLine_rest_lt b tail)
  | case8 length b tail line hwait text hdecode hline ih =>
    exact Nat.lt_trans (ih hread) (splitLine_rest_lt b tail)

/-- What is left of a stream after a frame. -/
def Incoming.rest? : Incoming → Option (List UInt8)
  | .message _ rest => some rest
  | .malformed rest => some rest
  | .waiting => none
  | .ended => none
  | .broken _ => none

/-- Behind a body there are no more bytes than before. -/
theorem readBody_rest_le (ended : Bool) (length : Nat) (bytes : List UInt8) {rest : List UInt8}
    (hread : (readBody ended length bytes).rest? = some rest) : rest.length ≤ bytes.length := by
  unfold readBody at hread
  split at hread
  · split at hread <;> simp [Incoming.rest?] at hread
  · split at hread <;> simp only [Incoming.rest?, Option.some.injEq] at hread <;>
      simp [← hread]

/-- Taking a frame makes a stream shorter. -/
theorem read_rest_lt (ended : Bool) (bytes : List UInt8) {rest : List UInt8}
    (hread : (read ended bytes).rest? = some rest) : rest.length < bytes.length := by
  unfold read at hread
  split at hread
  · split at hread <;> simp [Incoming.rest?] at hread
  · split at hread
    · simp [Incoming.rest?] at hread
    · simp [Incoming.rest?] at hread
    · simp [Incoming.rest?] at hread
    · next length after hheader =>
      exact Nat.lt_of_le_of_lt (readBody_rest_le ended length after hread)
        (readHeader_rest_lt ended none bytes hheader)

/-- All that can be taken from a stream, frame by frame. -/
def readAll (ended : Bool) (bytes : List UInt8) : List Incoming :=
  match _hrest : (read ended bytes).rest? with
  | some rest => read ended bytes :: readAll ended rest
  | none => [read ended bytes]
termination_by bytes.length
decreasing_by exact read_rest_lt ended bytes _hrest

/-- The values among the frames that were taken. -/
def values : List Incoming → List Json
  | [] => []
  | .message value _ :: later => value :: values later
  | _ :: later => values later

/-- How the stream goes on after its complete frames: the bytes that are still incomplete, or
nothing if the stream is over. -/
def unread? (ended : Bool) (bytes : List UInt8) : Option (List UInt8) :=
  match _hread : read ended bytes with
  | .message _ rest => unread? ended rest
  | .malformed rest => unread? ended rest
  | .waiting => some bytes
  | .ended => none
  | .broken _ => none
termination_by bytes.length
decreasing_by
  · exact read_rest_lt ended bytes (by simp [_hread, Incoming.rest?])
  · exact read_rest_lt ended bytes (by simp [_hread, Incoming.rest?])

end FluentAssist.Frame
