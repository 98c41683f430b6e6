import FluentAssist.Text.Digits
import FluentAssist.Yaml.Source

/-!
# YAML scalars

A scalar is a piece of text: plain, in single or double quotes, or a block of indented lines. Lines
of plain, quoted and folded scalars are joined by spaces.
-/

set_option autoImplicit false

namespace FluentAssist.Yaml

/-- How a scalar is written. -/
inductive ScalarStyle
  | plain
  | quoted
  | literal
  | folded
  deriving DecidableEq, Repr

/-- Whether a character separates or encloses the items of a flow collection. -/
def isFlowMark (c : Char) : Bool := c == ',' || c == '[' || c == ']' || c == '\x7b' || c == '\x7d'

/-- The characters of a plain scalar up to white space or to a mark that ends it. -/
def plainRun (flow : Bool) : Text → Option Text
  | [] => some []
  | c :: rest =>
    if isBlank c || isBreak c then some []
    else if flow && c == ':' && (rest.head?.any fun d => isFlowMark d || d == '?') then none
    else if c == ':' && startsBlank rest then some []
    else if flow && isFlowMark c then some []
    else (plainRun flow rest).map (c :: ·)

/-- Reads a plain scalar on from a gap. The last part of the result tells whether the scalar was
followed by a line break. -/
def plainFrom (flow : Bool) (indent : Nat) :
    Nat → Source → Gap → Text → Option (Text × Source × Bool)
  | 0, source, gap, done => some (done, source, gap.folded)
  | fuel + 1, source, gap, done =>
    if source.atDocumentMark || source.at_ '#' then some (done, source, gap.folded)
    else
      match plainRun flow source.rest with
      | none => none
      | some word =>
        let next := source.skip word.length
        let text := if word.isEmpty then done else done ++ gap.text ++ word
        let pause : Gap := if word.isEmpty then gap else {}
        if startsBlank next.rest && !next.rest.isEmpty then
          match gatherGap (some indent) next.rest.length next pause with
          | none => none
          | some (gathered, after) =>
            if !flow && after.column < indent then some (text, after, gathered.folded)
            else plainFrom flow indent fuel after gathered text
        else some (text, next, pause.folded)

/-- Reads a plain scalar. -/
def plainScalar (flow : Bool) (indent : Nat) (source : Source) : Option (Text × Source × Bool) :=
  plainFrom flow indent (source.rest.length + 1) source {} []

/-- A character that is written by its number in hexadecimal digits. -/
def numbered? (digits : Text) : Option Char := do
  let values ← digits.mapM Text.hexValue?
  let code := values.foldl (fun n d => n * 16 + d) 0
  if code.isValidChar then some (Char.ofNat code) else none

/-- The character of an escape sequence after its backslash, and how long the sequence is. -/
def escape? : Text → Option (Char × Nat)
  | '0' :: _ => some ('\x00', 1)
  | 'a' :: _ => some ('\x07', 1)
  | 'b' :: _ => some ('\x08', 1)
  | 't' :: _ => some ('\t', 1)
  | '\t' :: _ => some ('\t', 1)
  | 'n' :: _ => some ('\n', 1)
  | 'v' :: _ => some ('\x0b', 1)
  | 'f' :: _ => some ('\x0c', 1)
  | 'r' :: _ => some ('\r', 1)
  | 'e' :: _ => some ('\x1b', 1)
  | ' ' :: _ => some (' ', 1)
  | '"' :: _ => some ('"', 1)
  | '/' :: _ => some ('/', 1)
  | '\\' :: _ => some ('\\', 1)
  | 'N' :: _ => some ('\u0085', 1)
  | '_' :: _ => some ('\u00a0', 1)
  | 'L' :: _ => some ('\u2028', 1)
  | 'P' :: _ => some ('\u2029', 1)
  | 'x' :: rest => sized 2 rest
  | 'u' :: rest => sized 4 rest
  | 'U' :: rest => sized 8 rest
  | _ => none
where
  /-- An escape with a fixed number of digits. -/
  sized (count : Nat) (rest : Text) : Option (Char × Nat) :=
    if rest.length < count then none
    else (numbered? (rest.take count)).map fun c => (c, count + 1)

/-- How a run of characters of a quoted scalar ends. -/
inductive QuotedEnd
  | quote
  | gap
  /-- A line break that a backslash hides. -/
  | hiddenBreak
  deriving DecidableEq, Repr

/-- The characters of a quoted scalar up to white space or to the closing quote. -/
def quotedRun (single : Bool) : Nat → Source → Text → Option (Text × Source × QuotedEnd)
  | 0, _, _ => none
  | fuel + 1, source, done =>
    match source.rest with
    | [] => some (done, source, .gap)
    | c :: rest =>
      if isBlank c || isBreak c then some (done, source, .gap)
      else if single && c == '\'' then
        if rest.head? == some '\'' then quotedRun single fuel (source.skip 2) (done ++ ['\''])
        else some (done, source, .quote)
      else if !single && c == '"' then some (done, source, .quote)
      else if !single && c == '\\' then
        if !rest.isEmpty && startsBreak rest then
          some (done, ((source.skip 1).readBreak).2, .hiddenBreak)
        else
          match escape? rest with
          | some (escaped, length) =>
            quotedRun single fuel (source.skip (1 + length)) (done ++ [escaped])
          | none => none
      else quotedRun single fuel (source.skip 1) (done ++ [c])

/-- Reads a quoted scalar from after its opening quote. -/
def quotedFrom (single : Bool) : Nat → Source → Text → Option (Text × Source)
  | 0, _, _ => none
  | fuel + 1, source, done =>
    if source.atDocumentMark || source.rest.isEmpty then none
    else
      match quotedRun single (source.rest.length + 1) source done with
      | none => none
      | some (text, next, ending) =>
        if ending = .quote then some (text, next.skip 1)
        else
          let start : Gap := if ending = .hiddenBreak then { folded := true } else {}
          match gatherGap none next.rest.length next start with
          | none => none
          | some (gap, after) => quotedFrom single fuel after (text ++ gap.text)

/-- Reads a quoted scalar. -/
def quotedScalar (single : Bool) (source : Source) : Option (Text × Source) :=
  quotedFrom single (source.rest.length + 1) (source.skip 1) []

/-- What is kept of the line breaks at the end of a block. -/
inductive Chomping
  | strip
  | clip
  | keep
  deriving DecidableEq, Repr

/-- The chomping of a mark. -/
def chompingOf? : Char → Option Chomping
  | '+' => some .keep
  | '-' => some .strip
  | _ => none

/-- An indentation of one to nine columns. -/
def indentationOf? (c : Char) : Option Nat :=
  if '1' ≤ c && c ≤ '9' then some (c.toNat - '0'.toNat) else none

/-- Reads the marks of a block in either order: chomping and indentation. -/
def blockMarks (source : Source) : Option (Chomping × Option Nat × Source) :=
  match source.rest with
  | [] => some (.clip, none, source)
  | first :: rest =>
    match chompingOf? first with
    | some chomping =>
      match rest with
      | second :: _ =>
        if second.isDigit then
          (indentationOf? second).map fun n => (chomping, some n, source.skip 2)
        else some (chomping, none, source.skip 1)
      | [] => some (chomping, none, source.skip 1)
    | none =>
      if first.isDigit then
        match indentationOf? first with
        | none => none
        | some n =>
          match rest.head?.bind chompingOf? with
          | some chomping => some (chomping, some n, source.skip 2)
          | none => some (.clip, some n, source.skip 1)
      else some (.clip, none, source)

/-- Passes over blanks, a comment and the line break after the marks of a block. -/
def endOfMarks (source : Source) : Option Source :=
  let blanks := source.rest.takeWhile isBlank
  let after := source.skip blanks.length
  let after := if after.at_ '#' then after.readLine.2 else after
  if startsBreak after.rest then some after.readBreak.2 else none

/-- Passes over indentation and empty lines; the indentation may still be open. The result has the
breaks, the widest indentation and the place after them. -/
def blockBreaks (indent : Option Nat) : Nat → Source → Text → Nat → Option (Text × Nat × Source)
  | 0, source, breaks, widest => some (breaks, widest, source)
  | fuel + 1, source, breaks, widest =>
    let room := match indent with
      | some i => i - source.column
      | none => source.rest.length
    let spaces := ((source.rest.take room).takeWhile (· == ' ')).length
    let here := source.skip spaces
    let widest := max widest here.column
    if here.at_ '\t' && (indent.all fun i => here.column < i) then none
    else if !here.rest.isEmpty && startsBreak here.rest then
      let (text, after) := here.readBreak
      blockBreaks indent fuel after (breaks ++ text) widest
    else some (breaks, widest, here)

/-- The state between two lines of a block. -/
structure BlockLines where
  text : Text := []
  /-- The break after the last line. -/
  lead : Text := []
  /-- The breaks of the empty lines after it. -/
  trail : Text := []
  /-- Whether the last line starts with a blank. -/
  indented : Bool := false

/-- What stands between the last line of a block and the next one. In a folded block a single break
between two lines that start with no blank is a space. -/
def BlockLines.joint (lines : BlockLines) (literal indented : Bool) : Text :=
  if !literal && lines.lead.head? == some '\n' && !lines.indented && !indented then
    if lines.trail.isEmpty then [' '] else lines.trail
  else lines.lead ++ lines.trail

/-- Reads the lines of a block at an indentation. -/
def blockLines (literal : Bool) (indent : Nat) :
    Nat → Source → BlockLines → Option (BlockLines × Source)
  | 0, source, lines => some (lines, source)
  | fuel + 1, source, lines =>
    if source.column == indent && !source.rest.isEmpty then
      let indented := source.rest.head?.any isBlank
      let joined := lines.text ++ lines.joint literal indented
      let (line, ending) := source.readLine
      let (lead, after) := ending.readBreak
      match blockBreaks (some indent) (after.rest.length + 1) after [] 0 with
      | none => none
      | some (trail, _, next) =>
        blockLines literal indent fuel next ⟨joined ++ line, lead, trail, indented⟩
    else some (lines, source)

/-- Reads a block scalar inside a block of an indentation; outside of all blocks it is none. -/
def blockScalar (literal : Bool) (outer : Option Nat) (source : Source) :
    Option (Text × Source) := do
  let (chomping, increment, marked) ← blockMarks (source.skip 1)
  let start ← endOfMarks marked
  let fixed := increment.map fun n => (outer.getD 0) + n
  let (trail, widest, first) ← blockBreaks fixed (start.rest.length + 1) start [] 0
  let least := (outer.map (· + 1)).getD 0
  let indent := fixed.getD (max (max widest least) 1)
  let (lines, after) ← blockLines literal indent (first.rest.length + 1) first { trail := trail }
  let ending := match chomping with
    | .strip => []
    | .clip => lines.lead
    | .keep => lines.lead ++ lines.trail
  return (lines.text ++ ending, after)

end FluentAssist.Yaml
