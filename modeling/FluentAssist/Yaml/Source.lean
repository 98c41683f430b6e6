import FluentAssist.Text.Basic

/-!
# Places in a YAML text

A `Source` is the rest of a text together with the line and column where it starts. Line breaks are
line feeds, carriage returns, both together, next lines, and line and paragraph separators; breaks
other than separators are read as a line feed.
-/

set_option autoImplicit false

namespace FluentAssist.Yaml

/-- The rest of a text and where it starts. -/
structure Source where
  rest : Text
  line : Nat := 0
  column : Nat := 0
  /-- The number of bytes before it. -/
  index : Nat := 0
  deriving DecidableEq, Repr

/-- Whether a character ends a line. -/
def isBreak (c : Char) : Bool :=
  c == '\n' || c == '\r' || c == '\u0085' || c == '\u2028' || c == '\u2029'

/-- Spaces and tabs. -/
def isBlank (c : Char) : Bool := c == ' ' || c == '\t'

/-- Whether a text is at its end or starts with white space. -/
def startsBlank : Text → Bool
  | [] => true
  | c :: _ => isBlank c || isBreak c

/-- Whether a text is at its end or starts with a line break. -/
def startsBreak : Text → Bool
  | [] => true
  | c :: _ => isBreak c

/-- Characters of the names of anchors, tag handles and directives. -/
def isNameChar (c : Char) : Bool := c.isAlphanum || c == '_' || c == '-'

/-- Whether a character may stand in a YAML text. -/
def isAllowed (c : Char) : Bool :=
  let code := c.toNat
  code == 0x09 || code == 0x0A || code == 0x0D || (0x20 ≤ code && code ≤ 0x7E) || code == 0x85 ||
    (0xA0 ≤ code && code ≤ 0xFFFD) || 0x10000 ≤ code

namespace Source

/-- The next character. -/
def peek? (source : Source) : Option Char := source.rest.head?

/-- Whether the next character is a given one. -/
def at_ (source : Source) (c : Char) : Bool := source.rest.head? == some c

/-- Passes over characters of one line. -/
def skip (source : Source) (count : Nat) : Source :=
  { source with
    rest := source.rest.drop count
    column := source.column + count
    index := source.index + Text.bytes (source.rest.take count) }

/-- The place after a line break of some characters. -/
def nextLine (source : Source) (count : Nat) : Source :=
  ⟨source.rest.drop count, source.line + 1, 0,
    source.index + Text.bytes (source.rest.take count)⟩

/-- The line break at the start, as it is read, and the place after it. -/
def readBreak (source : Source) : Text × Source :=
  match source.rest with
  | '\r' :: '\n' :: _ => (['\n'], source.nextLine 2)
  | c :: _ =>
    if c == '\u2028' || c == '\u2029' then ([c], source.nextLine 1)
    else if isBreak c then (['\n'], source.nextLine 1)
    else ([], source)
  | [] => ([], source)

/-- The characters up to the end of the line, and the place after them. -/
def readLine (source : Source) : Text × Source :=
  let line := source.rest.takeWhile fun c => !isBreak c
  (line, source.skip line.length)

/-- Whether a mark of the start or end of a document stands here. -/
def atDocumentMark (source : Source) : Bool :=
  source.column == 0 &&
    match source.rest with
    | '-' :: '-' :: '-' :: rest => startsBlank rest
    | '.' :: '.' :: '.' :: rest => startsBlank rest
    | _ => false

end Source

/-- The white space between two words of a scalar. -/
structure Gap where
  /-- Blanks on the line of the first word. -/
  blanks : Text := []
  /-- Whether a line was ended. -/
  folded : Bool := false
  /-- The first line break. -/
  lead : Text := []
  /-- The further line breaks. -/
  trail : Text := []
  deriving DecidableEq, Repr

/-- What a gap stands for: a single line break is a space, further ones are kept. -/
def Gap.text (gap : Gap) : Text :=
  if gap.folded then
    if gap.lead = ['\n'] then
      if gap.trail.isEmpty then [' '] else gap.trail
    else gap.lead ++ gap.trail
  else gap.blanks

/-- Gathers white space. With `indent`, a tab before that column on a later line is refused. -/
def gatherGap (indent : Option Nat) : Nat → Source → Gap → Option (Gap × Source)
  | 0, source, gap => some (gap, source)
  | fuel + 1, source, gap =>
    match source.rest with
    | [] => some (gap, source)
    | c :: _ =>
      if isBlank c then
        if gap.folded && c == '\t' && (indent.any fun i => source.column < i) then none
        else
          let next := if gap.folded then gap else { gap with blanks := gap.blanks ++ [c] }
          gatherGap indent fuel (source.skip 1) next
      else if isBreak c then
        let (text, after) := source.readBreak
        let next : Gap :=
          if gap.folded then { gap with trail := gap.trail ++ text }
          else { gap with blanks := [], folded := true, lead := text }
        gatherGap indent fuel after next
      else some (gap, source)

end FluentAssist.Yaml
