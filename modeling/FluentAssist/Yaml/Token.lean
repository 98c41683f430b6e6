import FluentAssist.Text.Utf8
import FluentAssist.Yaml.Scalar

/-!
# YAML tokens

A YAML text is read as a sequence of tokens: marks, scalars, and the starts and ends of blocks,
which follow from the indentation. Tokens are numbered from zero.

The key of a mapping is only known as a key when the colon after it is met. Until then the place
where it started is kept as a possible key, one for every level of flow collections, and the tokens
that announce a key are put in at that place. A key has to stand on one line and is at most 1024
bytes long.
-/

set_option autoImplicit false

namespace FluentAssist.Yaml

/-- The tokens of a YAML text. -/
inductive Token
  | version (major minor : Nat)
  | tagHandle (handle : Text) (start : Text)
  | documentStart
  | documentEnd
  | blockSequenceStart
  | blockMappingStart
  | blockEnd
  | flowSequenceStart
  | flowSequenceEnd
  | flowMappingStart
  | flowMappingEnd
  | blockEntry
  | flowEntry
  | key
  | value
  | alias (name : Text)
  | anchor (name : Text)
  | tag (handle suffix : Text)
  | scalar (text : Text) (style : ScalarStyle)
  deriving DecidableEq, Repr

/-- Where a key may have started. -/
structure PossibleKey where
  /-- The number of its first token. -/
  token : Nat
  line : Nat
  column : Nat
  index : Nat
  /-- Whether nothing but a key may stand there. -/
  required : Bool
  deriving DecidableEq, Repr

/-- How far the tokens of a text are read. -/
structure Scan where
  source : Source
  tokens : List Token := []
  /-- The columns of the open blocks, the innermost first. -/
  blocks : List Nat := []
  /-- The possible key outside of all flow collections, and those of the open flow collections,
  the innermost first. -/
  possible : Option PossibleKey := none
  flows : List (Option PossibleKey) := []
  /-- Whether a key may start here. -/
  keyAllowed : Bool := true
  deriving Repr

namespace Scan

/-- Whether a flow collection is open. -/
def inFlow (scan : Scan) : Bool := !scan.flows.isEmpty

/-- The possible key of the innermost level. -/
def currentKey (scan : Scan) : Option PossibleKey :=
  match scan.flows with
  | key :: _ => key
  | [] => scan.possible

/-- Replaces the possible key of the innermost level. -/
def setKey (scan : Scan) (key : Option PossibleKey) : Scan :=
  match scan.flows with
  | _ :: outer => { scan with flows := key :: outer }
  | [] => { scan with possible := key }

/-- Adds a token. -/
def emit (scan : Scan) (token : Token) : Scan := { scan with tokens := scan.tokens ++ [token] }

/-- Puts a token in at a number. -/
def emitAt (scan : Scan) (number : Nat) (token : Token) : Scan :=
  { scan with tokens := scan.tokens.take number ++ token :: scan.tokens.drop number }

/-- Passes over characters. -/
def skip (scan : Scan) (count : Nat) : Scan := { scan with source := scan.source.skip count }

/-- Allows or forbids a key at the next place. -/
def allowKey (scan : Scan) (allowed : Bool) : Scan := { scan with keyAllowed := allowed }

/-- Gives up the possible key of the innermost level; a required one must not be given up. -/
def dropKey (scan : Scan) : Option Scan :=
  if scan.currentKey.any (·.required) then none else some (scan.setKey none)

/-- Notes that a key may start here. -/
def noteKey (scan : Scan) : Option Scan :=
  if scan.keyAllowed then
    scan.dropKey.map fun dropped =>
      dropped.setKey (some {
        token := scan.tokens.length
        line := scan.source.line
        column := scan.source.column
        index := scan.source.index
        required := !scan.inFlow && scan.blocks.head? == some scan.source.column })
  else some scan

/-- Whether a possible key has become impossible: another line was reached or it is too long. -/
def isStale (source : Source) (key : PossibleKey) : Bool :=
  key.line < source.line || key.index + 1024 < source.index

/-- A possible key unless it is stale; a required key must not be stale. -/
def freshKey (source : Source) : Option PossibleKey → Option (Option PossibleKey)
  | none => some none
  | some key => if isStale source key then (if key.required then none else some none) else some key

/-- Gives up all stale keys. -/
def dropStale (scan : Scan) : Option Scan := do
  let possible ← freshKey scan.source scan.possible
  let flows ← scan.flows.mapM (freshKey scan.source)
  return { scan with possible := possible, flows := flows }

/-- Closes the blocks to the right of a column; without one, all blocks. -/
def closeBlocks (scan : Scan) (column : Option Nat) : Scan :=
  if scan.inFlow then scan
  else
    let isInside (block : Nat) : Bool := column.all fun c => c < block
    let closed := scan.blocks.takeWhile isInside
    { scan with
      tokens := scan.tokens ++ closed.map fun _ => .blockEnd
      blocks := scan.blocks.dropWhile isInside }

/-- Opens a block at a column that is to the right of all open ones; its token gets a number. -/
def openBlock (scan : Scan) (column number : Nat) (token : Token) : Scan :=
  if scan.inFlow || scan.blocks.head?.any (column ≤ ·) then scan
  else { scan.emitAt number token with blocks := column :: scan.blocks }

/-- Opens a block here. -/
def openBlockHere (scan : Scan) (token : Token) : Scan :=
  scan.openBlock scan.source.column scan.tokens.length token

/-- Passes over white space, comments and line breaks. A tab is no white space where a block could
start, and a byte order mark is white space at the start of a line. -/
def skipSpace : Nat → Scan → Scan
  | 0, scan => scan
  | fuel + 1, scan =>
    let isSpace (c : Char) : Bool := c == ' ' || ((scan.inFlow || !scan.keyAllowed) && c == '\t')
    let start := if scan.source.column == 0 && scan.source.at_ '\ufeff' then scan.source.skip 1
      else scan.source
    let blanks := (start.rest.takeWhile isSpace).length
    let source := start.skip blanks
    let source := if source.at_ '#' then source.readLine.2 else source
    if !source.rest.isEmpty && startsBreak source.rest then
      skipSpace fuel { scan with
        source := source.readBreak.2
        keyAllowed := !scan.inFlow || scan.keyAllowed }
    else { scan with source := source }

/-- A token of one character after which a key may or may not start. -/
def mark (scan : Scan) (token : Token) (keyAfter : Bool) : Scan :=
  ((scan.allowKey keyAfter).skip 1).emit token

/-- The start of a flow collection. -/
def openFlow (scan : Scan) (token : Token) : Option Scan := do
  let noted ← scan.noteKey
  return { noted with flows := none :: noted.flows }.mark token true

/-- The end of a flow collection. -/
def closeFlow (scan : Scan) (token : Token) : Option Scan := do
  let dropped ← scan.dropKey
  return { dropped with flows := dropped.flows.drop 1 }.mark token false

/-- The dash of an item. -/
def entry (scan : Scan) : Option Scan := do
  if !scan.inFlow && !scan.keyAllowed then none
  else
    let dropped ← (scan.openBlockHere .blockSequenceStart).dropKey
    return dropped.mark .blockEntry true

/-- The question mark of a key. -/
def explicitKey (scan : Scan) : Option Scan := do
  if !scan.inFlow && !scan.keyAllowed then none
  else
    let dropped ← (scan.openBlockHere .blockMappingStart).dropKey
    return dropped.mark .key (!scan.inFlow)

/-- The colon before a value. -/
def colon (scan : Scan) : Option Scan :=
  match scan.currentKey with
  | some key =>
    let keyed := (scan.setKey none).emitAt key.token .key
    some ((keyed.openBlock key.column key.token .blockMappingStart).mark .value false)
  | none =>
    if !scan.inFlow && !scan.keyAllowed then none
    else some ((scan.openBlockHere .blockMappingStart).mark .value (!scan.inFlow))

/-- A mark of the start or end of a document. -/
def documentMark (scan : Scan) (token : Token) : Option Scan := do
  let dropped ← (scan.closeBlocks none).dropKey
  return ((dropped.allowKey false).skip 3).emit token

/-- Whether an anchor may end before a text. -/
def endsAnchor (rest : Text) : Bool :=
  startsBlank rest || rest.head?.any fun c => "?:,]\x7d%@\x60".toList.elem c

/-- An anchor or an alias. -/
def named (scan : Scan) (token : Text → Token) : Option Scan := do
  let noted ← scan.noteKey
  let name := (noted.source.rest.drop 1).takeWhile isNameChar
  let after := (noted.allowKey false).skip (1 + name.length)
  if name.isEmpty || !endsAnchor after.source.rest then none else some (after.emit (token name))

/-- Characters of a tag's address. -/
def isTagChar (whole : Bool) (c : Char) : Bool :=
  isNameChar c || ";/?:@&=+$.%!~*'()".toList.elem c || (whole && ",[]".toList.elem c)

/-- How many bytes follow a leading byte. -/
def following? (byte : Nat) : Option Nat :=
  if byte < 0x80 then some 0
  else if 0xC0 ≤ byte ∧ byte < 0xE0 then some 1
  else if 0xE0 ≤ byte ∧ byte < 0xF0 then some 2
  else if 0xF0 ≤ byte ∧ byte < 0xF8 then some 3
  else none

/-- The bytes of a tag. A percent sign stands for a byte; `more` bytes of a character are to come,
each of which is written with a percent sign. -/
def tagBytes? : Nat → Text → Option (List UInt8)
  | 0, [] => some []
  | _ + 1, [] => none
  | more, '%' :: a :: b :: rest => do
    let byte ← Text.readBase? 16 [a, b]
    let left ← match more with
      | 0 => following? byte
      | left + 1 => if byte < 0x80 ∨ 0xC0 ≤ byte then none else some left
    return UInt8.ofNat byte :: (← tagBytes? left rest)
  | _, '%' :: _ => none
  | 0, c :: rest => (tagBytes? 0 rest).map (String.utf8EncodeChar c ++ ·)
  | _ + 1, _ :: _ => none

/-- Decodes the percent signs of a tag. -/
def tagText? (text : Text) : Option Text := (tagBytes? 0 text).map Utf8.decodeLossy

/-- The parts of a tag and its length: the handle, and what follows it. -/
def tagParts? (text : Text) : Option (Text × Text × Nat) :=
  match text with
  | '!' :: '<' :: rest =>
    let address := rest.takeWhile (isTagChar true)
    if address.isEmpty || (rest.drop address.length).head? != some '>' then none
    else (tagText? address).map fun suffix => ([], suffix, address.length + 3)
  | '!' :: rest =>
    let name := rest.takeWhile isNameChar
    if (rest.drop name.length).head? == some '!' then
      let handle := '!' :: name ++ ['!']
      let address := (text.drop handle.length).takeWhile (isTagChar false)
      if address.isEmpty then none
      else (tagText? address).map fun suffix => (handle, suffix, handle.length + address.length)
    else
      let address := rest.takeWhile (isTagChar false)
      (tagText? address).map fun suffix =>
        if suffix.isEmpty then ([], ['!'], 1) else (['!'], suffix, 1 + address.length)
  | _ => none

/-- A tag. -/
def tagged (scan : Scan) : Option Scan := do
  let noted ← scan.noteKey
  let (handle, suffix, length) ← tagParts? noted.source.rest
  let after := (noted.allowKey false).skip length
  if startsBlank after.source.rest || (scan.inFlow && after.source.at_ ',') then
    some (after.emit (.tag handle suffix))
  else none

/-- A block scalar. -/
def block (scan : Scan) (literal : Bool) : Option Scan := do
  let dropped ← scan.dropKey
  let (text, after) ← blockScalar literal dropped.blocks.head? dropped.source
  let style : ScalarStyle := if literal then .literal else .folded
  return { dropped with source := after, keyAllowed := true }.emit (.scalar text style)

/-- A quoted scalar. -/
def quoted (scan : Scan) (single : Bool) : Option Scan := do
  let noted ← scan.noteKey
  let (text, after) ← quotedScalar single noted.source
  return { noted with source := after, keyAllowed := false }.emit (.scalar text .quoted)

/-- A plain scalar. A key may start after it when it is followed by a line break. -/
def plain (scan : Scan) : Option Scan := do
  let noted ← scan.noteKey
  let indent := (noted.blocks.head?.map (· + 1)).getD 0
  let (text, after, folded) ← plainScalar noted.inFlow indent noted.source
  return { noted with source := after, keyAllowed := folded }.emit (.scalar text .plain)

/-- A number of at most nine digits and what follows it. -/
def shortNumber? (text : Text) : Option (Nat × Text) :=
  let digits := text.takeWhile Char.isDigit
  if 9 < digits.length then none
  else (Text.readBase? 10 digits).map fun number => (number, text.drop digits.length)

/-- The token of a directive from its name and what follows the name. -/
def directiveToken? (name rest : Text) : Option (Token × Text) :=
  let arguments := rest.dropWhile isBlank
  if name == "YAML".toList then do
    let (major, after) ← shortNumber? arguments
    if after.head? != some '.' then none
    else
      let (minor, last) ← shortNumber? (after.drop 1)
      return (.version major minor, last)
  else if name == "TAG".toList then do
    let inner := (arguments.drop 1).takeWhile isNameChar
    let handle :=
      if (arguments.drop (1 + inner.length)).head? == some '!' then '!' :: inner ++ ['!']
      else '!' :: inner
    let after := arguments.drop handle.length
    if arguments.head? != some '!' || (handle.getLast? != some '!') ||
        !(after.head?.any isBlank) then none
    else
      let address := (after.dropWhile isBlank).takeWhile (isTagChar true)
      let last := (after.dropWhile isBlank).drop address.length
      if address.isEmpty || !startsBlank last then none
      else return (.tagHandle handle (← tagText? address), last)
  else none

/-- A directive up to the end of its line. -/
def directive (scan : Scan) : Option Scan := do
  let dropped ← (scan.closeBlocks none).dropKey
  let body := dropped.source.rest.drop 1
  let name := body.takeWhile isNameChar
  let rest := body.drop name.length
  if name.isEmpty || !startsBlank rest then none
  else
    let (token, last) ← directiveToken? name rest
    let ended := last.dropWhile isBlank
    if startsBreak ended || ended.head? == some '#' then
      let source := dropped.source.readLine.2.readBreak.2
      return { dropped with source := source, keyAllowed := false }.emit token
    else none

/-- Characters that no plain scalar starts with. -/
def isIndicator (c : Char) : Bool := "-?:,[]\x7b\x7d#&*!|>'\"%@\x60".toList.elem c

/-- Whether a plain scalar starts with a character before a text. -/
def startsPlain (flow : Bool) (c : Char) (rest : Text) : Bool :=
  (!isBlank c && !isBreak c && !isIndicator c) ||
    (c == '-' && !(rest.head?.any isBlank)) ||
    (!flow && (c == '?' || c == ':') && !startsBlank rest)

/-- Reads the next token or tokens. -/
def next (scan : Scan) (c : Char) (rest : Text) : Option Scan :=
  if scan.source.column == 0 && c == '%' then scan.directive
  else if scan.source.atDocumentMark then
    scan.documentMark (if c == '-' then .documentStart else .documentEnd)
  else if c == '[' then scan.openFlow .flowSequenceStart
  else if c == '\x7b' then scan.openFlow .flowMappingStart
  else if c == ']' then scan.closeFlow .flowSequenceEnd
  else if c == '\x7d' then scan.closeFlow .flowMappingEnd
  else if c == ',' then scan.dropKey.map (·.mark .flowEntry true)
  else if c == '-' && startsBlank rest then scan.entry
  else if c == '?' && (scan.inFlow || startsBlank rest) then scan.explicitKey
  else if c == ':' && (scan.inFlow || startsBlank rest) then scan.colon
  else if c == '*' then scan.named .alias
  else if c == '&' then scan.named .anchor
  else if c == '!' then scan.tagged
  else if c == '|' && !scan.inFlow then scan.block true
  else if c == '>' && !scan.inFlow then scan.block false
  else if c == '\'' then scan.quoted true
  else if c == '"' then scan.quoted false
  else if startsPlain scan.inFlow c rest then scan.plain
  else none

/-- Reads all tokens. -/
def run : Nat → Scan → Option (List Token)
  | 0, _ => none
  | fuel + 1, scan => do
    let fresh ← (skipSpace (scan.source.rest.length + 1) scan).dropStale
    let here := fresh.closeBlocks (some fresh.source.column)
    match here.source.rest with
    | [] => return (← (here.closeBlocks none).dropKey).tokens
    | c :: rest => run fuel (← here.next c rest)

end Scan

/-- The tokens of a text. -/
def tokens? (text : Text) : Option (List Token) :=
  if text.all isAllowed then Scan.run (text.length + 1) { source := { rest := text } } else none

end FluentAssist.Yaml
