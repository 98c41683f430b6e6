import FluentAssist.Cursor.Literal
import FluentAssist.Cursor.OpenCall
import FluentAssist.Cursor.Word
import FluentAssist.Json.Value

/-!
# Cursor contexts

`Cursor.classify` decides what is being typed at an offset of a document. It looks at a window of
at most `lookback` characters before the cursor and at the cursor's line.

The window is found by moving the cursor back by the lookback as a signed 64-bit number. A
lookback of more than `2 ^ 63` therefore moves the cursor forward; a window that would start after
the cursor does not exist, and classification reports that as `WindowFault`.
-/

set_option autoImplicit false

namespace FluentAssist

/-- What is being typed at the cursor. -/
structure Context where
  /-- The cursor, at a character boundary. -/
  offset : Nat
  kind : ContextKind
  /-- The method of the open call; none for an icon argument. -/
  method : Option BuilderMethod
  /-- The text from the start of the open call or icon argument to the cursor. -/
  matched : Text
  matchStart : Nat
  /-- The word at the cursor; empty for an empty pair of quotation marks. -/
  word : Text
  wordSpan : Span
  /-- The contents of the string literal around the cursor. -/
  surround : Option Text
  surroundSpan : Option Span
  deriving DecidableEq, Repr

/-- The partial name after the module of element functions. -/
structure UiContext where
  word : Text
  wordSpan : Span
  deriving DecidableEq, Repr

/-- Why a cursor could not be classified. -/
inductive WindowFault
  /-- The window before the cursor would start after it. -/
  | startsAfterCursor
  deriving DecidableEq, Repr

namespace Cursor

/-- The characters searched before the cursor unless configured otherwise. -/
def defaultLookback : Nat := 4096

/-- A natural number read as a signed 64-bit number. -/
def asSigned64 (n : Nat) : Int := Int.bmod n wordSize64

/-- The negation of a signed 64-bit number, in signed 64-bit numbers. -/
def negate64 (i : Int) : Int := Int.bmod (-i) wordSize64

/-- The offset where the window before the cursor starts. -/
def windowStart (text : Text) (cursor lookback : Nat) : Nat :=
  Text.shiftChars text cursor (negate64 (asSigned64 lookback))

/-- The window before the cursor: its start and its characters. -/
def window (text : Text) (cursor lookback : Nat) : Except WindowFault (Nat × Text) :=
  let start := windowStart text cursor lookback
  if start ≤ cursor then .ok (start, Span.slice ⟨start, cursor⟩ text)
  else .error .startsAfterCursor

/-- What a window says about the cursor: kind, method, start and text of the match. -/
def recognise? (found : Text) : Option (ContextKind × Option BuilderMethod × Nat × Text) :=
  match lastOpenCall? found with
  | some call => some (call.method.kind, some call.method, call.start, call.matched)
  | none => (openIcon? found).map fun (start, matched) => (.icons, none, start, matched)

/-- The contents of the string literal around the cursor, on its line. -/
def surroundAt? (text : Text) (cursor : Nat) : Option Span :=
  let line := Text.lineBounds text cursor
  (literalAt? (line.slice text) (cursor - line.start)).map (·.shift line.start)

/-- The context of a cursor whose window starts at `start` and was recognised. -/
def contextAt (text : Text) (cursor start : Nat)
    (found : ContextKind × Option BuilderMethod × Nat × Text) : Context :=
  let (kind, method, matchOffset, matched) := found
  let line := Text.lineBounds text cursor
  let (word, wordSpan) := wordAt (line.slice text) (cursor - line.start)
  let surround := surroundAt? text cursor
  { offset := cursor
    kind := kind
    method := method
    matched := matched
    matchStart := start + matchOffset
    word := word
    wordSpan := wordSpan.shift line.start
    surround := surround.map (·.slice text)
    surroundSpan := surround }

/-- Decides what is being typed at an offset of a document. -/
def classify (text : Text) (offset lookback : Nat) : Except WindowFault (Option Context) := do
  let cursor := Text.floorOffset text offset
  let (start, found) ← window text cursor lookback
  return (recognise? found).map (contextAt text cursor start)

/-- The partial name that ends a line, when the name of the module and a dot stand before it. -/
def uiNameAt? (previous : Option Char) (text : Text) : Option Text :=
  if Text.wordMayStartAfter previous then
    match text with
    | 'u' :: 'i' :: '.' :: name => if name.all Text.isWordChar then some name else none
    | _ => none
  else none

/-- The partial name after `ui.` directly before an offset. -/
def uiFunction? (text : Text) (offset : Nat) : Option UiContext :=
  let cursor := Text.floorOffset text offset
  let line := Text.lineBounds text cursor
  (Text.findPlace? uiNameAt? none (Span.slice ⟨line.start, cursor⟩ text)).map
    fun (_, name) => ⟨name, ⟨cursor - Text.bytes name, cursor⟩⟩

end Cursor

/-- A byte range as a value. -/
def Span.toJson (span : Span) : Json :=
  .obj [("start", .ofNat span.start), ("end", .ofNat span.stop)]

/-- A context as a value. -/
def Context.toJson (context : Context) : Json :=
  .obj [
    ("offset", .ofNat context.offset),
    ("kind", .str context.kind.name),
    ("method", .ofOption (fun m => .str m.name) context.method),
    ("matched", .ofText context.matched),
    ("match_start", .ofNat context.matchStart),
    ("word", .ofText context.word),
    ("word_range", context.wordSpan.toJson),
    ("surround", .ofOption .ofText context.surround),
    ("surround_range", .ofOption Span.toJson context.surroundSpan)]

/-- A partial name as a value. -/
def UiContext.toJson (context : UiContext) : Json :=
  .obj [("word", .ofText context.word), ("word_range", context.wordSpan.toJson)]

end FluentAssist
