import FluentAssist.Protocol.Shape

/-!
# Shapes of what calls are about

Documents, places in them, changes of them, and the other records that the parameters of many calls
are made of.
-/

set_option autoImplicit false

namespace FluentAssist.Protocol

open ShapeField (required optional defaulted)

namespace Shape

/-- A record that shares no fields with others. -/
def plain (name : String) (fields : List (ShapeField Shape)) : Shape := .record name fields []

/-- A position in a document. -/
def position : Shape := plain "Position" [required "line" count, required "character" count]

/-- A range of positions. -/
def range : Shape := plain "Range" [required "start" position, required "end" position]

/-- The address of a document. -/
def document : Shape := plain "TextDocumentIdentifier" [required "uri" address]

/-- The address of a document and its version. -/
def versionedDocument : Shape :=
  plain "VersionedTextDocumentIdentifier" [required "uri" address, required "version" int32]

/-- A document with its text. -/
def openedDocument : Shape :=
  plain "TextDocumentItem" [required "uri" address, required "languageId" text,
    required "version" int32, required "text" text]

/-- A new text for a document or a part of it. -/
def contentChange : Shape :=
  plain "TextDocumentContentChangeEvent" [optional "range" range, optional "rangeLength" count,
    required "text" text]

/-- A number or a text. -/
def numberOrText : Shape := .variants "NumberOrString" [int32, text]

/-- A place in a document. -/
def placeFields : List (ShapeField Shape) :=
  [required "textDocument" document, required "position" position]

/-- The mark under which the progress of work is told. -/
def progressFields : List (ShapeField Shape) := [optional "workDoneToken" numberOrText]

/-- The mark under which parts of a result are told. -/
def partialFields : List (ShapeField Shape) := [optional "partialResultToken" numberOrText]

/-- A place in a range of a document. -/
def location : Shape := plain "Location" [required "uri" address, required "range" range]

/-- A command of the server. -/
def command : Shape :=
  plain "Command" [required "title" text, required "command" text,
    optional "arguments" (.list any)]

/-- A new text for a range. -/
def textEdit : Shape := plain "TextEdit" [required "range" range, required "newText" text]

/-- The kinds of text. -/
def markupKind : Shape := .choice ["plaintext", "markdown"]

/-- Text of a kind. -/
def markup : Shape := plain "MarkupContent" [required "kind" markupKind, required "value" text]

/-- Text or text of a kind. -/
def markupOrText (name : String) : Shape := .variants name [text, markup]

/-- What is wrong in a range of a document. -/
def diagnostic : Shape :=
  plain "Diagnostic" [required "range" range, optional "severity" int32,
    optional "code" numberOrText,
    optional "codeDescription" (plain "CodeDescription" [required "href" address]),
    optional "source" text, required "message" text,
    optional "relatedInformation"
      (.list (plain "DiagnosticRelatedInformation"
        [required "location" location, required "message" text])),
    optional "tags" (.list int32), optional "data" any]

end Shape

end FluentAssist.Protocol
