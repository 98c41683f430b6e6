import FluentAssist.Protocol.DocumentShapes

/-!
# Shapes of the parameters of calls

What the calls that the server handles bring with them, and what those bring that are known but not
offered: also for these, parameters that do not fit are refused as such.
-/

set_option autoImplicit false

namespace FluentAssist.Protocol.Shape

open ShapeField (required optional defaulted)

/-- The parameters of a request that tells its progress. -/
def request (name : String) (fields : List (ShapeField Shape)) : Shape :=
  .record name fields [progressFields]

/-- The parameters of a request that tells its progress and parts of its result. -/
def query (name : String) (fields : List (ShapeField Shape)) : Shape :=
  .record name fields [progressFields, partialFields]

/-- The parameters of a request about a place that tells its progress. -/
def placeRequest (name : String) (fields : List (ShapeField Shape)) : Shape :=
  .record name fields [placeFields, progressFields]

/-- The parameters of a request about a place that tells its progress and parts of its result. -/
def placeQuery (name : String) (fields : List (ShapeField Shape)) : Shape :=
  .record name fields [placeFields, progressFields, partialFields]

/-- An editor is ready: a record without fields. -/
def ready : Shape := plain "InitializedParams" []

/-- A document was opened. -/
def opened : Shape :=
  plain "DidOpenTextDocumentParams" [required "textDocument" openedDocument]

/-- A document was changed. -/
def changed : Shape :=
  plain "DidChangeTextDocumentParams" [required "textDocument" versionedDocument,
    required "contentChanges" (.list contentChange)]

/-- A document was closed. -/
def closed : Shape := plain "DidCloseTextDocumentParams" [required "textDocument" document]

/-- The settings of an editor were changed. -/
def configured : Shape := plain "DidChangeConfigurationParams" [required "settings" any]

/-- What triggered a completion. -/
def completionContext : Shape :=
  plain "CompletionContext" [required "triggerKind" int32, optional "triggerCharacter" text]

/-- A completion is asked for. -/
def completion : Shape := placeQuery "CompletionParams" [optional "context" completionContext]

/-- A hover text is asked for. -/
def hover : Shape := placeRequest "HoverParams" []

/-- A command is to be run. -/
def execution : Shape :=
  request "ExecuteCommandParams"
    [required "command" text, ⟨"arguments", .defaulted, .list any⟩]

/-- A place is asked for. -/
def definition : Shape := placeQuery "GotoDefinitionParams" []

/-- The fields of a symbol in a hierarchy, apart from its tags. -/
def hierarchyItem (name : String) (tags : Shape) : Shape :=
  plain name [required "name" text, required "kind" int32, optional "tags" tags,
    optional "detail" text, required "uri" address, required "range" range,
    required "selectionRange" range, optional "data" any]

/-- A function that calls others. -/
def callItem : Shape := hierarchyItem "CallHierarchyItem" (.list int32)

/-- A type among others. -/
def typeItem : Shape := hierarchyItem "TypeHierarchyItem" int32

/-- A question about a whole document. -/
def documentQuery (name : String) : Shape := query name [required "textDocument" document]

/-- An item of a completion. -/
def completionItem : Shape :=
  plain "CompletionItem" [required "label" text,
    optional "labelDetails"
      (plain "CompletionItemLabelDetails" [optional "detail" text, optional "description" text]),
    optional "kind" int32, optional "detail" text,
    optional "documentation" (markupOrText "Documentation"), optional "deprecated" flag,
    optional "preselect" flag, optional "sortText" text, optional "filterText" text,
    optional "insertText" text, optional "insertTextFormat" int32,
    optional "insertTextMode" int32,
    optional "textEdit"
      (.variants "CompletionTextEdit" [textEdit,
        plain "InsertReplaceEdit"
          [required "newText" text, required "insert" range, required "replace" range]]),
    optional "additionalTextEdits" (.list textEdit), optional "command" command,
    optional "commitCharacters" (.list text), optional "data" any, optional "tags" (.list int32)]

/-- A hint between the words of a document. -/
def inlayHint : Shape :=
  plain "InlayHint" [required "position" position,
    required "label"
      (.variants "InlayHintLabel" [text,
        .list (plain "InlayHintLabelPart" [required "value" text,
          optional "tooltip" (markupOrText "InlayHintLabelPartTooltip"),
          optional "location" location, optional "command" command])]),
    optional "kind" int32, optional "textEdits" (.list textEdit),
    optional "tooltip" (markupOrText "InlayHintTooltip"), optional "paddingLeft" flag,
    optional "paddingRight" flag, optional "data" any]

/-- An action on code. -/
def codeAction : Shape :=
  plain "CodeAction" [required "title" text, optional "kind" text,
    optional "diagnostics" (.list diagnostic), optional "edit" any, optional "command" command,
    optional "isPreferred" flag,
    optional "disabled" (plain "CodeActionDisabled" [required "reason" text]),
    optional "data" any]

/-- What an action on code is asked for. -/
def codeActionContext : Shape :=
  plain "CodeActionContext" [required "diagnostics" (.list diagnostic),
    optional "only" (.list text), optional "triggerKind" int32]

/-- What the help on a signature is asked for. -/
def signatureContext : Shape :=
  plain "SignatureHelpContext" [required "triggerKind" int32, optional "triggerCharacter" text,
    required "isRetrigger" flag, optional "activeSignatureHelp" any]

/-- How a document is formatted; an editor adds options of its own. -/
def formatting : Shape :=
  .record "FormattingOptions" [required "tabSize" count, required "insertSpaces" flag,
    optional "trimTrailingWhitespace" flag, optional "insertFinalNewline" flag,
    optional "trimFinalNewlines" flag] [[]]

/-- A symbol of the workspace. -/
def workspaceSymbol : Shape :=
  plain "WorkspaceSymbol" [required "name" text, required "kind" int32,
    optional "tags" (.list int32), optional "containerName" text,
    required "location"
      (.variants "OneOf" [location, plain "WorkspaceLocation" [required "uri" address]]),
    optional "data" any]

/-- A color. -/
def color : Shape :=
  plain "Color" [required "red" real, required "green" real, required "blue" real,
    required "alpha" real]

/-- Files that something happens to. -/
def files (name fileName : String) (fields : List String) : Shape :=
  plain name [required "files" (.list (plain fileName (fields.map fun f => required f text)))]

/-- Requests that are known but not offered, with the shapes of their parameters. -/
def unoffered : List (String × Shape) := [
  ("textDocument/willSaveWaitUntil",
    plain "WillSaveTextDocumentParams"
      [required "textDocument" document, required "reason" int32]),
  ("textDocument/declaration", definition),
  ("textDocument/definition", definition),
  ("textDocument/typeDefinition", definition),
  ("textDocument/implementation", definition),
  ("textDocument/references",
    placeQuery "ReferenceParams" [required "context"
      (plain "ReferenceContext" [required "includeDeclaration" flag])]),
  ("textDocument/prepareCallHierarchy", placeRequest "CallHierarchyPrepareParams" []),
  ("callHierarchy/incomingCalls",
    query "CallHierarchyIncomingCallsParams" [required "item" callItem]),
  ("callHierarchy/outgoingCalls",
    query "CallHierarchyOutgoingCallsParams" [required "item" callItem]),
  ("textDocument/prepareTypeHierarchy", placeRequest "TypeHierarchyPrepareParams" []),
  ("typeHierarchy/supertypes",
    query "TypeHierarchySupertypesParams" [required "item" typeItem]),
  ("typeHierarchy/subtypes", query "TypeHierarchySubtypesParams" [required "item" typeItem]),
  ("textDocument/documentHighlight", placeQuery "DocumentHighlightParams" []),
  ("textDocument/documentLink", documentQuery "DocumentLinkParams"),
  ("documentLink/resolve",
    plain "DocumentLink" [required "range" range, optional "target" address,
      optional "tooltip" text, optional "data" any]),
  ("textDocument/codeLens", documentQuery "CodeLensParams"),
  ("codeLens/resolve",
    plain "CodeLens"
      [required "range" range, optional "command" command, optional "data" any]),
  ("textDocument/foldingRange", documentQuery "FoldingRangeParams"),
  ("textDocument/selectionRange",
    query "SelectionRangeParams"
      [required "textDocument" document, required "positions" (.list position)]),
  ("textDocument/documentSymbol", documentQuery "DocumentSymbolParams"),
  ("textDocument/semanticTokens/full", documentQuery "SemanticTokensParams"),
  ("textDocument/semanticTokens/full/delta",
    query "SemanticTokensDeltaParams"
      [required "textDocument" document, required "previousResultId" text]),
  ("textDocument/semanticTokens/range",
    query "SemanticTokensRangeParams"
      [required "textDocument" document, required "range" range]),
  ("textDocument/inlineValue",
    request "InlineValueParams" [required "textDocument" document, required "range" range,
      required "context" (plain "InlineValueContext"
        [required "frameId" int32, required "stoppedLocation" range])]),
  ("textDocument/inlayHint",
    request "InlayHintParams" [required "textDocument" document, required "range" range]),
  ("inlayHint/resolve", inlayHint),
  ("textDocument/moniker", placeQuery "MonikerParams" []),
  ("completionItem/resolve", completionItem),
  ("textDocument/diagnostic",
    query "DocumentDiagnosticParams" [required "textDocument" document,
      optional "identifier" text, optional "previousResultId" text]),
  ("workspace/diagnostic",
    query "WorkspaceDiagnosticParams" [optional "identifier" text,
      required "previousResultIds"
        (.list (plain "PreviousResultId" [required "uri" address, required "value" text]))]),
  ("textDocument/signatureHelp",
    placeRequest "SignatureHelpParams" [optional "context" signatureContext]),
  ("textDocument/codeAction",
    query "CodeActionParams" [required "textDocument" document, required "range" range,
      required "context" codeActionContext]),
  ("codeAction/resolve", codeAction),
  ("textDocument/documentColor", documentQuery "DocumentColorParams"),
  ("textDocument/colorPresentation",
    query "ColorPresentationParams"
      [required "textDocument" document, required "color" color, required "range" range]),
  ("textDocument/formatting",
    request "DocumentFormattingParams"
      [required "textDocument" document, required "options" formatting]),
  ("textDocument/rangeFormatting",
    request "DocumentRangeFormattingParams"
      [required "textDocument" document, required "range" range,
        required "options" formatting]),
  ("textDocument/onTypeFormatting",
    .record "DocumentOnTypeFormattingParams" [required "ch" text, required "options" formatting]
      [placeFields]),
  ("textDocument/rename", placeRequest "RenameParams" [required "newName" text]),
  ("textDocument/prepareRename", plain "TextDocumentPositionParams" placeFields),
  ("textDocument/linkedEditingRange", placeRequest "LinkedEditingRangeParams" []),
  ("workspace/symbol", query "WorkspaceSymbolParams" [required "query" text]),
  ("workspaceSymbol/resolve", workspaceSymbol),
  ("workspace/willCreateFiles", files "CreateFilesParams" "FileCreate" ["uri"]),
  ("workspace/willRenameFiles", files "RenameFilesParams" "FileRename" ["oldUri", "newUri"]),
  ("workspace/willDeleteFiles", files "DeleteFilesParams" "FileDelete" ["uri"])]

end FluentAssist.Protocol.Shape
