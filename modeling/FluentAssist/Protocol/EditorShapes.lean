import FluentAssist.Protocol.DocumentShapes

/-!
# What an editor tells about itself

The shape of the introduction of an editor: the process it runs in, the folders it works on, its
options, and what it is able to do with documents, workspaces and windows. The server makes no use
of the abilities, but an introduction in which they do not fit is refused.
-/

set_option autoImplicit false

namespace FluentAssist.Protocol.Shape

open ShapeField (required optional defaulted)

/-- An ability that an editor has or not. -/
def ability (name : String) : ShapeField Shape := optional name flag

/-- A record of abilities. -/
def abilities (name : String) (names : List String) : Shape := plain name (names.map ability)

/-- The ability to learn of a feature later on. -/
def registration : Shape :=
  abilities "DynamicRegistrationClientCapabilities" ["dynamicRegistration"]

/-- The ability to go to a place. -/
def goto : Shape := abilities "GotoCapability" ["dynamicRegistration", "linkSupport"]

/-- The names of properties that can be told later. -/
def properties (name : String) : Shape := plain name [required "properties" (.list text)]

/-- Tags that are known. A flag tells only whether there are any. -/
def tagSupport : ShapeField Shape :=
  defaulted "tagSupport" (.flagOr (plain "TagSupport" [required "valueSet" (.list int32)]))

/-- Kinds of symbols that are known. -/
def symbolKinds : Shape := plain "SymbolKindCapability" [optional "valueSet" (.list int32)]

/-- What can be done in an edit of a workspace. -/
def workspaceEdit : Shape :=
  plain "WorkspaceEditClientCapabilities" [ability "documentChanges",
    optional "resourceOperations" (.list (.choice ["create", "rename", "delete"])),
    optional "failureHandling"
      (.choice ["abort", "transactional", "textOnlyTransactional", "undo"]),
    ability "normalizesLineEndings",
    optional "changeAnnotationSupport"
      (abilities "ChangeAnnotationWorkspaceEditClientCapabilities" ["groupsOnLabel"])]

/-- What can be done with a workspace. -/
def workspaceAbilities : Shape :=
  plain "WorkspaceClientCapabilities" [ability "applyEdit",
    optional "workspaceEdit" workspaceEdit,
    optional "didChangeConfiguration" registration,
    optional "didChangeWatchedFiles"
      (abilities "DidChangeWatchedFilesClientCapabilities"
        ["dynamicRegistration", "relativePatternSupport"]),
    optional "symbol"
      (plain "WorkspaceSymbolClientCapabilities" [ability "dynamicRegistration",
        optional "symbolKind" symbolKinds, tagSupport,
        optional "resolveSupport" (properties "WorkspaceSymbolResolveSupportCapability")]),
    optional "executeCommand" registration,
    ability "workspaceFolders",
    ability "configuration",
    optional "semanticTokens"
      (abilities "SemanticTokensWorkspaceClientCapabilities" ["refreshSupport"]),
    optional "codeLens" (abilities "CodeLensWorkspaceClientCapabilities" ["refreshSupport"]),
    optional "fileOperations"
      (abilities "WorkspaceFileOperationsClientCapabilities"
        ["dynamicRegistration", "didCreate", "willCreate", "didRename", "willRename", "didDelete",
          "willDelete"]),
    optional "inlineValue" (abilities "InlineValueWorkspaceClientCapabilities" ["refreshSupport"]),
    optional "inlayHint" (abilities "InlayHintWorkspaceClientCapabilities" ["refreshSupport"]),
    optional "diagnostic" (abilities "DiagnosticWorkspaceClientCapabilities" ["refreshSupport"])]

/-- What can be done with an item of a completion. -/
def completionItemAbilities : Shape :=
  plain "CompletionItemCapability" [ability "snippetSupport", ability "commitCharactersSupport",
    optional "documentationFormat" (.list markupKind), ability "deprecatedSupport",
    ability "preselectSupport", tagSupport, ability "insertReplaceSupport",
    optional "resolveSupport" (properties "CompletionItemCapabilityResolveSupport"),
    optional "insertTextModeSupport"
      (plain "InsertTextModeSupport" [required "valueSet" (.list int32)]),
    ability "labelDetailsSupport"]

/-- What can be done with a completion. -/
def completionAbilities : Shape :=
  plain "CompletionClientCapabilities" [ability "dynamicRegistration",
    optional "completionItem" completionItemAbilities,
    optional "completionItemKind"
      (plain "CompletionItemKindCapability" [optional "valueSet" (.list int32)]),
    ability "contextSupport", optional "insertTextMode" int32,
    optional "completionList"
      (plain "CompletionListCapability" [optional "itemDefaults" (.list text)])]

/-- What can be done with the signature of a function. -/
def signatureAbilities : Shape :=
  plain "SignatureHelpClientCapabilities" [ability "dynamicRegistration",
    optional "signatureInformation"
      (plain "SignatureInformationSettings" [optional "documentationFormat" (.list markupKind),
        optional "parameterInformation"
          (abilities "ParameterInformationSettings" ["labelOffsetSupport"]),
        ability "activeParameterSupport"]),
    ability "contextSupport"]

/-- What can be done with an action on code. -/
def codeActionAbilities : Shape :=
  plain "CodeActionClientCapabilities" [ability "dynamicRegistration",
    optional "codeActionLiteralSupport"
      (plain "CodeActionLiteralSupport" [required "codeActionKind"
        (plain "CodeActionKindLiteralSupport" [required "valueSet" (.list text)])]),
    ability "isPreferredSupport", ability "disabledSupport", ability "dataSupport",
    optional "resolveSupport" (properties "CodeActionCapabilityResolveSupport"),
    ability "honorsChangeAnnotations"]

/-- What can be done with the kinds of words in a document. -/
def semanticTokenAbilities : Shape :=
  plain "SemanticTokensClientCapabilities" [ability "dynamicRegistration",
    required "requests"
      (plain "SemanticTokensClientCapabilitiesRequests" [ability "range",
        optional "full"
          (.variants "SemanticTokensFullOptions" [flag, abilities "Delta" ["delta"]])]),
    required "tokenTypes" (.list text), required "tokenModifiers" (.list text),
    required "formats" (.list (.choice ["relative"])), ability "overlappingTokenSupport",
    ability "multilineTokenSupport", ability "serverCancelSupport",
    ability "augmentsSyntaxTokens"]

/-- What can be done with parts of a document that are folded. -/
def foldingAbilities : Shape :=
  plain "FoldingRangeClientCapabilities" [ability "dynamicRegistration",
    optional "rangeLimit" count, ability "lineFoldingOnly",
    optional "foldingRangeKind"
      (plain "FoldingRangeKindCapability"
        [optional "valueSet" (.list (.choice ["comment", "imports", "region"]))]),
    optional "foldingRange" (abilities "FoldingRangeCapability" ["collapsedText"])]

/-- What can be done with a document. -/
def documentAbilities : Shape :=
  plain "TextDocumentClientCapabilities" [
    optional "synchronization"
      (abilities "TextDocumentSyncClientCapabilities"
        ["dynamicRegistration", "willSave", "willSaveWaitUntil", "didSave"]),
    optional "completion" completionAbilities,
    optional "hover"
      (plain "HoverClientCapabilities"
        [ability "dynamicRegistration", optional "contentFormat" (.list markupKind)]),
    optional "signatureHelp" signatureAbilities,
    optional "references" registration,
    optional "documentHighlight" registration,
    optional "documentSymbol"
      (plain "DocumentSymbolClientCapabilities" [ability "dynamicRegistration",
        optional "symbolKind" symbolKinds, ability "hierarchicalDocumentSymbolSupport",
        tagSupport]),
    optional "formatting" registration,
    optional "rangeFormatting" registration,
    optional "onTypeFormatting" registration,
    optional "declaration" goto,
    optional "definition" goto,
    optional "typeDefinition" goto,
    optional "implementation" goto,
    optional "codeAction" codeActionAbilities,
    optional "codeLens" registration,
    optional "documentLink"
      (abilities "DocumentLinkClientCapabilities" ["dynamicRegistration", "tooltipSupport"]),
    optional "colorProvider" registration,
    optional "rename"
      (plain "RenameClientCapabilities" [ability "dynamicRegistration", ability "prepareSupport",
        optional "prepareSupportDefaultBehavior" int32, ability "honorsChangeAnnotations"]),
    optional "publishDiagnostics"
      (plain "PublishDiagnosticsClientCapabilities" [ability "relatedInformation", tagSupport,
        ability "versionSupport", ability "codeDescriptionSupport", ability "dataSupport"]),
    optional "foldingRange" foldingAbilities,
    optional "selectionRange"
      (abilities "SelectionRangeClientCapabilities" ["dynamicRegistration"]),
    optional "linkedEditingRange" registration,
    optional "callHierarchy" registration,
    optional "semanticTokens" semanticTokenAbilities,
    optional "moniker" registration,
    optional "typeHierarchy" registration,
    optional "inlineValue" registration,
    optional "inlayHint"
      (plain "InlayHintClientCapabilities" [ability "dynamicRegistration",
        optional "resolveSupport" (properties "InlayHintResolveClientCapabilities")]),
    optional "diagnostic"
      (abilities "DiagnosticClientCapabilities"
        ["dynamicRegistration", "relatedDocumentSupport"])]

/-- What can be done with a window. -/
def windowAbilities : Shape :=
  plain "WindowClientCapabilities" [ability "workDoneProgress",
    optional "showMessage"
      (plain "ShowMessageRequestClientCapabilities" [optional "messageActionItem"
        (abilities "MessageActionItemCapabilities" ["additionalPropertiesSupport"])]),
    optional "showDocument"
      (plain "ShowDocumentClientCapabilities" [required "support" flag])]

/-- What can be done at all. -/
def generalAbilities : Shape :=
  plain "GeneralClientCapabilities" [
    optional "regularExpressions"
      (plain "RegularExpressionsClientCapabilities"
        [required "engine" text, optional "version" text]),
    optional "markdown"
      (plain "MarkdownClientCapabilities"
        [required "parser" text, optional "version" text, optional "allowedTags" (.list text)]),
    optional "staleRequestSupport"
      (plain "StaleRequestSupportClientCapabilities"
        [required "cancel" flag, required "retryOnContentModified" (.list text)]),
    optional "positionEncodings" (.list text)]

/-- What an editor is able to do. -/
def editorAbilities : Shape :=
  plain "ClientCapabilities" [
    optional "workspace" workspaceAbilities,
    optional "textDocument" documentAbilities,
    optional "window" windowAbilities,
    optional "general" generalAbilities,
    optional "experimental" any]

/-- A folder of the workspace. -/
def folder : Shape := plain "WorkspaceFolder" [required "uri" address, required "name" text]

/-- What an editor tells about itself at the start. -/
def start : Shape :=
  plain "InitializeParams" [
    optional "processId" count,
    optional "rootPath" text,
    defaulted "rootUri" address,
    optional "initializationOptions" any,
    required "capabilities" editorAbilities,
    defaulted "trace" (.choice ["off", "messages", "verbose"]),
    optional "workspaceFolders" (.list folder),
    optional "clientInfo" (plain "ClientInfo" [required "name" text, optional "version" text]),
    optional "locale" text]

end FluentAssist.Protocol.Shape
