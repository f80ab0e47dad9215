import TokenOutline.Server.Params.Shape

/-!
# What an editor is capable of

The first request tells in detail what the editor is capable of. The server makes no use of it, but
refuses the request if a detail is not as the protocol has it.

* **`capabilities`**: all that an editor tells.
-/

namespace TokenOutline.Server.Params

open Decoder Form

/-! ## Parts that recur -/

/-- Whether a feature may be registered later. -/
def mayRegister : Field Unit := may "dynamicRegistration" bool

/-- A feature of which nothing else is told. -/
def registration : Decoder Unit := form "DynamicRegistrationClientCapabilities" [mayRegister]

/-- Whether the editor can be asked to take a feature anew. -/
def refresh (title : String) : Decoder Unit := form title [may "refreshSupport" bool]

/-- The kinds of symbols that the editor knows. -/
def symbolKinds : Decoder Unit := form "SymbolKindCapability" [may "valueSet" (list int32)]

/-- The tags that the editor knows, or whether it knows any. -/
def tags : Field Unit :=
  byDefault "tagSupport" fun
    | .null | .bool _ => .ok ()
    | v => form "TagSupport" [must "valueSet" (list int32)] v

/-- The properties that may be told later. -/
def properties (title : String) : Decoder Unit := form title [must "properties" texts]

/-- The formats of text that the editor shows. -/
def formats : Decoder Unit := (list (oneOf ["plaintext", "markdown"])).checked

/-- A place that can be gone to. -/
def goto : Decoder Unit := form "GotoCapability" [mayRegister, may "linkSupport" bool]

/-! ## The workspace -/

/-- Edits of the workspace. -/
def workspaceEditing : Decoder Unit :=
  form "WorkspaceEditClientCapabilities" [
    may "documentChanges" bool,
    may "resourceOperations" (list (oneOf ["create", "rename", "delete"])),
    may "failureHandling" (oneOf ["abort", "transactional", "textOnlyTransactional", "undo"]),
    may "normalizesLineEndings" bool,
    may "changeAnnotationSupport" (form "ChangeAnnotationWorkspaceEditClientCapabilities"
      [may "groupsOnLabel" bool])]

/-- The workspace. -/
def workspace : Decoder Unit :=
  form "WorkspaceClientCapabilities" [
    may "applyEdit" bool,
    may "workspaceEdit" workspaceEditing,
    may "didChangeConfiguration" registration,
    may "didChangeWatchedFiles" (form "DidChangeWatchedFilesClientCapabilities"
      [mayRegister, may "relativePatternSupport" bool]),
    may "symbol" (form "WorkspaceSymbolClientCapabilities" [mayRegister,
      may "symbolKind" symbolKinds, tags,
      may "resolveSupport" (properties "WorkspaceSymbolResolveSupportCapability")]),
    may "executeCommand" registration,
    may "workspaceFolders" bool,
    may "configuration" bool,
    may "semanticTokens" (refresh "SemanticTokensWorkspaceClientCapabilities"),
    may "codeLens" (refresh "CodeLensWorkspaceClientCapabilities"),
    may "fileOperations" (form "WorkspaceFileOperationsClientCapabilities" [mayRegister,
      may "didCreate" bool, may "willCreate" bool, may "didRename" bool, may "willRename" bool,
      may "didDelete" bool, may "willDelete" bool]),
    may "inlineValue" (refresh "InlineValueWorkspaceClientCapabilities"),
    may "inlayHint" (refresh "InlayHintWorkspaceClientCapabilities"),
    may "diagnostic" (refresh "DiagnosticWorkspaceClientCapabilities")]

/-! ## Documents -/

/-- What is told about an item of a completion. -/
def completionItem : Decoder Unit :=
  form "CompletionItemCapability" [
    may "snippetSupport" bool,
    may "commitCharactersSupport" bool,
    may "documentationFormat" formats,
    may "deprecatedSupport" bool,
    may "preselectSupport" bool,
    tags,
    may "insertReplaceSupport" bool,
    may "resolveSupport" (properties "CompletionItemCapabilityResolveSupport"),
    may "insertTextModeSupport" (form "InsertTextModeSupport" [must "valueSet" (list int32)]),
    may "labelDetailsSupport" bool]

/-- Completions. -/
def completion : Decoder Unit :=
  form "CompletionClientCapabilities" [
    mayRegister,
    may "completionItem" completionItem,
    may "completionItemKind" (form "CompletionItemKindCapability" [may "valueSet" (list int32)]),
    may "contextSupport" bool,
    may "insertTextMode" int32,
    may "completionList" (form "CompletionListCapability" [may "itemDefaults" texts])]

/-- Help on signatures. -/
def signatureHelp : Decoder Unit :=
  form "SignatureHelpClientCapabilities" [
    mayRegister,
    may "signatureInformation" (form "SignatureInformationSettings" [
      may "documentationFormat" formats,
      may "parameterInformation" (form "ParameterInformationSettings"
        [may "labelOffsetSupport" bool]),
      may "activeParameterSupport" bool]),
    may "contextSupport" bool]

/-- Actions on code. -/
def codeAction : Decoder Unit :=
  form "CodeActionClientCapabilities" [
    mayRegister,
    may "codeActionLiteralSupport" (form "CodeActionLiteralSupport"
      [must "codeActionKind" (form "CodeActionKindLiteralSupport" [must "valueSet" texts])]),
    may "isPreferredSupport" bool,
    may "disabledSupport" bool,
    may "dataSupport" bool,
    may "resolveSupport" (properties "CodeActionCapabilityResolveSupport"),
    may "honorsChangeAnnotations" bool]

/-- Foldings. -/
def folding : Decoder Unit :=
  form "FoldingRangeClientCapabilities" [
    mayRegister,
    may "rangeLimit" word32,
    may "lineFoldingOnly" bool,
    may "foldingRangeKind" (form "FoldingRangeKindCapability"
      [may "valueSet" (list (oneOf ["comment", "imports", "region"]))]),
    may "foldingRange" (form "FoldingRangeCapability" [may "collapsedText" bool])]

/-- Tokens with meaning. -/
def semanticTokens : Decoder Unit :=
  form "SemanticTokensClientCapabilities" [
    mayRegister,
    must "requests" (form "SemanticTokensClientCapabilitiesRequests" [
      may "range" bool,
      may "full" (anyOf "SemanticTokensFullOptions"
        [bool.checked, form "Delta" [may "delta" bool]])]),
    must "tokenTypes" texts,
    must "tokenModifiers" texts,
    must "formats" texts,
    may "overlappingTokenSupport" bool,
    may "multilineTokenSupport" bool,
    may "serverCancelSupport" bool,
    may "augmentsSyntaxTokens" bool]

/-- Documents. -/
def textDocument : Decoder Unit :=
  form "TextDocumentClientCapabilities" [
    may "synchronization" (form "TextDocumentSyncClientCapabilities" [mayRegister,
      may "willSave" bool, may "willSaveWaitUntil" bool, may "didSave" bool]),
    may "completion" completion,
    may "hover" (form "HoverClientCapabilities" [mayRegister, may "contentFormat" formats]),
    may "signatureHelp" signatureHelp,
    may "references" registration,
    may "documentHighlight" registration,
    may "documentSymbol" (form "DocumentSymbolClientCapabilities" [mayRegister,
      may "symbolKind" symbolKinds, may "hierarchicalDocumentSymbolSupport" bool, tags]),
    may "formatting" registration,
    may "rangeFormatting" registration,
    may "onTypeFormatting" registration,
    may "declaration" goto,
    may "definition" goto,
    may "typeDefinition" goto,
    may "implementation" goto,
    may "codeAction" codeAction,
    may "codeLens" registration,
    may "documentLink" (form "DocumentLinkClientCapabilities"
      [mayRegister, may "tooltipSupport" bool]),
    may "colorProvider" registration,
    may "rename" (form "RenameClientCapabilities" [mayRegister, may "prepareSupport" bool,
      may "prepareSupportDefaultBehavior" int32, may "honorsChangeAnnotations" bool]),
    may "publishDiagnostics" (form "PublishDiagnosticsClientCapabilities" [
      may "relatedInformation" bool, tags, may "versionSupport" bool,
      may "codeDescriptionSupport" bool, may "dataSupport" bool]),
    may "foldingRange" folding,
    may "selectionRange" (form "SelectionRangeClientCapabilities" [mayRegister]),
    may "linkedEditingRange" registration,
    may "callHierarchy" registration,
    may "semanticTokens" semanticTokens,
    may "moniker" registration,
    may "typeHierarchy" registration,
    may "inlineValue" registration,
    may "inlayHint" (form "InlayHintClientCapabilities" [mayRegister,
      may "resolveSupport" (properties "InlayHintResolveClientCapabilities")]),
    may "diagnostic" (form "DiagnosticClientCapabilities"
      [mayRegister, may "relatedDocumentSupport" bool])]

/-! ## The rest -/

/-- Windows. -/
def window : Decoder Unit :=
  form "WindowClientCapabilities" [
    may "workDoneProgress" bool,
    may "showMessage" (form "ShowMessageRequestClientCapabilities" [
      may "messageActionItem" (form "MessageActionItemCapabilities"
        [may "additionalPropertiesSupport" bool])]),
    may "showDocument" (form "ShowDocumentClientCapabilities" [must "support" bool])]

/-- What concerns no feature in particular. -/
def general : Decoder Unit :=
  form "GeneralClientCapabilities" [
    may "regularExpressions" (form "RegularExpressionsClientCapabilities"
      [must "engine" string, may "version" string]),
    may "markdown" (form "MarkdownClientCapabilities"
      [must "parser" string, may "version" string, may "allowedTags" texts]),
    may "staleRequestSupport" (form "StaleRequestSupportClientCapabilities"
      [must "cancel" bool, must "retryOnContentModified" texts]),
    may "positionEncodings" texts]

/-- All that an editor tells. -/
def capabilities : Decoder Unit :=
  form "ClientCapabilities" [
    may "workspace" workspace,
    may "textDocument" textDocument,
    may "window" window,
    may "general" general,
    may "experimental" json]

end TokenOutline.Server.Params
