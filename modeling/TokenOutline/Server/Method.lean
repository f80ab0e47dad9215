import TokenOutline.Server.Message
import TokenOutline.Server.Params.Document
import TokenOutline.Server.Params.Life
import TokenOutline.Server.Params.Request

/-!
# Methods

A method says how a message is let in, whether it is a request, and what its parameters ask for.
The methods are those of the `LanguageServer` interface and the two that `build_service` adds to it,
`antlr/lexerSymbols` and `antlr/activeDocumentChanged`.

* **`Method.find?`**: the method of a name.
* **`Method.read`**: what a message of the method asks for, or why it is refused.
-/

namespace TokenOutline.Server

/-- What a message asks for. -/
inductive Call where
  /-- The first request. -/
  | start
  /-- The notification that follows it. -/
  | started
  | shutdown
  | opened (uri : Url)
  | changed (uri : Url)
  | saved (uri : Url)
  | closed (uri : Url)
  /-- New settings, as they came. -/
  | settings (value : Json)
  | activated (uri : Option Url)
  /-- The items of a document, or those below an item. -/
  | outline (params : Editor.OutlineParams)
  /-- A request is given up. -/
  | cancel (id : MessageId)
  /-- A request of the protocol that the server leaves out. -/
  | unsupported
  /-- A notification of the protocol that changes nothing. -/
  | nothing
  deriving DecidableEq

/-- How a message is let in. -/
inductive Entrance where
  /-- Only the first time. -/
  | once
  /-- Between the first request and the last one. -/
  | initialized
  /-- As `initialized`, and the server goes down. -/
  | shutdown
  /-- The server ends. -/
  | exit
  /-- Always. -/
  | always
  deriving DecidableEq

/-- A method. -/
structure Method where
  entrance : Entrance
  isRequest : Bool
  read : Option Json → Except Refusal Call

namespace Method

/-- Parameters that have to be there and to be what the decoder takes. -/
def params (d : Decoder α) (call : α → Call) : Option Json → Except Refusal Call
  | none => .error .missingParams
  | some v =>
    match d v with
    | .ok a => .ok (call a)
    | .error e => .error (.invalidParams e)

/-- No parameters. -/
def noParams (call : Call) : Option Json → Except Refusal Call
  | none => .ok call
  | some v => .error (.unexpectedParams v)

/-- A request that is let in while the server runs. -/
def request (read : Option Json → Except Refusal Call) : Method := ⟨.initialized, true, read⟩

/-- A notification that is let in while the server runs. -/
def notification (read : Option Json → Except Refusal Call) : Method :=
  ⟨.initialized, false, read⟩

/-- A notification that changes nothing, whatever its parameters are. -/
def unheeded : Method := notification fun _ => .ok .nothing

/-- The id that a checked parameter writes. -/
def idOf (v : Json) : MessageId := (MessageId.ofJson? v).getD .null

/-- The methods of the server itself. -/
def own : List (String × Method) := [
  ("initialize", ⟨.once, true, params Params.start fun _ => .start⟩),
  ("initialized", notification (params Params.started fun _ => .started)),
  ("shutdown", ⟨.shutdown, true, noParams .shutdown⟩),
  ("exit", ⟨.exit, false, fun _ => .ok .nothing⟩),
  ("$/cancelRequest", ⟨.always, false, params Params.cancel fun v => .cancel (idOf v)⟩),
  ("textDocument/didOpen", notification (params Params.opened .opened)),
  ("textDocument/didChange", notification (params Params.changed .changed)),
  ("textDocument/didSave", notification (params Params.saved .saved)),
  ("textDocument/didClose", notification (params Params.closed .closed)),
  ("workspace/didChangeConfiguration", notification (params Params.settings .settings)),
  ("antlr/lexerSymbols", request (params Editor.OutlineParams.decode .outline)),
  ("antlr/activeDocumentChanged",
    notification (params Editor.ActiveParams.decode fun p => .activated p.uri))]

/-- The notifications of the protocol that change nothing. -/
def otherNotifications : List (String × Method) := [
  ("textDocument/willSave", unheeded),
  ("workspace/didChangeWorkspaceFolders", unheeded),
  ("workspace/didChangeWatchedFiles", unheeded),
  ("workspace/didCreateFiles", unheeded),
  ("workspace/didRenameFiles", unheeded),
  ("workspace/didDeleteFiles", unheeded)]

/-- The requests about the workspace and its documents that the server leaves out. -/
def requestsLeftOut : List (String × Decoder Unit) := [
  ("workspace/symbol", Params.symbolSearch),
  ("workspaceSymbol/resolve", Params.foundSymbol),
  ("workspace/executeCommand", Params.execution),
  ("workspace/willCreateFiles", Params.files "CreateFilesParams" "FileCreate" ["uri"]),
  ("workspace/willRenameFiles", Params.files "RenameFilesParams" "FileRename" ["oldUri", "newUri"]),
  ("workspace/willDeleteFiles", Params.files "DeleteFilesParams" "FileDelete" ["uri"]),
  ("workspace/diagnostic", Params.workspaceDiagnostics),
  ("textDocument/willSaveWaitUntil", Params.saving),
  ("textDocument/declaration", Params.aboutPlaceInParts "GotoDefinitionParams"),
  ("textDocument/definition", Params.aboutPlaceInParts "GotoDefinitionParams"),
  ("textDocument/typeDefinition", Params.aboutPlaceInParts "GotoDefinitionParams"),
  ("textDocument/implementation", Params.aboutPlaceInParts "GotoDefinitionParams"),
  ("textDocument/references", Params.aboutPlaceInParts "ReferenceParams" [
    Form.must "context" (Decoder.form "ReferenceContext" [Form.must "includeDeclaration" .bool])]),
  ("textDocument/prepareCallHierarchy", Params.aboutPlace "CallHierarchyPrepareParams"),
  ("callHierarchy/incomingCalls",
    Params.aboutItem "CallHierarchyIncomingCallsParams" Params.callItem),
  ("callHierarchy/outgoingCalls",
    Params.aboutItem "CallHierarchyOutgoingCallsParams" Params.callItem),
  ("textDocument/prepareTypeHierarchy", Params.aboutPlace "TypeHierarchyPrepareParams"),
  ("typeHierarchy/supertypes", Params.aboutItem "TypeHierarchySupertypesParams" Params.typeItem),
  ("typeHierarchy/subtypes", Params.aboutItem "TypeHierarchySubtypesParams" Params.typeItem),
  ("textDocument/documentHighlight", Params.aboutPlaceInParts "DocumentHighlightParams"),
  ("textDocument/documentLink", Params.aboutDocument "DocumentLinkParams"),
  ("documentLink/resolve", Params.documentLink),
  ("textDocument/hover", Params.aboutPlace "HoverParams"),
  ("textDocument/codeLens", Params.aboutDocument "CodeLensParams"),
  ("codeLens/resolve", Params.codeLens),
  ("textDocument/foldingRange", Params.aboutDocument "FoldingRangeParams"),
  ("textDocument/selectionRange", Params.aboutDocument "SelectionRangeParams" [
    Form.must "positions" (.list Editor.Position.decode)]),
  ("textDocument/documentSymbol", Params.aboutDocument "DocumentSymbolParams"),
  ("textDocument/semanticTokens/full", Params.tokens "SemanticTokensParams"),
  ("textDocument/semanticTokens/full/delta", Params.tokens "SemanticTokensDeltaParams" [
    Form.must "previousResultId" .string]),
  ("textDocument/semanticTokens/range",
    Params.tokens "SemanticTokensRangeParams" [Params.inRange]),
  ("textDocument/inlineValue", Params.inlineValues),
  ("textDocument/inlayHint", Params.inlayHints),
  ("inlayHint/resolve", Params.inlayHint),
  ("textDocument/moniker", Params.aboutPlaceInParts "MonikerParams"),
  ("textDocument/completion", Params.aboutPlaceInParts "CompletionParams" [
    Form.may "context" Params.completionContext]),
  ("completionItem/resolve", Params.completionEntry),
  ("textDocument/diagnostic", Params.aboutDocument "DocumentDiagnosticParams" [
    Form.may "identifier" .string, Form.may "previousResultId" .string]),
  ("textDocument/signatureHelp", Params.aboutPlace "SignatureHelpParams" [
    Form.may "context" Params.signatureContext]),
  ("textDocument/codeAction", Params.aboutDocument "CodeActionParams" [
    Params.inRange, Form.must "context" Params.actionContext]),
  ("codeAction/resolve", Params.action),
  ("textDocument/documentColor", Params.aboutDocument "DocumentColorParams"),
  ("textDocument/colorPresentation", Params.aboutDocument "ColorPresentationParams" [
    Form.must "color" Params.color, Params.inRange]),
  ("textDocument/formatting", Params.formattingOf "DocumentFormattingParams"),
  ("textDocument/rangeFormatting",
    Params.formattingOf "DocumentRangeFormattingParams" [Params.inRange]),
  ("textDocument/onTypeFormatting", Params.formattingOnType),
  ("textDocument/rename", Params.aboutPlace "RenameParams" [Form.must "newName" .string]),
  ("textDocument/prepareRename", Params.place),
  ("textDocument/linkedEditingRange", Params.aboutPlace "LinkedEditingRangeParams")]

/-- The requests that the server leaves out, as methods. -/
def otherRequests : List (String × Method) :=
  requestsLeftOut.map fun (name, d) => (name, request (params d fun _ => .unsupported))

/-- The method of a name. -/
def find? (name : String) : Option Method :=
  (own.lookup name).or ((otherNotifications.lookup name).or (otherRequests.lookup name))

end Method

end TokenOutline.Server
