import TokenOutline.Server.Params.Shape

/-!
# The parameters of the standard requests

The server leaves out the standard requests about code, but tells parameters that are not as the
protocol has them from a request that it does not answer.
-/

namespace TokenOutline.Server.Params

open Decoder Form

/-! ## The workspace -/

/-- A search for symbols. -/
def symbolSearch : Decoder Unit :=
  formWith "WorkspaceSymbolParams" [must "query" string] [partialResult, progress]

/-- A symbol that was found. -/
def foundSymbol : Decoder Unit :=
  form "WorkspaceSymbol" [
    must "name" string,
    must "kind" int32,
    may "tags" (list int32),
    may "containerName" string,
    must "location" placeOfSymbol,
    may "data" json]

/-- A command to be carried out. -/
def execution : Decoder Unit :=
  formWith "ExecuteCommandParams" [must "command" string, byDefault "arguments" (list json)]
    [progress]

/-- Files that are created, renamed or removed, each with the given fields. -/
def files (title file : String) (fields : List String) : Decoder Unit :=
  form title [must "files" (list (form file (fields.map fun name => must name string)))]

/-- Diagnostics of the whole workspace. -/
def workspaceDiagnostics : Decoder Unit :=
  formWith "WorkspaceDiagnosticParams" [
    may "identifier" string,
    must "previousResultIds"
      (list (form "PreviousResultId" [must "uri" url, must "value" string]))]
    [progress, partialResult]

/-! ## Documents and places -/

/-- A request about a document, with further fields, that reports parts of its result. -/
def aboutDocument (title : String) (fields : List (Field Unit) := []) : Decoder Unit :=
  formWith title (inDocument :: fields) [progress, partialResult]

/-- A request about a document that is about to be saved. -/
def saving : Decoder Unit :=
  form "WillSaveTextDocumentParams" [inDocument, must "reason" int32]

/-- A request about a place, with further fields, that reports its progress. -/
def aboutPlace (title : String) (fields : List (Field Unit) := []) : Decoder Unit :=
  formWith title fields [atPlace, progress]

/-- A request about a place, with further fields, that reports parts of its result. -/
def aboutPlaceInParts (title : String) (fields : List (Field Unit) := []) : Decoder Unit :=
  formWith title fields [atPlace, progress, partialResult]

/-- A place in a document by itself. -/
def place : Decoder Unit :=
  form "TextDocumentPositionParams" [inDocument, must "position" Editor.Position.decode]

/-- A request about a symbol of a hierarchy. -/
def aboutItem (title : String) (item : Decoder Unit) : Decoder Unit :=
  formWith title [must "item" item] [progress, partialResult]

/-- A symbol of the hierarchy of calls. -/
def callItem : Decoder Unit := hierarchyItem "CallHierarchyItem" (list int32).checked

/-- A symbol of the hierarchy of types. -/
def typeItem : Decoder Unit := hierarchyItem "TypeHierarchyItem" int32.checked

/-- A request for tokens with meaning, with further fields. -/
def tokens (title : String) (fields : List (Field Unit) := []) : Decoder Unit :=
  formWith title (inDocument :: fields) [progress, partialResult]

/-- A request for values in the text. -/
def inlineValues : Decoder Unit :=
  formWith "InlineValueParams" [inDocument, inRange,
    must "context" (form "InlineValueContext"
      [must "frameId" int32, must "stoppedLocation" Editor.Range.decode])]
    [progress]

/-- A request for hints in the text. -/
def inlayHints : Decoder Unit := formWith "InlayHintParams" [inDocument, inRange] [progress]

/-- A hint in the text. -/
def inlayHint : Decoder Unit :=
  form "InlayHint" [
    must "position" Editor.Position.decode,
    must "label" (anyOf "InlayHintLabel" [string.checked,
      (list (form "InlayHintLabelPart" [must "value" string,
        may "tooltip" (documentation "InlayHintLabelPartTooltip"), may "location" location,
        may "command" command])).checked]),
    may "kind" int32,
    may "textEdits" (list textEdit),
    may "tooltip" (documentation "InlayHintTooltip"),
    may "paddingLeft" bool,
    may "paddingRight" bool,
    may "data" json]

/-- A link in a document. -/
def documentLink : Decoder Unit :=
  form "DocumentLink" [inRange, may "target" url, may "tooltip" string, may "data" json]

/-- A command that is shown beside code. -/
def codeLens : Decoder Unit :=
  form "CodeLens" [inRange, may "command" command, may "data" json]

/-! ## Completion, signatures and actions -/

/-- An item of a completion. -/
def completionEntry : Decoder Unit :=
  form "CompletionItem" [
    must "label" string,
    may "labelDetails" (form "CompletionItemLabelDetails"
      [may "detail" string, may "description" string]),
    may "kind" int32,
    may "detail" string,
    may "documentation" (documentation "Documentation"),
    may "deprecated" bool,
    may "preselect" bool,
    may "sortText" string,
    may "filterText" string,
    may "insertText" string,
    may "insertTextFormat" int32,
    may "insertTextMode" int32,
    may "textEdit" (anyOf "CompletionTextEdit" [textEdit,
      form "InsertReplaceEdit" [must "newText" string, must "insert" Editor.Range.decode,
        must "replace" Editor.Range.decode]]),
    may "additionalTextEdits" (list textEdit),
    may "command" command,
    may "commitCharacters" texts,
    may "data" json,
    may "tags" (list int32)]

/-- How a completion was asked for. -/
def completionContext : Decoder Unit :=
  form "CompletionContext" [must "triggerKind" int32, may "triggerCharacter" string]

/-- A parameter of a signature. -/
def parameter : Decoder Unit :=
  form "ParameterInformation" [
    must "label" (anyOf "ParameterLabel" [string.checked, fun v => do
      let bounds ← list word32 v
      if bounds.length = 2 then .ok () else .error (.wrongLength bounds.length 2)]),
    may "documentation" (documentation "Documentation")]

/-- Help on signatures, as it was shown before. -/
def shownSignatures : Decoder Unit :=
  form "SignatureHelp" [
    must "signatures" (list (form "SignatureInformation" [must "label" string,
      may "documentation" (documentation "Documentation"), may "parameters" (list parameter),
      may "activeParameter" word32])),
    may "activeSignature" word32,
    may "activeParameter" word32]

/-- How help on signatures was asked for. -/
def signatureContext : Decoder Unit :=
  form "SignatureHelpContext" [must "triggerKind" int32, may "triggerCharacter" string,
    must "isRetrigger" bool, may "activeSignatureHelp" shownSignatures]

/-- What an action on code is asked for. -/
def actionContext : Decoder Unit :=
  form "CodeActionContext" [must "diagnostics" (list diagnostic), may "only" texts,
    may "triggerKind" int32]

/-- An action on code. -/
def action : Decoder Unit :=
  form "CodeAction" [
    must "title" string,
    may "kind" string,
    may "diagnostics" (list diagnostic),
    may "edit" workspaceEdit,
    may "command" command,
    may "isPreferred" bool,
    may "disabled" (form "CodeActionDisabled" [must "reason" string]),
    may "data" json]

/-! ## Colours, formatting and renaming -/

/-- A colour. -/
def color : Decoder Unit :=
  form "Color" [must "red" single, must "green" single, must "blue" single, must "alpha" single]

/-- A request to format a document, or a stretch of it. -/
def formattingOf (title : String) (fields : List (Field Unit) := []) : Decoder Unit :=
  formWith title (inDocument :: fields ++ [must "options" formatting]) [progress]

/-- A request to format text as it is typed. -/
def formattingOnType : Decoder Unit :=
  formWith "DocumentOnTypeFormattingParams" [must "ch" string, must "options" formatting] [atPlace]

end TokenOutline.Server.Params
