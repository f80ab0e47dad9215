import TokenOutline.Decode.Choice
import TokenOutline.Decode.Form
import TokenOutline.Editor.Params

/-!
# What the standard messages speak of

The forms that the parameters of many standard messages have in common: edits, commands, symbols,
diagnostics, and the tokens under which progress is reported.
-/

namespace TokenOutline.Server.Params

open Decoder Form

/-! ## Scalars -/

/-- A number of 32 bits or a text. -/
def numberOrText : Decoder Unit := anyOf "NumberOrString" [int32.checked, string.checked]

/-- A list of texts. -/
def texts : Decoder (List String) := list string

/-- A text with its format, or by itself. -/
def markup : Decoder Unit :=
  form "MarkupContent" [must "kind" (oneOf ["plaintext", "markdown"]), must "value" string]

/-- A text that may have a format; `title` is what the choice goes by. -/
def documentation (title : String) : Decoder Unit := anyOf title [string.checked, markup]

/-! ## Places and edits -/

/-- A stretch of a document that has a URL. -/
def location : Decoder Unit :=
  form "Location" [must "uri" url, must "range" Editor.Range.decode]

/-- A stretch of a document, or all of it. -/
def placeOfSymbol : Decoder Unit :=
  anyOf "OneOf" [location, form "WorkspaceLocation" [must "uri" url]]

/-- New text for a stretch of a document. -/
def textEdit : Decoder Unit :=
  form "TextEdit" [must "range" Editor.Range.decode, must "newText" string]

/-- A command of the editor. -/
def command : Decoder Unit :=
  form "Command" [must "title" string, must "command" string, may "arguments" (list json)]

/-- New text for a stretch of a document, with a note. -/
def annotatedEdit : Decoder Unit :=
  formWith "AnnotatedTextEdit" [must "annotationId" string]
    [.fields [must "range" Editor.Range.decode, must "newText" string]]

/-- The edits of one version of a document. -/
def documentEdit : Decoder Unit :=
  form "TextDocumentEdit" [
    must "textDocument" (form "OptionalVersionedTextDocumentIdentifier"
      [must "uri" url, may "version" int32]),
    must "edits" (list (anyOf "OneOf" [textEdit, annotatedEdit]))]

/-- The creation, the renaming or the removal of a file. -/
def fileOperation : Decoder Unit := fun v => do
  let choice (first second : String) : Decoder Unit :=
    form "Options" [may first bool, may second bool]
  let kind ← (Record.field (.of id) (.required "kind"
    (oneOf ["create", "rename", "delete"]))).decode "ResourceOp" v
  match kind with
  | "create" => form "CreateFile" [must "uri" url,
      may "options" (choice "overwrite" "ignoreIfExists"), may "annotationId" string] v
  | "rename" => form "RenameFile" [must "oldUri" url, must "newUri" url,
      may "options" (choice "overwrite" "ignoreIfExists"), may "annotationId" string] v
  | _ => form "DeleteFile" [must "uri" url,
      may "options" (form "DeleteFileOptions" [may "recursive" bool,
        may "ignoreIfNotExists" bool, may "annotationId" string])] v

/-- An object whose members are read by name and value. -/
def members (wanted : String) (read : String × Json → Except DecodeError Unit) : Decoder Unit
  | .object ms => ms.forM read
  | v => .error (.wrongType v wanted)

/-- Edits of the whole workspace: by document, or in an order. -/
def workspaceEdit : Decoder Unit :=
  form "WorkspaceEdit" [
    byDefault "changes" (nullable (members "map" fun (name, v) => do
      discard (url (.string name))
      discard (list textEdit v))),
    may "documentChanges" (anyOf "DocumentChanges" [
      (list documentEdit).checked,
      (list (anyOf "DocumentChangeOperation" [fileOperation, documentEdit])).checked]),
    may "changeAnnotations" (members "a map" fun (_, v) =>
      form "ChangeAnnotation" [must "label" string, may "needsConfirmation" bool,
        may "description" string] v)]

/-! ## Diagnostics and symbols -/

/-- A diagnostic. -/
def diagnostic : Decoder Unit :=
  form "Diagnostic" [
    must "range" Editor.Range.decode,
    may "severity" int32,
    may "code" numberOrText,
    may "codeDescription" (form "CodeDescription" [must "href" url]),
    may "source" string,
    must "message" string,
    may "relatedInformation" (list (form "DiagnosticRelatedInformation"
      [must "location" location, must "message" string])),
    may "tags" (list int32),
    may "data" json]

/-- A symbol of a hierarchy; `title` is what the record goes by, and `tags` reads its tags. -/
def hierarchyItem (title : String) (tags : Decoder Unit) : Decoder Unit :=
  form title [
    must "name" string,
    must "kind" int32,
    may "tags" tags,
    may "detail" string,
    must "uri" url,
    must "range" Editor.Range.decode,
    must "selectionRange" Editor.Range.decode,
    may "data" json]

/-! ## Groups that many parameters share -/

/-- The token under which progress is reported. -/
def progress : Group := .fields [may "workDoneToken" numberOrText]

/-- The token under which parts of the result are reported. -/
def partialResult : Group := .fields [may "partialResultToken" numberOrText]

/-- A document. -/
def inDocument : Field Unit := must "textDocument" Editor.DocumentId.decode

/-- A stretch. -/
def inRange : Field Unit := must "range" Editor.Range.decode

/-- A place in a document. -/
def atPlace : Group := .fields [inDocument, must "position" Editor.Position.decode]

/-- How text is formatted. -/
def formatting : Decoder Unit :=
  formWith "FormattingOptions" [
    must "tabSize" word32,
    must "insertSpaces" bool,
    may "trimTrailingWhitespace" bool,
    may "insertFinalNewline" bool,
    may "trimFinalNewlines" bool]
    [.others (anyOf "FormattingProperty" [bool.checked, int32.checked, string.checked])]

end TokenOutline.Server.Params
