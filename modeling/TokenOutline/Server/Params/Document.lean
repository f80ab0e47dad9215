import TokenOutline.Editor.Params

/-!
# The parameters of the standard notifications

A notification is heeded only if all of its parameters are as the protocol has them. Of what it
tells about a document, the server keeps which one it is.
-/

namespace TokenOutline.Server.Params

/-! ## Documents -/

/-- A document that is opened, with its text. -/
def openedDocument : Record Url :=
  .field (.field (.field (.field (.of fun uri _ _ _ => uri) (.required "uri" .url))
    (.required "languageId" .string)) (.required "version" .int32)) (.required "text" .string)

/-- A document with its version. -/
def versionedDocument : Record Url :=
  .field (.field (.of fun uri _ => uri) (.required "uri" .url)) (.required "version" .int32)

/-- A change of the text of a document. -/
def contentChange : Record Unit :=
  .field (.field (.field (.of fun _ _ _ => ()) (.optional "range" Editor.Range.decode))
    (.optional "rangeLength" .word32)) (.required "text" .string)

/-- The document that was opened. -/
def opened : Decoder Url :=
  (Record.field (.of id)
    (.required "textDocument" (openedDocument.decode "TextDocumentItem"))).decode
      "DidOpenTextDocumentParams"

/-- The document that was changed. -/
def changed : Decoder Url :=
  (Record.field (.field (.of fun uri _ => uri)
    (.required "textDocument" (versionedDocument.decode "VersionedTextDocumentIdentifier")))
    (.required "contentChanges" (.list (contentChange.decode "TextDocumentContentChangeEvent")))
    ).decode "DidChangeTextDocumentParams"

/-- The document that was saved. -/
def saved : Decoder Url :=
  (Record.field (.field (.of fun (d : Editor.DocumentId) _ => d.uri)
    (.required "textDocument" Editor.DocumentId.decode)) (.optional "text" .string)).decode
      "DidSaveTextDocumentParams"

/-- The document that was closed. -/
def closed : Decoder Url :=
  (Record.field (.of fun (d : Editor.DocumentId) => d.uri)
    (.required "textDocument" Editor.DocumentId.decode)).decode "DidCloseTextDocumentParams"

/-- New settings. -/
def settings : Decoder Json :=
  (Record.field (.of id) (.required "settings" .json)).decode "DidChangeConfigurationParams"

end TokenOutline.Server.Params
