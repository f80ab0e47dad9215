import TokenOutline.Editor.Item
import TokenOutline.Url.Basic

/-!
# The parameters of the outline's own messages

* `OutlineParams` asks for the items of a document, or for those below an item (`lexer_symbols`).
* `ActiveParams` tells which document is active (`active_document_changed`).
* `ChangedParams` tells for which document the outline changed (`notify_changed`).
-/

namespace TokenOutline.Editor

/-- A document named in a message. -/
structure DocumentId where
  uri : Url
  deriving DecidableEq, Inhabited

/-- A document as an object. -/
def DocumentId.encode (d : DocumentId) : Json := .object [("uri", .string d.uri.text)]

/-- The fields of a document. -/
def DocumentId.record : Record DocumentId := .field (.of DocumentId.mk) (.required "uri" .url)

/-- A document. -/
def DocumentId.decode : Decoder DocumentId := DocumentId.record.decode "TextDocumentIdentifier"

/-- A request for items; without a document, those of the active one. -/
structure OutlineParams where
  document : Option DocumentId
  item : Option Item
  deriving DecidableEq, Inhabited

/-- A request for items as an object. -/
def OutlineParams.encode (p : OutlineParams) : Json :=
  .object [("item", .ofOption Item.encode p.item),
    ("textDocument", .ofOption DocumentId.encode p.document)]

/-- The fields of a request for items. -/
def OutlineParams.record : Record OutlineParams :=
  .field (.field (.of OutlineParams.mk)
    (.defaulted "textDocument" (.nullable DocumentId.decode) none))
    (.defaulted "item" (.nullable Item.decode) none)

/-- A request for items. -/
def OutlineParams.decode : Decoder OutlineParams :=
  OutlineParams.record.decode "LexerSymbolsParams"

/-- The active document, if there is one. -/
structure ActiveParams where
  uri : Option Url
  deriving DecidableEq, Inhabited

/-- The active document as an object. -/
def ActiveParams.encode (p : ActiveParams) : Json :=
  .object [("uri", .ofOption (fun u => .string u.text) p.uri)]

/-- The fields of the active document. -/
def ActiveParams.record : Record ActiveParams :=
  .field (.of ActiveParams.mk) (.defaulted "uri" (.nullable .url) none)

/-- The active document. -/
def ActiveParams.decode : Decoder ActiveParams := ActiveParams.record.decode "ActiveDocumentParams"

/-- The document whose outline changed, if there is one. -/
structure ChangedParams where
  uri : Option Url
  deriving DecidableEq, Inhabited

/-- The changed document as an object. -/
def ChangedParams.encode (p : ChangedParams) : Json :=
  .object [("uri", .ofOption (fun u => .string u.text) p.uri)]

/-- The fields of the changed document. -/
def ChangedParams.record : Record ChangedParams :=
  .field (.of ChangedParams.mk) (.optional "uri" .url)

/-- The changed document. -/
def ChangedParams.decode : Decoder ChangedParams :=
  ChangedParams.record.decode "LexerSymbolsChangedParams"

end TokenOutline.Editor
