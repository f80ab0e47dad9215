import TokenOutline.Server.Params.Capabilities

/-!
# The parameters of the messages about the server itself
-/

namespace TokenOutline.Server.Params

open Decoder Form

/-- A folder of the workspace. -/
def folder : Decoder Unit := form "WorkspaceFolder" [must "uri" url, must "name" string]

/-- The first request. -/
def start : Decoder Unit :=
  form "InitializeParams" [
    may "processId" word32,
    may "rootPath" string,
    byDefault "rootUri" (nullable url),
    may "initializationOptions" json,
    must "capabilities" capabilities,
    byDefault "trace" (nullable (oneOf ["off", "messages", "verbose"])),
    may "workspaceFolders" (list folder),
    may "clientInfo" (form "ClientInfo" [must "name" string, may "version" string]),
    may "locale" string]

/-- The notification that follows the first request. -/
def started : Decoder Unit := form "InitializedParams" []

/-- The id of the request to be given up. -/
def cancel : Decoder Json :=
  (Record.field (.of id) (.required "id" fun v =>
    (numberOrText v).map fun _ => v)).decode "CancelParams"

end TokenOutline.Server.Params
