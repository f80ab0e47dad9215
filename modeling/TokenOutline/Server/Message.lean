import TokenOutline.Outline.Basic
import TokenOutline.Editor.Params

/-!
# Messages of the editor protocol

A message is a request if it has an id, and a notification if not. The server answers requests with
responses, and sends notices of its own: `log_message` and the `LexerSymbolsChanged` notification.

* **`Message.ofJson?`**: the message that a value is, if it is one.
* **`Refusal.code`**, **`Refusal.message`**, **`Refusal.data`**: a refusal as the editor sees it.
* **`Outgoing.encode`**: what the server sends.
-/

namespace TokenOutline.Server

/-! ## What comes in -/

/-- The id of a request; null is one. -/
inductive MessageId where
  | number (n : Int)
  | text (s : String)
  | null
  deriving DecidableEq, Inhabited

/-- The id of a value: a signed integer of 64 bits, a string or null. -/
def MessageId.ofJson? : Json → Option MessageId
  | .string s => some (.text s)
  | .null => some .null
  | v => (Decoder.int64 v).toOption.map .number

/-- An id as a value. -/
def MessageId.encode : MessageId → Json
  | .number n => .ofInt n
  | .text s => .string s
  | .null => .null

/-- A message from the editor. -/
structure Message where
  method : String
  params : Option Json
  id : Option MessageId
  deriving DecidableEq, Inhabited

/-- A part of a message: there is at most one of its name, and it is what `read` accepts. -/
def part? (ms : List (String × Json)) (name : String) (read : Json → Option α) :
    Option (Option α) :=
  match ms.filter (·.1 = name) with
  | [] => some none
  | [(_, v)] => (read v).map some
  | _ => none

/-- The mark that every message carries. -/
def isVersion (v : Json) : Bool := v = .string "2.0"

/-- The text of a string. -/
def string? : Json → Option String
  | .string s => some s
  | _ => none

/-- The message of its parts. -/
def Message.ofParts? (version : Option Json) (method : Option String) (params : Option Json)
    (id : Option MessageId) : Option Message :=
  if version.any isVersion then some ⟨method.getD "", params.map Json.sorted, id⟩ else none

/-- The message that a value is: an object of its parts, or an array of them in order. -/
def Message.ofJson? : Json → Option Message
  | .object ms => do
    ofParts? (← part? ms "jsonrpc" some) (← part? ms "method" string?) (← part? ms "params" some)
      (← part? ms "id" MessageId.ofJson?)
  | .array [v] => ofParts? v none none none
  | .array [v, m] => do ofParts? v (← string? m) none none
  | .array [v, m, p] => do ofParts? v (← string? m) p none
  | .array [v, m, p, i] => do ofParts? v (← string? m) p (← MessageId.ofJson? i)
  | _ => none

/-- Whether a value is the error of a response: an object of a code, a message and perhaps data and
of nothing else, or an array of all three. -/
def isResponseError : Json → Bool
  | .object ms =>
    (part? ms "code" (fun v => (Decoder.int64 v).toOption)).any Option.isSome &&
      (part? ms "message" string?).any Option.isSome && (part? ms "data" some).isSome &&
      ms.all fun m => m.1 ∈ ["code", "message", "data"]
  | .array [code, message, _] => (Decoder.int64 code).toOption.isSome && (string? message).isSome
  | _ => false

/-- Whether a value is a response to a request of the server, which has none to send. -/
def isResponse : Json → Bool
  | .object ms =>
    (part? ms "jsonrpc" some).any (·.any isVersion) &&
      (part? ms "id" MessageId.ofJson?).any Option.isSome &&
      ((part? ms "result" some).any Option.isSome ||
        (part? ms "error" (fun v => if isResponseError v then some v else none)).any Option.isSome)
  | _ => false

/-! ## What goes out -/

/-- Why a request is refused. -/
inductive Refusal where
  /-- The text is no JSON. -/
  | parseError
  | invalidRequest
  | notInitialized
  /-- No method goes by the name. -/
  | unknownMethod (name : String)
  /-- The method is one of the protocol, but not of this server. -/
  | unsupportedMethod
  | missingParams
  | invalidParams (error : DecodeError)
  /-- The method takes no parameters. -/
  | unexpectedParams (params : Json)
  /-- The outline could not be built. -/
  | unresolved (error : ResolveError)
  | canceled
  deriving DecidableEq

/-- The number of a refusal. -/
def Refusal.code : Refusal → Int
  | .parseError => -32700
  | .invalidRequest => -32600
  | .notInitialized => -32002
  | .unknownMethod _ | .unsupportedMethod => -32601
  | .missingParams | .invalidParams _ | .unexpectedParams _ => -32602
  | .unresolved _ => -32603
  | .canceled => -32800

/-- A refusal in words. -/
def Refusal.message : Refusal → String
  | .parseError => "Parse error"
  | .invalidRequest => "Invalid request"
  | .notInitialized => "Server not initialized"
  | .unknownMethod _ | .unsupportedMethod => "Method not found"
  | .missingParams => "Missing params field"
  | .invalidParams e => e.message
  | .unexpectedParams v => "Unexpected params: " ++ v.text
  | .unresolved e => e.message
  | .canceled => "Canceled"

/-- What a refusal tells besides. -/
def Refusal.data : Refusal → Option Json
  | .unknownMethod name => some (.string name)
  | _ => none

/-- A refusal as a value. -/
def Refusal.encode (r : Refusal) : Json :=
  .object ([("code", .ofInt r.code)] ++
    (match r.data with
      | some d => [("data", d)]
      | none => []) ++
    [("message", .string r.message)])

/-- The answer to a request. -/
structure Response where
  id : MessageId
  result : Except Refusal Json

/-- How grave a line of the log is. -/
inductive Severity where
  | error
  | warning
  | info
  deriving DecidableEq

/-- The number of a severity. -/
def Severity.number : Severity → Nat
  | .error => 1
  | .warning => 2
  | .info => 3

/-- What the server sends of its own accord. -/
inductive Notice where
  /-- The outline of a document changed, or there is none any more. -/
  | changed (uri : Option Url)
  /-- A line for the log of the editor. -/
  | log (severity : Severity) (message : String)
  deriving DecidableEq

/-- What the server sends. -/
inductive Outgoing where
  | response (response : Response)
  | notice (notice : Notice)

/-- A response as a message. -/
def Response.encode (r : Response) : Json :=
  match r.result with
  | .ok v => .object [("id", r.id.encode), ("jsonrpc", .string "2.0"), ("result", v)]
  | .error e => .object [("error", e.encode), ("id", r.id.encode), ("jsonrpc", .string "2.0")]

/-- A notice as a message. -/
def Notice.encode : Notice → Json
  | .changed uri => .object [("jsonrpc", .string "2.0"),
      ("method", .string "antlr/lexerSymbolsChanged"),
      ("params", (Editor.ChangedParams.mk uri).encode)]
  | .log severity message => .object [("jsonrpc", .string "2.0"),
      ("method", .string "window/logMessage"),
      ("params", .object [("message", .string message), ("type", .ofNat severity.number)])]

/-- What the server sends as a message. -/
def Outgoing.encode : Outgoing → Json
  | .response r => r.encode
  | .notice n => n.encode

end TokenOutline.Server
