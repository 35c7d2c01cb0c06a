import LintBridge.Json.Reader
import LintBridge.Json.Writer
import LintBridge.Session
import LintBridge.Text.CaseMap

/-!
# Messages on the wire

Each message is JSON text after a header that names its length **in octets**. An answer to a request
has its identifier; a message without one is a notification.

* `LintBridge.Session.framed` – a message with its header;
* `LintBridge.Session.lengthIn?` – the length that a line of a header names;
* `LintBridge.Session.capabilities` – what the server tells the editor at the start;
* `LintBridge.Session.Effect.answer?` – what the editor is sent for an effect.
-/

namespace LintBridge.Session

open Json (Value)

/-- A message with its header. -/
def framed (v : Value) : String :=
  let body := Json.compact v
  s!"Content-Length: {body.utf8ByteSize}\r\n\r\n{body}"

/-- The length that a line of a header names. -/
def lengthIn? (line : String) : Option Nat :=
  let name := line.toList.takeWhile (· != ':')
  if Text.lower (String.ofList name) == "content-length" then
    (Text.readInt? (String.ofList (line.toList.drop (name.length + 1)))).map Int.toNat
  else none

/-- A value from the octets of its JSON text. -/
def bodyOf? (octets : List UInt8) : Option Value :=
  match Text.Utf8.decode? octets with
  | .ok text => (Json.read (String.ofList text)).toOption
  | .error _ => none

/-- Whether a message tells the server to come to an end. -/
def isExit (v : Value) : Bool :=
  stringOf (Json.getD (Response.fieldsOf v) "method") == "exit"

/-- The URIs of the documents that a message is about. -/
def Message.uris : Message → List String
  | .opened uri _ _ => [uri]
  | .changed uri _ _ => [uri]
  | .saved uri => [uri]
  | .closed uri => [uri]
  | _ => []

/-- The root of the workspace that a message names. -/
def Message.workspace? : Message → Option Path
  | .started _ rootUri rootPath _ => (rootOf rootUri rootPath >>= rootPathOf).toOption.join
  | _ => none

/-! ### What the editor is sent -/

/-- The name by which the server introduces itself. -/
def serverName : String := "chalk-lsp"

/-- What the server tells the editor at the start: it wants to hear of documents that are opened,
closed and saved, and of changes with the whole new text. -/
def capabilities : Value :=
  .ofFields
    [("capabilities", .ofFields
      [("textDocumentSync", .ofFields
        [("openClose", .bool true), ("change", .int 1), ("save", .bool true)])]),
     ("serverInfo", .ofFields [("name", .ofString serverName)])]

/-- The result of a request that succeeded. -/
def resultOf : Message → Value
  | .started .. => capabilities
  | _ => .null

/-- The error of a request that failed: it is of a kind that is not known, or went wrong. -/
def errorOf : Message → Value
  | .unknownRequest _ =>
    .ofFields [("code", .int (-32601)), ("message", .ofString "Method not found")]
  | _ => .ofFields [("code", .int (-32603)), ("message", .ofString "Internal error")]

/-- A notification. -/
def notification (method : String) (params : Value) : Value :=
  .ofFields [("jsonrpc", .ofString "2.0"), ("method", .ofString method), ("params", params)]

/-- The answer to a request. -/
def response (request : Message) (id : Value) (ok : Bool) : Value :=
  let outcome := if ok then ("result", resultOf request) else ("error", errorOf request)
  .ofFields [("jsonrpc", .ofString "2.0"), ("id", id), outcome]

/-- What the editor is shown when something failed. -/
def complaint : Value :=
  notification "window/showMessage"
    (.ofFields [("type", .int 1), ("message", .ofString "Error in server")])

/-- What the editor is sent for an effect of a message. -/
def Effect.answer? (request : Message) : Effect → Option Value
  | .scheduled (.published p) =>
    match p.notice with
    | .ok n => some (notification "textDocument/publishDiagnostics" n.toJson)
    | .error _ => none
  | .replied id ok => some (response request id ok)
  | .complained => some complaint
  | _ => none

/-- The entry that an effect makes in the log. -/
def Effect.entry? : Effect → Option LogEntry
  | .scheduled (.logged e) => some e
  | _ => none

end LintBridge.Session
