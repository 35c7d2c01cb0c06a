import LintBridge.Response.Field

/-!
# Messages of an editor

What an editor tells the server: that it starts and stops, what happens to the documents it has
open, and which settings it has. Other notifications are passed over, and other requests are
refused.

* `LintBridge.Session.Message` – the messages;
* `LintBridge.Session.Message.ofJson` – a message from its JSON.
-/

namespace LintBridge.Session

open Json (Value)

/-- A message of an editor. -/
inductive Message where
  /-- The editor starts, with the root of its workspace by URI or by path, and with options. -/
  | started (id : Value) (rootUri rootPath : Option String) (options : Value)
  /-- A document was opened. -/
  | opened (uri : String) (version : Option Int) (text : String)
  /-- A document was changed; each change has the whole new text. -/
  | changed (uri : String) (version : Option Int) (texts : List String)
  /-- A document was saved. -/
  | saved (uri : String)
  /-- A document was closed. -/
  | closed (uri : String)
  /-- The editor has new settings. -/
  | configured (settings : Value)
  /-- The editor is about to stop. -/
  | stopping (id : Value)
  /-- A request of another kind. -/
  | unknownRequest (id : Value)
  /-- A notification of another kind. -/
  | unknownNotification

/-- A string, if it is one. -/
def string? : Value → Option String
  | .string t => some (Json.CodePoints.toString t)
  | _ => none

/-- An integer, if it is one. -/
def int? : Value → Option Int
  | .int n => some n
  | _ => none

/-- A string, empty if it is none. -/
def stringOf (v : Value) : String :=
  (string? v).getD ""

/-- The new texts in a list of changes. -/
def textsOf : Value → List String
  | .array changes => changes.map fun c => stringOf (Json.getD (Response.fieldsOf c) "text")
  | _ => []

/-- A message from its JSON. -/
def Message.ofJson (v : Value) : Message :=
  let message := Response.fieldsOf v
  let id := Json.getD message "id"
  let params := Response.fieldsOf (Json.getD message "params")
  let document := Response.fieldsOf (Json.getD params "textDocument")
  let uri := stringOf (Json.getD document "uri")
  let version := int? (Json.getD document "version")
  match stringOf (Json.getD message "method") with
  | "initialize" =>
    .started id (string? (Json.getD params "rootUri")) (string? (Json.getD params "rootPath"))
      (Json.getD params "initializationOptions")
  | "textDocument/didOpen" => .opened uri version (stringOf (Json.getD document "text"))
  | "textDocument/didChange" => .changed uri version (textsOf (Json.getD params "contentChanges"))
  | "textDocument/didSave" => .saved uri
  | "textDocument/didClose" => .closed uri
  | "workspace/didChangeConfiguration" => .configured (Json.getD params "settings")
  | "shutdown" => .stopping id
  | _ => if (Json.get? message "id").isSome then .unknownRequest id else .unknownNotification

end LintBridge.Session
