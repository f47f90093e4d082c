import SheetIntake.Json
import SheetIntake.Service.Export
import SheetIntake.Service.Import
import SheetIntake.Service.Upload

/-!
# Routes

Four routes are served: one says that the service is up, the others take uploads, imports and
exports. A path may end in strokes and carry a query. Bodies of imports and exports are JSON texts;
uploads come as a file in a form field. Whatever does not have the shape of a request is refused
without saying why.
-/

namespace SheetIntake.Service

open Calendar Text Workbook

/-- What a client sends with a request. -/
inductive Payload where
  | empty
  /-- A text with the type that the client gives it. -/
  | text (content contentType : String)
  /-- A value that was a JSON text. -/
  | json (value : Value)
  /-- A file in a field of a form. A file without a name is sent as a text. -/
  | form (field fileName : String) (file : File)

/-- What a client asks for. -/
structure HttpRequest where
  method : String
  path : String
  payload : Payload

/-- What is sent to a client: a JSON value, or a workbook as a file to keep. -/
inductive HttpContent where
  | json (value : Value)
  | workbook (disposition : String) (sheets : List Grid)

/-- The answer to a client. -/
structure HttpResponse where
  status : Status
  content : HttpContent

/-- What the routes work with. -/
structure HttpContext where
  site : Site
  registry : Registry
  uploadLimit : Int
  /-- How many lists and objects of a body may be open at once. -/
  nesting : Nat
  now : DateTime

/-- The routes. -/
inductive Route where
  | health
  | upload
  | importRows
  | exportRows
  deriving DecidableEq, Repr

namespace Route

/-- All routes with their paths. -/
def paths : List (String × Route) :=
  [("/health", health), ("/api/upload", upload), ("/api/import", importRows),
    ("/api/export", exportRows)]

/-- The method of a route. -/
def method : Route → String
  | health => "GET"
  | upload | importRows | exportRows => "POST"

/-- A path without its query and the strokes at its end. -/
def bare (path : String) : String :=
  let plain := path.toList.takeWhile fun character => character ≠ '?' && character ≠ '#'
  String.ofList (plain.reverse.dropWhile (· = '/')).reverse

/-- The route of a path. -/
def ofPath? (path : String) : Option Route := Assoc.get? paths (bare path)

end Route

namespace HttpResponse

/-- The answer that sends a JSON record. -/
def ofRecord (status : Status) (fields : Row) : HttpResponse := ⟨status, .json (.record fields)⟩

/-- The answer of the service itself to a request that it does not take. -/
def detail (status : Status) (text : String) : HttpResponse :=
  ofRecord status [("detail", .text text)]

/-- The answer to a refused request. -/
def ofRefusal (refusal : Refusal) : HttpResponse := ofRecord refusal.status refusal.body

/-- The answer to a request of the wrong shape. -/
def malformed : HttpResponse := ofRefusal (.badRequest "Invalid request body.")

/-- How a client is told to keep an exported workbook. -/
def exportDisposition : String := "attachment; filename=validated_data.xlsx"

/-- The answer to a request, from the data or the refusal. -/
def ofAnswer {α : Type} (content : α → HttpContent) : Answer α → HttpResponse
  | .ok data => ⟨.ok, content data⟩
  | .error refusal => ofRefusal refusal

end HttpResponse

namespace Payload

/-- Whether a content type is one of JSON. Its parameters and the case of its letters do not
matter. -/
def isJsonType (contentType : String) : Bool :=
  let plain := stripped (String.ofList (contentType.toList.takeWhile (· ≠ ';')))
  match (asciiLower plain).splitOn "/" with
  | [main, sub] => main = "application" && (sub = "json" || sub.endsWith "+json")
  | _ => false

/-- A text without a byte order mark in front. -/
def withoutMark (content : String) : String :=
  match content.toList with
  | first :: rest => if first.toNat = 0xfeff then String.ofList rest else content
  | [] => content

/-- The value of a JSON text, or the answer to a client whose text is none. -/
def parse (nesting : Nat) (content : String) : Except HttpResponse Value :=
  match Json.parse nesting (withoutMark content) with
  | .ok value => .ok value
  | .error .malformed => .error .malformed
  | .error .nestedTooDeeply =>
    .error (.detail .badRequest "There was an error parsing the body")

/-- The value of a payload, or the answer to a client whose payload has none. -/
def toValue (nesting : Nat) : Payload → Except HttpResponse Value
  | .json value => .ok value
  | .text content contentType =>
    if contentType.isEmpty || isJsonType contentType then parse nesting content
    else .error .malformed
  | .empty | .form _ _ _ => .error .malformed

/-- The request of a payload, or the answer to a client whose payload is none. -/
def toRequest {α : Type} (nesting : Nat) (read : Value → Checked α) (payload : Payload) :
    Except HttpResponse α := do
  match read (← payload.toValue nesting) with
  | .ok request => .ok request
  | .error _ => .error .malformed

/-- The field in which a file is uploaded. -/
def fileField : String := "file"

/-- The uploaded file of a payload, if there is one. A text in place of the file is refused, unless
it is empty. -/
def toFile : Payload → Except HttpResponse (Option File)
  | .form field fileName file =>
    if field ≠ fileField then .ok none
    else if fileName ≠ "" then .ok (some file)
    else if file.size = 0 then .ok none
    else .error .malformed
  | .empty | .text _ _ | .json _ => .ok none

end Payload

/-- The answer to an upload. No more than one byte beyond the limit is read. -/
def uploadFile (context : HttpContext) (file : Option File) : HttpResponse :=
  let read := file.map fun file => file.readAtMost (context.uploadLimit + 1)
  .ofAnswer (fun review => .json review.toWire)
    (upload context.site read context.registry context.uploadLimit context.now)

/-- The answer on a route, and the store after it. -/
def Route.handle (route : Route) (context : HttpContext) (payload : Payload) (store : Store) :
    HttpResponse × Store :=
  match route with
  | .health => (.ofRecord .ok [("status", .text "ok")], store)
  | .upload =>
    match payload.toFile with
    | .error response => (response, store)
    | .ok file => (uploadFile context file, store)
  | .importRows =>
    match payload.toRequest context.nesting ImportRequest.read with
    | .error response => (response, store)
    | .ok request =>
      let (answer, next) := Service.importRows request context.registry store
      (.ofAnswer (fun summary => .json (.record summary.body)) answer, next)
  | .exportRows =>
    match payload.toRequest context.nesting ExportRequest.read with
    | .error response => (response, store)
    | .ok request =>
      (.ofAnswer (.workbook HttpResponse.exportDisposition) (Service.exportRows request), store)

/-- The answer to a client, and the store after it. -/
def handle (context : HttpContext) (request : HttpRequest) (store : Store) :
    HttpResponse × Store :=
  match Route.ofPath? request.path with
  | none => (.detail .notFound "Not Found", store)
  | some route =>
    if request.method.toUpper = route.method then route.handle context request.payload store
    else (.detail .methodNotAllowed "Method Not Allowed", store)

end SheetIntake.Service
