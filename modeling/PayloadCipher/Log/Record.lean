import PayloadCipher.Fault
import PayloadCipher.Fields
import PayloadCipher.Log.Instant
import PayloadCipher.Log.Message

/-! Log records: named attributes in the order in which they were set. A record starts with the
attributes that describe the call; a call adds its extras after them and may not replace any of
the reserved ones. -/

namespace PayloadCipher.Log

/-- What a record shows as the name of its severity. A severity given by a name is shown as its
number, and one that is neither a number nor a name as itself. -/
def severityLabel (severity : Json) : Except Fault Json :=
  match severity with
  | .text name =>
    .ok (((namedSeverity? name).map Json.int).getD (.text ("Level " ++ name)))
  | .array _ | .object _ => .error (.unhashable severity.typeName)
  | v =>
    let number := v.number?.bind fun n => n.elim some Decimal.Binary64.integer?
    if v.isTooLong then .error .integerTooLong
    else .ok (.text ((number.bind ownSeverityName?).getD ("Level " ++ v.display)))

structure Record where
  attributes : Fields Json
  /-- When the record was made. -/
  moment : Moment
  /-- Whether the attribute that holds the arguments lists one for each place in the message. -/
  listsArguments : Bool
  /-- Whether the attribute that holds a report does so as its text. -/
  holdsReport : Bool

def standardNames : List String :=
  ["name", "msg", "args", "levelname", "levelno", "pathname", "filename", "module", "exc_info",
   "exc_text", "stack_info", "lineno", "funcName", "created", "msecs", "relativeCreated", "thread",
   "threadName", "processName", "process"]

def reservedNames : List String := standardNames ++ ["message", "asctime"]

namespace Record

def get? (r : Record) (name : String) : Option Json := Fields.get? r.attributes name

def get (r : Record) (name : String) : Json := (r.get? name).getD .null

def set (r : Record) (name : String) (v : Json) : Record :=
  { r with
    attributes := Fields.set name v r.attributes
    listsArguments := r.listsArguments && name != "args"
    holdsReport := r.holdsReport && name != "exc_info" }

def stamp (now : Moment) (r : Record) : Record :=
  { (r.set "created" (.float now.seconds)).set "msecs" (.float now.millis) with moment := now }

/-- A single table that is not empty stands for the arguments itself. -/
def isTable : List Json → Bool
  | [.object (_ :: _)] => true
  | _ => false

def make (logger severity label message : Json) (arguments : List Json)
    (report stack : Option String) (now : Moment) : Record :=
  let known : Fields Json :=
    [("name", logger), ("msg", message),
     ("args", if isTable arguments then arguments.headD .null else .array arguments),
     ("levelname", label), ("levelno", severity),
     ("exc_info", (report.map Json.text).getD .null),
     ("stack_info", (stack.map Json.text).getD .null)]
  stamp now
    { attributes := standardNames.map fun name => (name, (Fields.get? known name).getD .null)
      moment := now
      listsArguments := !isTable arguments
      holdsReport := report.isSome }

def compose (logger severity message : Json) (arguments : List Json) (attributes : Fields Json)
    (now : Instant) : Except Fault Record := do
  let label ← severityLabel severity
  match now.moment with
  | .ok now =>
    let r := make logger severity label message arguments none none now
    return (attributes.foldl (fun r (name, v) => r.set name v) r).stamp now
  | .error reason => .error (.outOfTime reason)

def addExtras (r : Record) : Fields Json → Except Fault Record
  | [] => .ok r
  | (name, v) :: rest =>
    if reservedNames.contains name then .error (.reservedAttribute name)
    else (r.set name v).addExtras rest

def arguments (r : Record) : Arguments :=
  match r.listsArguments, r.get "args" with
  | true, .array vs => .each vs
  | _, v => .whole v

/-- An attribute can stand in the way of the text. -/
def message (r : Record) : Except Mismatch String :=
  match r.get? "getMessage" with
  | some v => .error (.replaced v.typeName)
  | none => messageText (r.get "msg") r.arguments

def addLines (s : String) (more : Json) : String :=
  match more with
  | .text t => if t = "" then s else if s.toList.getLast? = some '\n' then s ++ t else s ++ "\n" ++ t
  | _ => s

/-- The text of a record, with the report and the stack that it was made with. -/
def bareText (r : Record) : Except Mismatch String :=
  r.message.map fun s => ["exc_info", "stack_info"].foldl (fun s name => addLines s (r.get name)) s

end Record
end PayloadCipher.Log
