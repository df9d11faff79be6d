import PayloadCipher.Json.Printer
import PayloadCipher.Log.Record

/-! The line of a record: a JSON object that starts with six fixed fields, goes on with the entries
of the message if it is a table, and ends with the extras. A repeated name keeps its first place
and takes the last value. -/

namespace PayloadCipher.Log.Line

def requiredNames : List String :=
  ["asctime", "levelname", "name", "message", "correlation_id", "service"]

def shownName (name : String) : String :=
  if name = "levelname" then "level" else if name = "name" then "logger" else name

/-- Attributes that are shown nowhere but in the head of a line. -/
def skips (name : String) : Bool :=
  reservedNames.contains name || requiredNames.contains name || name.toList.head? == some '_'

def contents (r : Record) : Except Mismatch (String × Fields Json) :=
  match r.get "msg" with
  | .object entries => .ok ("", entries)
  | _ => r.message.map (·, [])

def addTrace (r : Record) (source entry : String) (entries : Fields Json) : Fields Json :=
  if !((Fields.get? entries entry).getD .null).isTruthy && (r.get source).isTruthy then
    Fields.set entry (r.get source) entries
  else entries

def reportText (r : Record) : Except NoReport String :=
  if r.holdsReport then .ok (r.get "exc_info").display else Trace.text (r.get "exc_info")

def addReport (r : Record) (entries : Fields Json) : Except NoReport (Fields Json) :=
  if !((Fields.get? entries "exc_info").getD .null).isTruthy &&
      (r.holdsReport || (r.get "exc_info").isTruthy) then
    (reportText r).map fun text => Fields.set "exc_info" (.text text) entries
  else .ok entries

def head (r : Record) : Fields Json :=
  requiredNames.map fun name => (shownName name, r.get name)

def extras (r : Record) : Fields Json := r.attributes.filter fun f => !skips f.1

def assemble (r : Record) (text : String) (entries : Fields Json) (time : String) :
    Fields Json :=
  let entries := addTrace r "stack_info" "stack_info" (addTrace r "exc_text" "exc_info" entries)
  let complete := (r.set "message" (.text text)).set "asctime" (.text time)
  Fields.merge
    (Fields.merge (head complete) (entries.map fun (name, v) => (shownName name, v)))
    (extras r)

/-- There is no line if the arguments do not fit the message, or if the time or a report has no
text. -/
def fields (r : Record) : Except Fault (Fields Json) :=
  match contents r, r.moment.text with
  | .ok (text, entries), .ok time =>
    match addReport r entries with
    | .ok entries => .ok (assemble r text entries time)
    | .error reason => .error (.noReport reason)
  | .error reason, _ => .error (.mismatch reason)
  | .ok _, .error reason => .error (.outOfTime reason)

/-- A line that would show an integer that is too long is not written. -/
def write (fields : Fields Json) : Except Fault String :=
  if (Json.object fields).isTooLong then .error .integerTooLong else .ok (Json.object fields).render

def render (r : Record) : Except Fault String := (fields r).bind write

end PayloadCipher.Log.Line
