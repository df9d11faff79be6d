import PayloadCipher.Log.Filter
import PayloadCipher.Log.Line

/-! The root of all loggers: its level and its handlers. Configuring it puts one handler in the
place of whatever was there. Without a handler, warnings and worse are written as bare text. -/

namespace PayloadCipher.Log

structure Handler where
  level : Level
  filters : List Filter
deriving DecidableEq, Repr

structure Root where
  level : Level
  handlers : List Handler
deriving DecidableEq, Repr

/-- One thing to log; extras are attributes of its record. It may come with the text of a report on
a failure and with that of the stack. -/
structure Call where
  logger : String
  severity : Int
  message : Json
  arguments : List Json := []
  extras : Fields Json := []
  report : Option String := none
  stack : Option String := none

def Call.record (call : Call) (now : Moment) : Except Fault Record :=
  (Record.make (.text call.logger) (.int call.severity) (.text (severityName call.severity))
    call.message call.arguments call.report call.stack now).addExtras call.extras

namespace Root

def initial : Root := ⟨.warning, []⟩

def configured (level : Level) (service : Json) (source : CorrelationSource) : Root :=
  { level := level
    handlers := [⟨level, [.correlation service source, .redact sensitiveNames]⟩] }

def configure (level : String) (service : Json) (source : CorrelationSource) :
    Except Fault Root :=
  match Level.parse? level with
  | some l => .ok (configured l service source)
  | none => .error (.invalidLevel level)

def loggerName (name : Json) : Except Fault String :=
  match name with
  | .text s => .ok (if s = "" then "root" else s)
  | v => if v.isTruthy then .error .loggerNotText else .ok "root"

def severity? (v : Json) : Option Int :=
  match v.number? with
  | some (.inl i) => some i
  | _ => none

def isEnabled (root : Root) (severity : Int) : Bool := root.level.admits severity

end Root

namespace Handler

/-- What a filter fails with comes out, while a line that cannot be made is left out. -/
def line? (h : Handler) (current : Json) (severity : Int) (r : Record) :
    Except Fault (Option String) :=
  if h.level.admits severity then
    (h.filters.foldlM (Filter.apply current) r).map fun r => (Line.render r).toOption
  else .ok none

end Handler

namespace Root

def emit (root : Root) (current : Json) (severity : Int) (r : Record) :
    Except Fault (List String) :=
  match root.handlers with
  | [] => .ok (if Level.warning.admits severity then r.bareText.toOption.toList else [])
  | handlers => (handlers.mapM fun h => Handler.line? h current severity r).map (·.filterMap id)

/-- What a call leaves behind. Below the level of the root nothing is looked at. The name of the
severity comes first and the extras last. -/
def log (root : Root) (current : Json) (now : Instant) (call : Call) :
    Except Fault (List String) :=
  if root.isEnabled call.severity then
    if Decimal.isTooLong call.severity then .error .integerTooLong
    else
      match now.moment with
      | .ok now => (call.record now).bind fun r => root.emit current call.severity r
      | .error reason => .error (.outOfTime reason)
  else .ok []

end Root
end PayloadCipher.Log
