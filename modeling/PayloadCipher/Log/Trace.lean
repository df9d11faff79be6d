import PayloadCipher.Json

/-! Reports of caught failures. A report has three parts, of which the second is what was caught
and the third is where. No value of a log record is a failure or a place, so the only reports among
them that have a text are those of nothing, from nowhere. -/

namespace PayloadCipher.Log

/-- Why a value has no text as a report: it has no parts, its sequence of parts ends before the
third, its parts have names, or one of them lacks a member that a failure or a place has. -/
inductive NoReport where
  | withoutParts (typeName : String)
  | ended (sequence : String)
  | named
  | wrongPart (typeName member : String)
deriving DecidableEq, Repr

def NoReport.message : NoReport → String
  | withoutParts typeName => "'" ++ typeName ++ "' object is not subscriptable"
  | ended sequence => sequence ++ "index out of range"
  | named => "2"
  | wrongPart typeName member => "'" ++ typeName ++ "' object has no attribute '" ++ member ++ "'"

namespace Trace

def textOfParts (caught place : Json) : Except NoReport String :=
  match caught, place with
  | .null, .null => .ok "NoneType: None"
  | caught, .null => .error (.wrongPart caught.typeName "__suppress_context__")
  | _, place => .error (.wrongPart place.typeName "tb_frame")

/-- The text of a value as a report. The parts of a text are texts, those of octets are numbers. -/
def text : Json → Except NoReport String
  | .array (_ :: caught :: place :: _) => textOfParts caught place
  | .array _ => .error (.ended "list ")
  | .text s => if 3 ≤ s.length then textOfParts (.text s) (.text s) else .error (.ended "string ")
  | .octets b => if 3 ≤ b.length then textOfParts (.int 0) (.int 0) else .error (.ended "")
  | .object _ => .error .named
  | v => .error (.withoutParts v.typeName)

end Trace
end PayloadCipher.Log
