import PayloadCipher.Decimal.Integer
import PayloadCipher.Text.CaseMap

/-! The five levels a log can be set to. Records carry any integer severity; a level admits the
severities from its own on. -/

namespace PayloadCipher.Log

inductive Level where
  | debug
  | info
  | warning
  | error
  | critical
deriving DecidableEq, Repr

namespace Level

def severity : Level → Int
  | debug => 10
  | info => 20
  | warning => 30
  | error => 40
  | critical => 50

theorem isTooLong_severity (level : Level) : Decimal.isTooLong level.severity = false := by
  apply Decimal.isTooLong_of_natAbs_le
  cases level <;> decide

def name : Level → String
  | debug => "DEBUG"
  | info => "INFO"
  | warning => "WARNING"
  | error => "ERROR"
  | critical => "CRITICAL"

def all : List Level := [critical, debug, error, info, warning]

def ofName? (s : String) : Option Level := all.find? (·.name == s)

def parse? (s : String) : Option Level := ofName? (Text.upper s)

def admits (level : Level) (severity : Int) : Bool := level.severity ≤ severity

theorem ofName?_name (level : Level) : ofName? level.name = some level := by
  cases level <;> rfl

theorem ofName?_eq_some_iff {s : String} {level : Level} :
    ofName? s = some level ↔ s = level.name := by
  constructor
  · intro h
    exact (beq_iff_eq.1 (List.find?_some h :)).symm
  · rintro rfl
    exact ofName?_name level

end Level

def ownSeverityName? (severity : Int) : Option String :=
  if severity = 0 then some "NOTSET"
  else (Level.all.find? (·.severity == severity)).map Level.name

def namedSeverity? (name : String) : Option Int :=
  if name = "NOTSET" then some 0 else if name = "WARN" then some Level.warning.severity
  else if name = "FATAL" then some Level.critical.severity
  else (Level.ofName? name).map Level.severity

/-- The name shown for a severity; those between the levels are shown by number. -/
def severityName (severity : Int) : String :=
  (ownSeverityName? severity).getD ("Level " ++ Decimal.integerText severity)

end PayloadCipher.Log
