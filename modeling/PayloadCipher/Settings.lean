import PayloadCipher.Cipher
import PayloadCipher.Fields
import PayloadCipher.Text.Blank

/-! Settings of the service, taken from five environment variables. Each group of settings is read
at its first use and then kept until its cache is cleared, whatever the variables become in
between. A problem tells one thing that is wrong with the settings. -/

namespace PayloadCipher

structure Variables where
  environment : Option String := none
  serviceName : Option String := none
  debug : Option String := none
  logLevel : Option String := none
  cipherAlgorithm : Option String := none
deriving DecidableEq, Repr

def Variables.assign (vars : Variables) (name : String) (value : Option String) : Variables :=
  if name = "ENVIRONMENT" then { vars with environment := value }
  else if name = "SERVICE_NAME" then { vars with serviceName := value }
  else if name = "DEBUG" then { vars with debug := value }
  else if name = "LOG_LEVEL" then { vars with logLevel := value }
  else if name = "CIPHER_ALGORITHM" then { vars with cipherAlgorithm := value }
  else vars

/-- Gives a variable a value. Names and values are texts without zeros, and a name is not empty and
holds no equals sign. -/
def Variables.give (vars : Variables) (name value : Json) : Except Fault Variables :=
  match name, value with
  | .text name, .text value =>
    if name.toList.contains '\x00' || value.toList.contains '\x00' then .error .zeroInVariable
    else if name = "" || name.toList.contains '=' then .error (.illegalVariable name)
    else .ok (vars.assign name (some value))
  | .text _, value => .error (.variableNotText value.typeName)
  | name, _ => .error (.variableNotText name.typeName)

def Variables.take (vars : Variables) (name : Json) : Except Fault Variables :=
  match name with
  | .text name => .ok (vars.assign name none)
  | name => .error (.variableNotText name.typeName)

def Variables.ofFields (given : Fields Json) : Except Fault Variables :=
  given.foldlM (fun vars (name, value) => vars.give (.text name) value) {}

inductive Deployment where
  | development
  | staging
  | production
  | other (name : String)
deriving DecidableEq, Repr

namespace Deployment

def name : Deployment → String
  | development => "development"
  | staging => "staging"
  | production => "production"
  | other name => name

def ofName (s : String) : Deployment :=
  if s = "development" then development
  else if s = "staging" then staging
  else if s = "production" then production
  else other s

/-- Reads the variable: letter case does not matter, two names have a short form, and every other
text means development. -/
def parse (s : String) : Deployment :=
  let s := Text.lower s
  if s = "production" ∨ s = "prod" then production
  else if s = "staging" ∨ s = "stage" then staging
  else development

theorem name_ofName (s : String) : (ofName s).name = s := by
  unfold ofName
  split
  · simp [name, *]
  · split
    · simp [name, *]
    · split <;> simp [name, *]

end Deployment

inductive Problem where
  | unknownDeployment (name : String)
  | emptyServiceName
  | invalidLogLevel (level : String)
  | emptyAlgorithm
  | unregisteredAlgorithm (algorithm : String) (available : List String)
deriving DecidableEq, Repr

namespace Problem

def area : Problem → String
  | unknownDeployment _ | emptyServiceName | invalidLogLevel _ => "base"
  | emptyAlgorithm | unregisteredAlgorithm .. => "cipher"

def text : Problem → String
  | unknownDeployment name => "ENVIRONMENT inválido: " ++ name
  | emptyServiceName => "SERVICE_NAME não pode ser vazio"
  | invalidLogLevel level => "LOG_LEVEL inválido: " ++ level
  | emptyAlgorithm => "CIPHER_ALGORITHM não pode ser vazio"
  | unregisteredAlgorithm algorithm available =>
    "CIPHER_ALGORITHM não registrado: " ++ algorithm ++ ". Disponíveis: " ++
      ", ".intercalate available

def entry (p : Problem) : String := p.area ++ ": " ++ p.text

end Problem

structure BaseSettings where
  deployment : Deployment := .development
  serviceName : String := "envelope"
  debug : Bool := false
  logLevel : String := "INFO"
deriving DecidableEq, Repr

/-- The first field that settings of a kind do not have is refused. What is called `self` is there
already, the settings to be made. -/
def refuseUnknown (owner : String) (known : List String) (given : Fields Json) :
    Except Fault Unit :=
  match given.find? fun f => !known.contains f.1 with
  | some ("self", _) => .error (.repeatedField owner "self")
  | some (name, _) => .error (.unknownField owner name)
  | none => .ok ()

namespace BaseSettings

def isStrict (s : BaseSettings) : Bool := s.deployment ≠ .development

def problems (s : BaseSettings) : List Problem :=
  (match s.deployment with
    | .other name => [.unknownDeployment name]
    | _ => []) ++
  (if s.serviceName = "" then [.emptyServiceName] else []) ++
  (if (Log.Level.parse? s.logLevel).isNone then [.invalidLogLevel s.logLevel] else [])

def affirmations : List String := ["true", "1", "yes"]

def ofVariables (vars : Variables) : BaseSettings where
  deployment := Deployment.parse (vars.environment.getD "development")
  serviceName := vars.serviceName.getD "envelope"
  debug := affirmations.contains (Text.lower (vars.debug.getD ""))
  logLevel := Text.upper (vars.logLevel.getD "INFO")

def fieldNames : List String := ["environment", "service_name", "debug", "log_level"]

/-- Settings put together field by field, from values of any type. A field of another type than its
own counts by what it displays or by its truth; only the log level has to be a text. -/
def ofFields (given : Fields Json) : Except Fault BaseSettings := do
  refuseUnknown "BaseSettings" fieldNames given
  let default : BaseSettings := {}
  let serviceName := (Fields.get? given "service_name").getD (.text default.serviceName)
  return {
    deployment :=
      ((Fields.get? given "environment").map fun v => Deployment.ofName v.display).getD
        default.deployment
    serviceName := if serviceName.isTruthy then serviceName.display else ""
    debug := ((Fields.get? given "debug").map Json.isTruthy).getD default.debug
    logLevel :=
      ← ((Fields.get? given "log_level").getD (.text default.logLevel)).textFor "upper" }

/-- The level that logging starts with, by its name: an unusable setting falls back on INFO. -/
def startLevelName (s : BaseSettings) : String :=
  let name := if s.debug then Log.Level.debug.name else Text.upper s.logLevel
  if (Log.Level.ofName? name).isSome then name else Log.Level.info.name

end BaseSettings

structure CipherSettings where
  algorithm : String := Cipher.algorithm
deriving DecidableEq, Repr

namespace CipherSettings

def problems (s : CipherSettings) : List Problem :=
  if s.algorithm = "" then [.emptyAlgorithm] else []

def fieldNames : List String := ["algorithm"]

def ofFields (given : Fields Json) : Except Fault CipherSettings := do
  refuseUnknown "CipherSettings" fieldNames given
  let algorithm := (Fields.get? given "algorithm").getD (.text Cipher.algorithm)
  return { algorithm := if algorithm.isTruthy then algorithm.display else "" }

def ofVariables (vars : Variables) : CipherSettings where
  algorithm := Text.strip (vars.cipherAlgorithm.getD Cipher.algorithm)

end CipherSettings

structure SettingsCache where
  base : Option BaseSettings := none
  cipher : Option CipherSettings := none
deriving DecidableEq, Repr

namespace SettingsCache

def readBase (cache : SettingsCache) (vars : Variables) : BaseSettings × SettingsCache :=
  let s := cache.base.getD (.ofVariables vars)
  (s, { cache with base := some s })

def readCipher (cache : SettingsCache) (vars : Variables) : CipherSettings × SettingsCache :=
  let s := cache.cipher.getD (.ofVariables vars)
  (s, { cache with cipher := some s })

def clearBase (cache : SettingsCache) : SettingsCache := { cache with base := none }

def clearCipher (cache : SettingsCache) : SettingsCache := { cache with cipher := none }

end SettingsCache
end PayloadCipher
