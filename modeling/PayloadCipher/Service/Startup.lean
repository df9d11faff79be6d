import PayloadCipher.Service

/-! Starting the service: logging is configured from the settings, then the settings are checked
against each other and the registry. Problems are logged, and a strict deployment does not start
with any. -/

namespace PayloadCipher.Service

def startupLoggerName : String := "envelope.bootstrap"

/-- An empty algorithm is a problem of its own and is not looked up. -/
def registrationProblems (settings : CipherSettings) (registry : Registry) : List Problem :=
  if settings.algorithm ≠ "" ∧ ¬ settings.algorithm ∈ registry.identifiers then
    [.unregisteredAlgorithm settings.algorithm registry.identifiers]
  else []

def problemsOf (base : BaseSettings) (cipher : CipherSettings) (registry : Registry) :
    List Problem :=
  base.problems ++ cipher.problems ++ registrationProblems cipher registry

def problems (s : Service) : List Problem :=
  problemsOf (s.cache.readBase s.environment).1 (s.cache.readCipher s.environment).1 s.registry

def outcomeCall (deployment : Deployment) (entries : List String) : Log.Call :=
  let subject := [("component", Json.text "bootstrap")]
  let place := [("environment", Json.text deployment.name)]
  if entries = [] then
    { logger := startupLoggerName, severity := Log.Level.info.severity,
      message := .text "settings_validated",
      extras := subject ++ [("result", .text "ok")] ++ place }
  else
    { logger := startupLoggerName, severity := Log.Level.warning.severity,
      message := .text "settings_validation_failed",
      extras := subject ++ [("result", .text "failed")] ++ place ++
        [("error_count", .int entries.length), ("errors", .array (entries.map Json.text))] }

def report (base : BaseSettings) (entries : List String) : Action Unit := do
  log (outcomeCall base.deployment entries)
  if entries ≠ [] ∧ base.isStrict then
    Action.fail (.invalidConfiguration base.deployment.name entries)

def validateSettings : Action Unit := do
  let base ← baseSettings
  let _ ← cipherSettings
  report base ((← Action.ask problems).map Problem.entry)

def start : Action Unit := do
  let base ← baseSettings
  configureLogging base.startLevelName (.text base.serviceName) .current
  validateSettings

end PayloadCipher.Service
