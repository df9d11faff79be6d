import PayloadCipher.Proofs.CaseMap
import PayloadCipher.Proofs.Line
import PayloadCipher.Proofs.Startup

/-! The outcome of a start. The variables that the settings were loaded from and the registry tell
what is wrong, at which level logging starts, whether the start fails, and the one line that it
writes. -/

namespace PayloadCipher

namespace Log.Level

theorem ofName?_eq_none_iff {s : String} : ofName? s = none ↔ s ∉ all.map name := by
  simp only [ofName?, List.find?_eq_none, beq_iff_eq, List.mem_map, not_exists, not_and]

theorem parse?_name (level : Level) : parse? level.name = some level := by
  cases level <;> rfl

theorem parse?_upper (s : String) : parse? (Text.upper s) = ofName? (Text.upper s) := by
  rw [parse?, Text.upper_upper]

end Log.Level

namespace BaseSettings

def startLevel (s : BaseSettings) : Log.Level :=
  if s.debug then .debug else (Log.Level.parse? s.logLevel).getD .info

theorem parse?_startLevelName (s : BaseSettings) :
    Log.Level.parse? s.startLevelName = some s.startLevel := by
  have hparse : Log.Level.parse? s.logLevel = Log.Level.ofName? (Text.upper s.logLevel) := rfl
  rw [startLevelName, startLevel, hparse]
  cases s.debug with
  | true => exact Log.Level.parse?_name .debug
  | false =>
    simp only [Bool.false_eq_true, if_false]
    cases hlevel : Log.Level.ofName? (Text.upper s.logLevel) with
    | some level =>
      rw [Log.Level.ofName?_eq_some_iff.1 hlevel]
      exact Log.Level.parse?_name level
    | none => exact Log.Level.parse?_name .info

end BaseSettings

namespace Service

theorem configureLogging_of_parse? {name : String} {level : Log.Level}
    (h : Log.Level.parse? name = some level) (service : Json) (source : Log.CorrelationSource)
    (s : Service) : configureLogging name service source s =
      (.ok (), { s with root := Log.Root.configured level service source }) := by
  rw [configureLogging, Log.Root.configure, h]

theorem perform_configure (level service : Json) (source : Log.CorrelationSource) (s : Service) :
    perform (.configure level service source) s =
      match level.textFor "upper" with
      | .error fault => (.error fault, s)
      | .ok name =>
        match Log.Level.parse? name with
        | none => (.error (.invalidLevel name), s)
        | some l =>
          (.ok (.root (Log.Root.configured l service source)),
            { s with root := Log.Root.configured l service source }) := by
  rw [perform]
  cases level.textFor "upper" with
  | error fault => rw [Action.ofExcept_error_bind]
  | ok name =>
    rw [Action.ofExcept_ok_bind]
    dsimp only
    cases hlevel : Log.Level.parse? name with
    | none =>
      have hfault : configureLogging name service source s = (.error (.invalidLevel name), s) := by
        rw [configureLogging, Log.Root.configure, hlevel]
      rw [Action.bind_of_error hfault]
    | some l =>
      rw [Action.bind_of_ok (configureLogging_of_parse? hlevel service source s)]
      rfl

def prepared (s : Service) : Service :=
  let base := (s.cache.readBase s.environment).1
  { s.withSettings with
    root := Log.Root.configured base.startLevel (.text base.serviceName) .current }

theorem start_apply (s : Service) :
    start s =
      report (s.cache.readBase s.environment).1 (s.problems.map Problem.entry) s.prepared := by
  have hbase : baseSettings s = (.ok (s.cache.readBase s.environment).1,
      { s with cache := (s.cache.readBase s.environment).2 }) := rfl
  have hconfigure := configureLogging_of_parse?
    (BaseSettings.parse?_startLevelName (s.cache.readBase s.environment).1)
  rw [start, Action.bind_of_ok hbase, Action.bind_of_ok (hconfigure _ _ _), validateSettings_apply]
  rfl

theorem root_start (s : Service) : (start s).2.root = s.prepared.root := by
  rw [start_apply]
  obtain ⟨lines, h⟩ := report_snd (s.cache.readBase s.environment).1 (s.problems.map Problem.entry)
    s.prepared
  rw [h]

theorem log_of_plain {s : Service} {level : Log.Level} {service : Json}
    {source : Log.CorrelationSource} (hroot : s.root = Log.Root.configured level service source)
    {now : Log.Moment} {time : String} (hnow : s.clock.moment = .ok now)
    (htime : now.text = .ok time) {call : Log.Call} {text : String} (hcall : call.Plain text)
    (hseverity : Decimal.isTooLong call.severity = false) :
    let fields := call.plainFields text time (source.identifier s.correlation.current) service
    log call s = (.ok (), { s with
      written := s.written ++
        if level.admits call.severity && !(Json.object fields).isTooLong then
          [(Json.object fields).render]
        else [] }) := by
  intro fields
  rw [log, hroot, Log.Root.log_configured]
  cases level.admits call.severity with
  | true =>
    obtain ⟨r, hr, hcomplete⟩ :=
      Log.Call.complete_record hcall.extras now service source s.correlation.current
    rw [hnow, hseverity, if_pos rfl, if_neg Bool.false_ne_true]
    dsimp only
    rw [hr, Except.map, hcomplete, Log.Line.render,
      Log.Call.fields_plainRecord now _ service hcall htime, Except.bind, Log.Line.write]
    dsimp only
    cases (Json.object fields).isTooLong <;> rfl
  | false => simp

theorem plain_outcomeCall (deployment : Deployment) (entries : List String) :
    (outcomeCall deployment entries).Plain
      (if entries = [] then "settings_validated" else "settings_validation_failed") := by
  have hok : Log.PlainNames ["component", "result", "environment"] :=
    ⟨by decide, by decide, by decide⟩
  have hfailed : Log.PlainNames ["component", "result", "environment", "error_count", "errors"] :=
    ⟨by decide, by decide, by decide⟩
  rw [outcomeCall]
  split
  · exact ⟨rfl, rfl, rfl, rfl, hok⟩
  · exact ⟨rfl, rfl, rfl, rfl, hfailed⟩

theorem isTooLong_severity_outcomeCall (deployment : Deployment) (entries : List String) :
    Decimal.isTooLong (outcomeCall deployment entries).severity = false := by
  rw [outcomeCall]
  split
  · exact Log.Level.isTooLong_severity .info
  · exact Log.Level.isTooLong_severity .warning

theorem report_of_configured {s : Service} {level : Log.Level} {service : Json}
    {source : Log.CorrelationSource} (hroot : s.root = Log.Root.configured level service source)
    {now : Log.Moment} {time : String} (hnow : s.clock.moment = .ok now)
    (htime : now.text = .ok time) (base : BaseSettings) (entries : List String) :
    let fields := (outcomeCall base.deployment entries).plainFields
      (if entries = [] then "settings_validated" else "settings_validation_failed") time
      (source.identifier s.correlation.current) service
    report base entries s =
      (if entries ≠ [] ∧ base.isStrict then
        .error (.invalidConfiguration base.deployment.name entries) else .ok (),
       { s with
         written := s.written ++
           if level.admits (outcomeCall base.deployment entries).severity &&
              !(Json.object fields).isTooLong then [(Json.object fields).render]
           else [] }) := by
  intro fields
  rw [report, Action.bind_of_ok (log_of_plain hroot hnow htime
    (plain_outcomeCall base.deployment entries) (isTooLong_severity_outcomeCall _ _))]
  split <;> rfl

end Service

theorem Deployment.parse_ne_other (s name : String) : parse s ≠ other name := by
  rw [parse]
  split
  · exact Deployment.noConfusion
  · split
    · exact Deployment.noConfusion
    · exact Deployment.noConfusion

namespace Variables

def bootProblems (base cipher : Variables) (registry : Registry) : List Problem :=
  let level := Text.upper (base.logLevel.getD "INFO")
  let algorithm := Text.strip (cipher.cipherAlgorithm.getD Cipher.algorithm)
  (if base.serviceName.getD "envelope" = "" then [.emptyServiceName] else []) ++
  (if level ∈ Log.Level.all.map Log.Level.name then [] else [.invalidLogLevel level]) ++
  (if algorithm = "" then [.emptyAlgorithm]
    else if algorithm ∈ registry.identifiers then []
    else [.unregisteredAlgorithm algorithm registry.identifiers])

def bootLevel (base : Variables) : Log.Level :=
  if Text.lower (base.debug.getD "") ∈ ["true", "1", "yes"] then .debug
  else (Log.Level.ofName? (Text.upper (base.logLevel.getD "INFO"))).getD .info

def deploymentName (base : Variables) : String :=
  let name := Text.lower (base.environment.getD "development")
  if name ∈ ["production", "prod"] then "production"
  else if name ∈ ["staging", "stage"] then "staging"
  else "development"

def bootIsStrict (base : Variables) : Bool :=
  ["production", "prod", "staging", "stage"].contains
    (Text.lower (base.environment.getD "development"))

def bootFields (base : Variables) (problems : List Problem) (time : String) (correlation : Json) :
    Fields Json :=
  let fields (level message result : String) : Fields Json :=
    [("asctime", .text time), ("level", .text level), ("logger", .text "envelope.bootstrap"),
     ("message", .text message), ("correlation_id", correlation),
     ("service", .text (base.serviceName.getD "envelope")), ("component", .text "bootstrap"),
     ("result", .text result), ("environment", .text base.deploymentName)]
  if problems = [] then fields "INFO" "settings_validated" "ok"
  else fields "WARNING" "settings_validation_failed" "failed" ++
    [("error_count", .int problems.length),
     ("errors", .array (problems.map fun p => .text p.entry))]

end Variables

namespace BaseSettings

open Variables

theorem startLevel_ofVariables (vars : Variables) :
    (ofVariables vars).startLevel = vars.bootLevel := by
  rw [startLevel, ofVariables, bootLevel, Log.Level.parse?_upper]
  simp [affirmations]

theorem isStrict_ofVariables (vars : Variables) :
    (ofVariables vars).isStrict = vars.bootIsStrict := by
  rw [isStrict, ofVariables, bootIsStrict, Deployment.parse]
  generalize Text.lower (vars.environment.getD "development") = name
  dsimp only
  split
  case isTrue h => rcases h with rfl | rfl <;> rfl
  case isFalse h =>
    split
    case isTrue h' => rcases h' with rfl | rfl <;> rfl
    case isFalse h' =>
      rw [not_or] at h h'
      simp [h, h']

theorem name_deployment_ofVariables (vars : Variables) :
    (ofVariables vars).deployment.name = vars.deploymentName := by
  rw [ofVariables, deploymentName, Deployment.parse]
  generalize Text.lower (vars.environment.getD "development") = name
  simp only [List.mem_cons, List.not_mem_nil, or_false]
  split
  · rfl
  · split <;> rfl

theorem problems_ofVariables (vars : Variables) :
    (ofVariables vars).problems =
      (if vars.serviceName.getD "envelope" = "" then [.emptyServiceName] else []) ++
      (if Text.upper (vars.logLevel.getD "INFO") ∈ Log.Level.all.map Log.Level.name then []
        else [.invalidLogLevel (Text.upper (vars.logLevel.getD "INFO"))]) := by
  have hdeployment (name : String) : (ofVariables vars).deployment ≠ .other name :=
    Deployment.parse_ne_other _ name
  have hlevel : (Log.Level.parse? (ofVariables vars).logLevel).isNone = true ↔
      Text.upper (vars.logLevel.getD "INFO") ∉ Log.Level.all.map Log.Level.name := by
    rw [Option.isNone_iff_eq_none, ofVariables, Log.Level.parse?_upper,
      Log.Level.ofName?_eq_none_iff]
  rw [problems]
  split
  case h_1 name hother => exact absurd hother (hdeployment name)
  case h_2 =>
    rw [List.nil_append]
    by_cases h : Text.upper (vars.logLevel.getD "INFO") ∈ Log.Level.all.map Log.Level.name
    · rw [if_neg (fun hnone => hlevel.1 hnone h), if_pos h]
      rfl
    · rw [if_pos (hlevel.2 h), if_neg h]
      rfl

end BaseSettings

/-- The settings in force were loaded from these variables, be it now or at an earlier reading. -/
structure Service.LoadedFrom (s : Service) (base cipher : Variables) : Prop where
  base_eq : (s.cache.readBase s.environment).1 = .ofVariables base
  cipher_eq : s.cipherSettingsOf = .ofVariables cipher

namespace Service

theorem problems_append_registrationProblems (settings : CipherSettings) (registry : Registry) :
    settings.problems ++ registrationProblems settings registry =
      if settings.algorithm = "" then [.emptyAlgorithm]
      else if settings.algorithm ∈ registry.identifiers then []
      else [.unregisteredAlgorithm settings.algorithm registry.identifiers] := by
  rw [CipherSettings.problems, registrationProblems]
  by_cases hempty : settings.algorithm = ""
  · simp [hempty]
  · by_cases hmem : settings.algorithm ∈ registry.identifiers <;> simp [hempty, hmem]

theorem LoadedFrom.problems_eq {s : Service} {base cipher : Variables}
    (h : s.LoadedFrom base cipher) :
    s.problems = Variables.bootProblems base cipher s.registry := by
  rw [Service.problems_eq, h.base_eq, h.cipher_eq, problemsOf, List.append_assoc,
    problems_append_registrationProblems, BaseSettings.problems_ofVariables]
  rfl

theorem plainFields_outcomeCall (vars : Variables) (problems : List Problem) (time : String)
    (correlation : Json) :
    (outcomeCall (BaseSettings.ofVariables vars).deployment
      (problems.map Problem.entry)).plainFields
        (if problems.map Problem.entry = [] then "settings_validated"
          else "settings_validation_failed") time correlation
        (.text (BaseSettings.ofVariables vars).serviceName) =
      vars.bootFields problems time correlation := by
  rw [outcomeCall, BaseSettings.name_deployment_ofVariables, Variables.bootFields]
  cases problems with
  | nil => rfl
  | cons p rest =>
    have hlevel : Log.severityName Log.Level.warning.severity = "WARNING" := rfl
    have hservice : (BaseSettings.ofVariables vars).serviceName =
        vars.serviceName.getD "envelope" := rfl
    simp [Log.Call.plainFields, startupLoggerName, hlevel, hservice]

theorem length_bootProblems_le (base cipher : Variables) (registry : Registry) :
    (Variables.bootProblems base cipher registry).length ≤ 3 := by
  have hbound {c : Prop} [Decidable c] {m n : Nat} (hm : m ≤ 1) (hn : n ≤ 1) :
      (if c then m else n) ≤ 1 := by
    split
    · exact hm
    · exact hn
  have hzero : 0 ≤ 1 := Nat.zero_le 1
  have hone : 1 ≤ 1 := Nat.le_refl 1
  simp only [Variables.bootProblems, List.length_append, apply_ite List.length, List.length_nil,
    List.length_singleton]
  exact Nat.add_le_add (Nat.add_le_add (hbound hone hzero) (hbound hzero hone))
    (hbound hone (hbound hzero hone))

/-- Only the correlation identifier can keep the line of a start from being written. -/
theorem isTooLong_bootFields (vars : Variables) {problems : List Problem}
    (h : problems.length ≤ 3) (time : String) (correlation : Json) :
    (Json.object (vars.bootFields problems time correlation)).isTooLong =
      correlation.isTooLong := by
  have hcount : Decimal.isTooLong (problems.length : Int) = false :=
    Decimal.isTooLong_of_natAbs_le (by omega)
  rw [Variables.bootFields]
  split <;> simp [hcount]

theorem severity_outcomeCall (deployment : Deployment) (problems : List Problem) :
    (outcomeCall deployment (problems.map Problem.entry)).severity =
      (if problems = [] then Log.Level.info else .warning).severity := by
  rw [outcomeCall]
  by_cases h : problems = [] <;> simp [h]

theorem LoadedFrom.root_prepared {s : Service} {base cipher : Variables}
    (h : s.LoadedFrom base cipher) :
    s.prepared.root =
      Log.Root.configured base.bootLevel (.text (base.serviceName.getD "envelope")) .current := by
  rw [prepared, h.base_eq, BaseSettings.startLevel_ofVariables]
  rfl

theorem LoadedFrom.start_eq {s : Service} {base cipher : Variables} (h : s.LoadedFrom base cipher)
    {now : Log.Moment} {time : String} (hnow : s.clock.moment = .ok now)
    (htime : now.text = .ok time) :
    let problems := Variables.bootProblems base cipher s.registry
    start s =
      (if problems ≠ [] ∧ base.bootIsStrict then
        .error (.invalidConfiguration base.deploymentName (problems.map Problem.entry))
      else .ok (),
       { s.prepared with
         written := s.written ++
           if base.bootLevel.admits
              (if problems = [] then Log.Level.info else .warning).severity &&
                !s.correlation.current.isTooLong then
            [(Json.object (base.bootFields problems time s.correlation.current)).render]
           else [] }) := by
  intro problems
  have hlong := isTooLong_bootFields base (length_bootProblems_le base cipher s.registry) time
    s.correlation.current
  rw [start_apply, h.base_eq, h.problems_eq, report_of_configured h.root_prepared hnow htime,
    severity_outcomeCall, BaseSettings.isStrict_ofVariables,
    BaseSettings.name_deployment_ofVariables]
  rw [← plainFields_outcomeCall base problems time s.correlation.current] at hlong ⊢
  rw [← hlong]
  simp only [ne_eq, List.map_eq_nil_iff]
  rfl

/-- The outcome of a start, while the clock shows a time that can be written. The settings and the
registry tell what is wrong; only a strict deployment fails for it, and with no other fault. Logging
is configured either way, and one line tells the outcome if the level admits it, unless the
correlation identifier holds an integer that is too long to be written. -/
theorem start_determined {s : Service} {base cipher : Variables} (hloaded : s.LoadedFrom base cipher)
    {now : Log.Moment} {time : String} (hnow : s.clock.moment = .ok now)
    (htime : now.text = .ok time) :
    let problems := Variables.bootProblems base cipher s.registry
    let level := base.bootLevel
    (start s).1 =
      (if problems ≠ [] ∧ base.bootIsStrict then
        .error (.invalidConfiguration base.deploymentName (problems.map Problem.entry))
      else .ok ()) ∧
    (∀ fault, (start s).1 = .error fault → fault.kind = .runtime) ∧
    (start s).2.root = ⟨level, [⟨level,
      [.correlation (.text (base.serviceName.getD "envelope")) .current,
       .redact Log.sensitiveNames]⟩]⟩ ∧
    (start s).2.written = s.written ++
      if level.admits (if problems = [] then Log.Level.info else .warning).severity &&
          !s.correlation.current.isTooLong then
        [(Json.object (base.bootFields problems time s.correlation.current)).render]
      else [] := by
  intro problems level
  have hstart := hloaded.start_eq hnow htime
  have hresult : (start s).1 = if problems ≠ [] ∧ base.bootIsStrict then
      .error (.invalidConfiguration base.deploymentName (problems.map Problem.entry))
      else .ok () := by
    rw [hstart]
  refine ⟨hresult, fun fault hfault => ?_, ?_, ?_⟩
  · rw [hresult] at hfault
    split at hfault
    · cases hfault
      rfl
    · cases hfault
  · rw [root_start, hloaded.root_prepared]
    rfl
  · rw [hstart]

def stagingVariables : Variables where
  environment := some "STAGE"
  serviceName := some ""
  logLevel := some "loud"
  cipherAlgorithm := some " x "

theorem start_determined_staging :
    let s : Service := { supply := constantSupply, environment := stagingVariables }
    s.LoadedFrom stagingVariables stagingVariables ∧
    (start s).1 = .error (.invalidConfiguration "staging"
      ["base: SERVICE_NAME não pode ser vazio", "base: LOG_LEVEL inválido: LOUD",
       "cipher: CIPHER_ALGORITHM não registrado: x. Disponíveis: RSA-OAEP-SHA512"]) ∧
    (start s).2.root = Log.Root.configured .info (.text "") .current ∧
    (start s).2.written.length = 1 := by
  intro s
  have hloaded : s.LoadedFrom stagingVariables stagingVariables := ⟨rfl, rfl⟩
  have hnow : s.clock.moment = .ok ⟨⟨0⟩, ⟨0⟩⟩ := rfl
  have htime : (⟨⟨0⟩, ⟨0⟩⟩ : Log.Moment).text = .ok "1970-01-01 00:00:00,000" := by decide +kernel
  have hproblems : Variables.bootProblems stagingVariables stagingVariables Registry.initial =
      [.emptyServiceName, .invalidLogLevel "LOUD",
       .unregisteredAlgorithm "x" ["RSA-OAEP-SHA512"]] := by decide +kernel
  have hlevel : stagingVariables.bootLevel = .info := by decide +kernel
  have hentries : [Problem.emptyServiceName, .invalidLogLevel "LOUD",
      .unregisteredAlgorithm "x" ["RSA-OAEP-SHA512"]].map Problem.entry =
        ["base: SERVICE_NAME não pode ser vazio", "base: LOG_LEVEL inválido: LOUD",
         "cipher: CIPHER_ALGORITHM não registrado: x. Disponíveis: RSA-OAEP-SHA512"] := by
    decide +kernel
  have hname : stagingVariables.deploymentName = "staging" := by decide +kernel
  have hstrict : stagingVariables.bootIsStrict = true := by decide +kernel
  obtain ⟨hresult, -, hroot, hwritten⟩ := start_determined hloaded hnow htime
  have hregistry : s.registry = Registry.initial := rfl
  rw [hregistry, hproblems] at hresult hwritten
  rw [if_pos ⟨List.cons_ne_nil _ _, hstrict⟩, hname, hentries] at hresult
  rw [hlevel] at hroot hwritten
  refine ⟨hloaded, hresult, hroot, ?_⟩
  rw [hwritten]
  rfl

/-- A deployment that is not recognised goes unnoticed: if all else is well, validation does just
what it does for a development deployment. -/
theorem unrecognised_deployment_unnoticed {s : Service} {name : String} (hcache : s.cache = {})
    (hname : s.environment.environment = some name)
    (hunknown : Text.lower name ∉ ["development", "staging", "stage", "production", "prod"])
    (hvalid : Variables.bootProblems s.environment s.environment s.registry = []) :
    let base := BaseSettings.ofVariables { s.environment with environment := some "development" }
    s.problems = [] ∧ base.isStrict = false ∧
      validateSettings s = report base [] s.withSettings := by
  intro base
  have hloaded : s.LoadedFrom s.environment s.environment := by
    constructor <;> simp [cipherSettingsOf, hcache, SettingsCache.readBase, SettingsCache.readCipher]
  have hproblems : s.problems = [] := hloaded.problems_eq.trans hvalid
  have hdevelopment : Deployment.parse "development" = .development := by decide +kernel
  have hparse : Deployment.parse name = .development := by
    simp only [List.mem_cons, List.not_mem_nil, or_false, not_or] at hunknown
    simp [Deployment.parse, hunknown]
  have hbase : (s.cache.readBase s.environment).1 = base := by
    rw [hloaded.base_eq, BaseSettings.ofVariables, hname, Option.getD_some, hparse]
    simp only [base, BaseSettings.ofVariables, Option.getD_some, hdevelopment]
  refine ⟨hproblems, ?_, ?_⟩
  · simp [base, BaseSettings.isStrict, BaseSettings.ofVariables, hdevelopment]
  · rw [validateSettings_apply, hbase, hproblems, List.map_nil]

theorem unrecognised_deployment_unnoticed_misspelt :
    let s : Service :=
      { supply := constantSupply, environment := { environment := some "prodution" } }
    s.problems = [] ∧ validateSettings s = report {} [] s.withSettings := by
  intro s
  have hname : s.environment.environment = some "prodution" := rfl
  have hdevelopment : BaseSettings.ofVariables
      { s.environment with environment := some "development" } = {} := by decide +kernel
  obtain ⟨hproblems, -, hreport⟩ :=
    unrecognised_deployment_unnoticed rfl hname (by decide +kernel) (by decide +kernel)
  rw [hdevelopment] at hreport
  exact ⟨hproblems, hreport⟩

end Service
end PayloadCipher
