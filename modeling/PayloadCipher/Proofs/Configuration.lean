import Mathlib.Algebra.Group.Nat.Defs
import Mathlib.Data.List.Induction
import PayloadCipher.Proofs.Shown
import PayloadCipher.Proofs.Request

/-! One record, one line. Logging has no handler at first and one handler from its first
configuration on, however often it is configured and whatever fails in between; the latest
configuration that succeeded tells all about it. So a call that the level admits leaves exactly one
line behind if its text can be made, and a call below the level leaves nothing. -/

namespace PayloadCipher

theorem Decimal.isTooLong_iff {i : Int} : isTooLong i = true ↔ 10 ^ 4300 ≤ i.natAbs := by
  have hsplit : 100 * 43 = 4300 := rfl
  have hfirst : firstTooLong = 10 ^ 4300 := by
    rw [← hsplit, Nat.pow_mul]
    rfl
  rw [isTooLong, decide_eq_true_iff, hfirst]

theorem Decimal.isTooLong_eq_false_iff {i : Int} :
    isTooLong i = false ↔ i.natAbs < 10 ^ 4300 := by
  rw [Bool.eq_false_iff, ne_eq, isTooLong_iff, Nat.not_le]

namespace Log

namespace Call

def given (call : Call) : Arguments :=
  if Record.isTable call.arguments then .whole (call.arguments.headD .null)
  else .each call.arguments

def text (call : Call) : Except Mismatch String := messageText call.message call.given

def bareText (call : Call) : Except Mismatch String :=
  call.text.map fun s => [call.report, call.stack].foldl
    (fun s more => Record.addLines s ((more.map Json.text).getD .null)) s

def addMissing (entries : Fields Json) (trace : String × String) : Fields Json :=
  if ((Fields.get? entries trace.1).getD .null).isTruthy then entries
  else Fields.set trace.1 (.text trace.2) entries

/-- The arguments fit the message, and no extra stands in the way of its text. A table needs no text
where there is a handler, which writes its entries. -/
def Fits (call : Call) (root : Root) : Prop :=
  (root.handlers ≠ [] ∧ ∃ table, call.message = .object table) ∨
    ("getMessage" ∉ Fields.names call.extras ∧ ∃ text, call.text = .ok text)

variable {call : Call} {now : Moment} {r : Record}

theorem exists_record (h : ∀ name ∈ Fields.names call.extras, name ∉ reservedNames) (now : Moment) :
    ∃ r, call.record now = .ok r := ⟨_, Record.addExtras_eq_ok_iff.2 ⟨h, rfl⟩⟩

theorem message_record (h : call.record now = .ok r)
    (hmethod : "getMessage" ∉ Fields.names call.extras) : r.message = call.text := by
  have hnone : r.get? "getMessage" = none := get?_record_of_not_mem h hmethod
  have hargs : r.get "args" = if Record.isTable call.arguments then call.arguments.headD .null
      else .array call.arguments := get_record_of_reserved h (by decide)
  have hlists : r.listsArguments = !Record.isTable call.arguments := by
    obtain ⟨-, rfl⟩ := Record.addExtras_eq_ok_iff.1 h
    exact Record.listsArguments_make ..
  have hgiven : r.arguments = call.given := by
    rw [Record.arguments, hlists, hargs, given]
    cases Record.isTable call.arguments <;> rfl
  rw [Record.message, hnone]
  dsimp only
  rw [get_msg_record h, hgiven, text]

theorem bareText_record (h : call.record now = .ok r)
    (hmethod : "getMessage" ∉ Fields.names call.extras) : r.bareText = call.bareText := by
  have hreport : r.get "exc_info" = (call.report.map Json.text).getD .null :=
    get_record_of_reserved h (by decide)
  have hstack : r.get "stack_info" = (call.stack.map Json.text).getD .null :=
    get_record_of_reserved h (by decide)
  rw [Record.bareText, message_record h hmethod, bareText]
  simp only [List.foldl_cons, List.foldl_nil, hreport, hstack]

theorem get_complete_of_reserved (h : call.record now = .ok r) (service : Json)
    (source : CorrelationSource) (current : Json) {name : String} (hname : name ∈ reservedNames) :
    (Filter.complete service source current r).get name =
      (Fields.get? (call.attributes now) name).getD .null := by
  have hother : ∀ name ∈ reservedNames,
      name ∉ sensitiveNames ∧ name ≠ "correlation_id" ∧ name ≠ "service" := by decide
  obtain ⟨hsafe, hid, hservice⟩ := hother name hname
  rw [Filter.complete, Filter.get_redactNames hsafe, Record.get,
    Filter.get?_correlate service source current r hid hservice, get?_record_of_reserved h hname]

theorem addReport_complete (h : call.record now = .ok r) (service : Json)
    (source : CorrelationSource) (current : Json) (entries : Fields Json) :
    Line.addReport (Filter.complete service source current r) entries =
      .ok ((call.report.map fun text => ("exc_info", text)).toList.foldl addMissing entries) := by
  have hinfo : (Filter.complete service source current r).get "exc_info" =
      (call.report.map Json.text).getD .null := by
    rw [get_complete_of_reserved h service source current (by decide)]
    rfl
  have hholds : (Filter.complete service source current r).holdsReport = call.report.isSome := by
    obtain ⟨-, rfl⟩ := Record.addExtras_eq_ok_iff.1 h
    simp [Filter.complete, Filter.redactNames, Filter.correlate, Record.set, sensitiveNames,
      Record.holdsReport_make]
  rw [Line.addReport, Line.reportText, hinfo, hholds]
  cases call.report with
  | none => simp [Json.isTruthy]
  | some text =>
    cases hhas : ((Fields.get? entries "exc_info").getD .null).isTruthy <;>
      simp [hhas, addMissing, Except.map, Json.display]

theorem moment_record (h : call.record now = .ok r) : r.moment = now := by
  obtain ⟨-, rfl⟩ := Record.addExtras_eq_ok_iff.1 h
  rfl

end Call

namespace Line

theorem exists_fields {r : Record}
    (hcontents : (∃ table, r.get "msg" = .object table) ∨ ∃ text, r.message = .ok text)
    (htime : ∃ time, r.moment.text = .ok time)
    (hreport : ∀ entries, ∃ complete, addReport r entries = .ok complete) :
    ∃ fs, fields r = .ok fs := by
  obtain ⟨time, htime⟩ := htime
  have hcontents : ∃ text entries, contents r = .ok (text, entries) := by
    rw [contents]
    split
    case h_1 => exact ⟨_, _, rfl⟩
    case h_2 hother =>
      obtain ⟨text, htext⟩ := hcontents.resolve_left (not_exists.2 hother)
      rw [htext]
      exact ⟨_, _, rfl⟩
  obtain ⟨text, entries, hcontents⟩ := hcontents
  obtain ⟨complete, hcomplete⟩ := hreport entries
  exact ⟨_, fields_eq_ok_iff.2
    ⟨text, entries, time, complete, hcontents, htime, hcomplete, rfl⟩⟩

end Line

namespace Root

variable {call : Call} {clock : Instant} {now : Moment}

theorem log_of_not_admits {root : Root} (h : root.level.admits call.severity = false)
    (current : Json) (clock : Instant) : root.log current clock call = .ok [] := by
  rw [log, isEnabled, h, if_neg Bool.false_ne_true]

theorem log_of_isTooLong {root : Root} (hadmits : root.level.admits call.severity = true)
    (hlong : Decimal.isTooLong call.severity = true) (current : Json) (clock : Instant) :
    root.log current clock call = .error .integerTooLong := by
  rw [log, isEnabled, if_pos hadmits, if_pos hlong]

section Admitted

variable (hnow : clock.moment = .ok now)
  (hextras : ∀ name ∈ Fields.names call.extras, name ∉ reservedNames)
  (hseverity : Decimal.isTooLong call.severity = false)
include hnow hextras hseverity

theorem log_initial (hadmits : initial.level.admits call.severity = true)
    (hmethod : "getMessage" ∉ Fields.names call.extras) {text : String}
    (htext : call.bareText = .ok text) (current : Json) :
    initial.log current clock call = .ok [text] := by
  obtain ⟨r, hr⟩ := Call.exists_record hextras now
  have hbare := (Call.bareText_record hr hmethod).trans htext
  rw [log, isEnabled, if_pos hadmits, hnow, hseverity, if_neg Bool.false_ne_true]
  dsimp only
  rw [hr, Except.bind, emit]
  simp only [initial] at hadmits ⊢
  rw [if_pos hadmits, hbare]
  rfl

theorem log_configured_of_fits {level : Level} (hadmits : level.admits call.severity = true)
    {service : Json} {source : CorrelationSource}
    (hfits : call.Fits (configured level service source)) (htime : ∃ time, now.text = .ok time)
    (current : Json) :
    ∃ r fs, call.record now = .ok r ∧
      Line.fields (Filter.complete service source current r) = .ok fs ∧
      (configured level service source).log current clock call =
        .ok (if (Json.object fs).isTooLong then [] else [(Json.object fs).render]) := by
  obtain ⟨r, hr⟩ := Call.exists_record hextras now
  have hcontents : (∃ table, (Filter.complete service source current r).get "msg" = .object table) ∨
      ∃ text, (Filter.complete service source current r).message = .ok text := by
    rw [Filter.get_msg_complete, Filter.message_complete]
    rcases hfits with ⟨-, table, htable⟩ | ⟨hmethod, text, htext⟩
    · rw [Call.get_msg_record hr, htable]
      exact .inl ⟨table, rfl⟩
    · rw [Call.message_record hr hmethod]
      exact .inr ⟨text, htext⟩
  have hmoment : ∃ time, (Filter.complete service source current r).moment.text = .ok time := by
    have hkept : (Filter.complete service source current r).moment = r.moment := rfl
    rwa [hkept, Call.moment_record hr]
  obtain ⟨fs, hfields⟩ := Line.exists_fields hcontents hmoment fun entries =>
    ⟨_, Call.addReport_complete hr service source current entries⟩
  refine ⟨r, fs, hr, hfields, ?_⟩
  rw [log_configured, if_pos hadmits, hnow, hseverity, if_neg Bool.false_ne_true]
  dsimp only
  rw [hr, Except.map, Line.render, hfields, Except.bind, Line.write]
  cases (Json.object fs).isTooLong <;> rfl

end Admitted
end Root
end Log

/-- What bears on logging: set-ups, of which some fail, and what is logged by callers and by
creations. -/
inductive LoggingRequest where
  | configure (level : String) (service : Json) (source : Log.CorrelationSource)
  | start
  | create (key : Value) (algorithm : Json) (name : String)
  | log (logger severity message : Json) (arguments : List Json) (extras : Fields Json)
    (report stack : Option String)

structure LogParameters where
  level : Log.Level
  service : Json
  source : Log.CorrelationSource

namespace LoggingRequest
open Service

def operation : LoggingRequest → Operation
  | configure level service source => .configure (.text level) service source
  | start => .start
  | create key algorithm name => .create (.value key) algorithm name
  | log logger severity message arguments extras report stack =>
    .log logger severity message arguments extras report stack

def reach (supply : Supply) (vars : Variables) (requests : List LoggingRequest) : Service :=
  after supply vars (requests.map operation)

def parameters? (vars : Variables) : LoggingRequest → Option LogParameters
  | configure level service source =>
    (Log.Level.ofName? (Text.upper level)).map fun l => ⟨l, service, source⟩
  | start => some ⟨vars.bootLevel, .text (vars.serviceName.getD "envelope"), .current⟩
  | create .. | log .. => none

def latest? (vars : Variables) (requests : List LoggingRequest) : Option LogParameters :=
  requests.reverse.findSome? (parameters? vars)

end LoggingRequest

def Log.Root.ofParameters : Option LogParameters → Log.Root
  | none => ⟨.warning, []⟩
  | some p =>
    ⟨p.level, [⟨p.level, [.correlation p.service p.source, .redact sensitiveNames]⟩]⟩

/-- What stays as it was at the beginning, and what was configured. -/
structure Service.LoggingState (vars : Variables) (latest : Option LogParameters) (s : Service) :
    Prop where
  environment : s.environment = vars
  base : (s.cache.readBase s.environment).1 = .ofVariables vars
  clock : s.clock = {}
  root : s.root = .ofParameters latest

namespace LoggingRequest
open Service

theorem latest?_append_singleton (vars : Variables) (requests : List LoggingRequest)
    (r : LoggingRequest) : latest? vars (requests ++ [r]) =
      (r.parameters? vars).or (latest? vars requests) := by
  rw [latest?, List.reverse_append, List.reverse_singleton, List.singleton_append,
    List.findSome?_cons, latest?]
  cases r.parameters? vars <;> rfl

theorem perform_configure_text (level : String) (service : Json) (source : Log.CorrelationSource)
    (s : Service) : perform (.configure (.text level) service source) s =
      match Log.Level.ofName? (Text.upper level) with
      | none => (.error (.invalidLevel level), s)
      | some l =>
        (.ok (.root (Log.Root.configured l service source)),
          { s with root := Log.Root.configured l service source }) :=
  perform_configure (.text level) service source s

theorem snd_perform_log (logger severity message : Json) (arguments : List Json)
    (extras : Fields Json) (report stack : Option String) (s : Service) :
    ∃ lines, (perform (.log logger severity message arguments extras report stack) s).2 =
      { s with written := s.written ++ lines } := by
  have still : ∃ lines, s = { s with written := s.written ++ lines } := ⟨[], by simp⟩
  rw [perform]
  cases Log.Root.loggerName logger with
  | error fault =>
    rw [Action.ofExcept_error_bind]
    exact still
  | ok logger =>
    rw [Action.ofExcept_ok_bind]
    cases Log.Root.severity? severity with
    | none => exact still
    | some severity =>
      dsimp only
      rw [Action.snd_bind_pure]
      exact log_snd _ s

/-- One request leaves the time and the settings, and configures logging if it has parameters. -/
theorem loggingState_perform {vars : Variables} {latest : Option LogParameters} {s : Service}
    (h : s.LoggingState vars latest) (r : LoggingRequest) :
    (perform r.operation s).2.LoggingState vars ((r.parameters? vars).or latest) := by
  cases r with
  | configure level service source =>
    rw [operation, perform_configure_text, parameters?]
    cases Log.Level.ofName? (Text.upper level) with
    | none => exact h
    | some l => exact ⟨h.environment, h.base, h.clock, rfl⟩
  | start =>
    obtain ⟨lines, hstart⟩ := snd_start s
    rw [operation, snd_perform_start, hstart, prepared, h.base, BaseSettings.startLevel_ofVariables]
    exact ⟨h.environment, h.base, h.clock, rfl⟩
  | create key algorithm name =>
    obtain ⟨named, count, hperform⟩ := snd_perform_create s key algorithm name
    obtain ⟨lines, calls, hcreate⟩ := create_snd key algorithm s
    rw [operation, hperform, hcreate]
    refine ⟨h.environment, ?_, h.clock, h.root⟩
    split <;> exact h.base
  | log logger severity message arguments extras report stack =>
    obtain ⟨lines, hlog⟩ := snd_perform_log logger severity message arguments extras report stack s
    rw [operation, hlog]
    exact ⟨h.environment, h.base, h.clock, h.root⟩

theorem loggingState_reach (supply : Supply) (vars : Variables) (requests : List LoggingRequest) :
    (reach supply vars requests).LoggingState vars (latest? vars requests) := by
  induction requests using List.reverseRecOn with
  | nil => exact ⟨rfl, rfl, rfl, rfl⟩
  | append_singleton requests r ih =>
    have hreach : reach supply vars (requests ++ [r]) =
        (perform r.operation (reach supply vars requests)).2 := by
      rw [reach, after, List.map_append, performAll_append, List.map_singleton, performAll_cons,
        performAll]
      rfl
    rw [hreach, latest?_append_singleton]
    exact loggingState_perform ih r

end LoggingRequest

namespace Service
open LoggingRequest

theorem configures_iff (level : String) (service : Json) (source : Log.CorrelationSource)
    (s : Service) :
    ((∃ reply, (perform (.configure (.text level) service source) s).1 = .ok reply) ↔
      Text.upper level ∈ Log.Level.all.map Log.Level.name) ∧
    ∀ fault, (perform (.configure (.text level) service source) s).1 = .error fault →
      (perform (.configure (.text level) service source) s).2 = s := by
  rw [perform_configure_text]
  cases hlevel : Log.Level.ofName? (Text.upper level) with
  | none =>
    rw [Log.Level.ofName?_eq_none_iff] at hlevel
    refine ⟨iff_of_false ?_ hlevel, fun _ _ => rfl⟩
    rintro ⟨reply, hreply⟩
    cases hreply
  | some l =>
    rw [Log.Level.ofName?_eq_some_iff.1 hlevel]
    have hmem : l.name ∈ Log.Level.all.map Log.Level.name := by cases l <;> decide
    refine ⟨iff_of_true ⟨_, rfl⟩ hmem, fun fault hfault => ?_⟩
    cases hfault

/-- After any set-ups, creations and calls of a new service, what was configured last tells all about
the root, and a configuration that fails leaves it alone. So a call below the level leaves nothing
behind and never fails, and one that the level admits leaves exactly one line behind, as JSON, or as
bare text while logging was not configured. Its extras must have no reserved name, and its text must
be there to be made. A line is left out if it would show an integer that is too long, which it does
not unless one was given, and a severity that is too long is refused. -/
theorem one_record_one_line (supply : Supply) (vars : Variables) (requests : List LoggingRequest) :
    let s := LoggingRequest.reach supply vars requests
    (∀ level service source,
      let result := perform (.configure (.text level) service source) s
      ((∃ reply, result.1 = .ok reply) ↔ Text.upper level ∈
        ["CRITICAL", "DEBUG", "ERROR", "INFO", "WARNING"]) ∧
      ∀ fault, result.1 = .error fault → result.2 = s) ∧
    s.root = .ofParameters (latest? vars requests) ∧
    (∀ call : Log.Call, s.root.level.admits call.severity = false → log call s = (.ok (), s)) ∧
    (∀ call : Log.Call, s.root.level.admits call.severity = true →
      10 ^ 4300 ≤ call.severity.natAbs → log call s = (.error .integerTooLong, s)) ∧
    ∀ call : Log.Call, s.root.level.admits call.severity = true →
      call.severity.natAbs < 10 ^ 4300 →
      (∀ name ∈ Fields.names call.extras, name ∉ Log.reservedNames) → call.Fits s.root →
      ∃ lines, log call s = (.ok (), { s with written := s.written ++ lines }) ∧
        match latest? vars requests with
        | none => ∃ text, call.bareText = .ok text ∧ lines = [text]
        | some p => ∃ now r fields, s.clock.moment = .ok now ∧ call.record now = .ok r ∧
          Log.Line.fields (Log.Filter.complete p.service p.source s.correlation.current r) =
            .ok fields ∧
          lines = (if (Json.object fields).isTooLong then [] else [(Json.object fields).render]) ∧
          (call.message.isTooLong = false → (Json.object call.extras).isTooLong = false →
            p.service.isTooLong = false →
            (p.source.identifier s.correlation.current).isTooLong = false →
            (Json.object fields).isTooLong = false) := by
  intro s
  have hstate : s.LoggingState vars (latest? vars requests) :=
    loggingState_reach supply vars requests
  have hnow : s.clock.moment = .ok ⟨⟨0⟩, ⟨0⟩⟩ := by rw [hstate.clock]; rfl
  have htime : (⟨⟨0⟩, ⟨0⟩⟩ : Log.Moment).text = .ok "1970-01-01 00:00:00,000" := by decide +kernel
  have hlog {call : Log.Call} {lines : List String}
      (h : s.root.log s.correlation.current s.clock call = .ok lines) :
      log call s = (.ok (), { s with written := s.written ++ lines }) := by
    rw [log, h]
  refine ⟨fun level service source => configures_iff level service source s, hstate.root,
    fun call hadmits => ?_, fun call hadmits hlong => ?_,
    fun call hadmits hshort hextras hfits => ?_⟩
  · rw [hlog (Log.Root.log_of_not_admits hadmits _ _), List.append_nil]
  · rw [log, Log.Root.log_of_isTooLong hadmits (Decimal.isTooLong_iff.2 hlong)]
  · have hseverity := Decimal.isTooLong_eq_false_iff.2 hshort
    cases hlatest : latest? vars requests with
    | none =>
      have hroot : s.root = Log.Root.initial := by rw [hstate.root, hlatest]; rfl
      rw [hroot] at hadmits hfits
      obtain ⟨hmethod, text, htext⟩ := hfits.resolve_left fun h => h.1 rfl
      obtain ⟨bare, hbare⟩ : ∃ bare, call.bareText = .ok bare := by
        rw [Log.Call.bareText, htext]
        exact ⟨_, rfl⟩
      refine ⟨_, hlog ?_, _, hbare, rfl⟩
      rw [hroot, Log.Root.log_initial hnow hextras hseverity hadmits hmethod hbare]
    | some p =>
      have hroot : s.root = Log.Root.configured p.level p.service p.source := by
        rw [hstate.root, hlatest]
        rfl
      rw [hroot] at hadmits hfits
      obtain ⟨r, fields, hr, hfields, hline⟩ := Log.Root.log_configured_of_fits hnow hextras
        hseverity hadmits hfits ⟨_, htime⟩ s.correlation.current
      refine ⟨_, hlog (hroot ▸ hline), _, r, fields, hnow, hr, hfields, rfl, ?_⟩
      exact fun hmessage hgiven hservice hidentifier =>
        Log.Line.isTooLong_fields hr hfields hservice hidentifier hmessage hgiven

theorem one_record_one_line_debug :
    let requests : List LoggingRequest :=
      [.start, .configure "deBug" (.text "tester") (.constant (.text "fixed")),
       .configure "loud" (.text "other") .nowhere]
    let s := LoggingRequest.reach constantSupply stagingVariables requests
    let call : Log.Call :=
      { logger := "app", severity := 10, message := .text "%d of %s",
        arguments := [.int 1, .null], extras := [("service", .text "forged")] }
    call.Fits s.root ∧ s.root.handlers.length = 1 ∧
      ∃ line, log call s = (.ok (), { s with written := s.written ++ [line] }) := by
  intro requests s call
  have hs : s = LoggingRequest.reach constantSupply stagingVariables requests := rfl
  obtain ⟨-, hroot, -, -, hone⟩ := one_record_one_line constantSupply stagingVariables requests
  -- from here on the state is known by what the theorem says of it
  clear_value s
  rw [← hs] at hroot hone
  have hlatest : latest? stagingVariables requests =
      some ⟨.debug, .text "tester", .constant (.text "fixed")⟩ := by
    have hlevels : Log.Level.ofName? (Text.upper "deBug") = some .debug ∧
        Log.Level.ofName? (Text.upper "loud") = none := by decide +kernel
    simp [latest?, requests, parameters?, hlevels]
  rw [hlatest] at hroot
  have hfits : call.Fits s.root := .inr ⟨by decide, "1 of None", by decide +kernel⟩
  have hadmits : s.root.level.admits call.severity = true := by
    rw [hroot]
    rfl
  have hshort := Decimal.isTooLong_eq_false_iff.1 (Log.Level.isTooLong_severity .debug)
  obtain ⟨lines, hlines, hwritten⟩ := hone call hadmits hshort (by decide) hfits
  rw [hlatest] at hwritten
  obtain ⟨_, _, fields, -, -, -, hline, hwhole⟩ := hwritten
  have hextras : (Json.object call.extras).isTooLong = false := rfl
  rw [hwhole rfl hextras rfl rfl, if_neg Bool.false_ne_true] at hline
  refine ⟨hfits, ?_, (Json.object fields).render, ?_⟩
  · rw [hroot]
    rfl
  · rw [hlines, hline]

/-- An extra that takes the place of what makes the text of a record suppresses its line, and so does
an integer that is too long. -/
theorem admitted_calls_without_line :
    let s := LoggingRequest.reach constantSupply {} [.configure "INFO" (.text "envelope") .nowhere]
    let replaced : Log.Call :=
      { logger := "app", severity := 20, message := .text "event",
        extras := [("getMessage", .text "x")] }
    let vast : Log.Call :=
      { logger := "app", severity := 20, message := .text "event",
        extras := [("count", .int Decimal.firstTooLong)] }
    (∀ call ∈ [replaced, vast], s.root.level.admits call.severity = true ∧
      (∀ name ∈ Fields.names call.extras, name ∉ Log.reservedNames) ∧ call.arguments = [] ∧
      (log call s).1 = .ok () ∧ (log call s).2.written = s.written) ∧
    (log { vast with severity := Decimal.firstTooLong } s).1 = .error .integerTooLong := by
  intro s replaced vast
  refine ⟨fun call hcall => ?_, by decide +kernel⟩
  rw [List.mem_pair] at hcall
  cases hcall with
  | inl hreplaced =>
    rw [hreplaced]
    exact ⟨by decide +kernel, by decide, rfl, by decide +kernel, by decide +kernel⟩
  | inr hvast =>
    rw [hvast]
    exact ⟨by decide +kernel, by decide, rfl, by decide +kernel, by decide +kernel⟩

end Service
end PayloadCipher
