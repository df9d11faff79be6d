import PayloadCipher.Proofs.Context
import PayloadCipher.Proofs.Redaction

/-! Every line shows the right identifier and the right service. Each operation of a program writes
lines for the calls that it makes, under the configuration and the identifier that the context tells,
and in such a line the service is the configured one, and the identifier the call's own or the one
in force. -/

namespace PayloadCipher

namespace Log

theorem Call.get_identifier_record {call : Call} {now : Moment} {r : Record}
    (hr : call.record now = .ok r) : r.get "correlation_id" = call.identifier := by
  have hmake : Fields.get? (call.attributes now) "correlation_id" = none := rfl
  rw [Record.get, Call.get?_record hr, hmake, Option.or_none, Call.identifier]

namespace Line

theorem get?_fields_of_required {r : Record} {fs : Fields Json} (h : fields r = .ok fs)
    (hmsg : ∀ table, r.get "msg" ≠ .object table) {name : String}
    (hname : name ∈ ["correlation_id", "service"]) : Fields.get? fs name = some (r.get name) := by
  obtain ⟨text, entries, time, complete, hcontents, -, hreport, rfl⟩ := fields_eq_ok_iff.1 h
  have hskips : ∀ name ∈ ["correlation_id", "service"], skips name = true := by decide
  have hextras : Fields.get? (extras r).reverse name = none := by
    rw [Fields.get?_eq_none_iff, Fields.mem_names_reverse]
    intro hmem
    obtain ⟨f, hf, rfl⟩ := List.mem_map.1 hmem
    have hshown := (List.mem_filter.1 hf).2
    rw [hskips f.1 hname] at hshown
    cases hshown
  have hhead (q : Record) : ∀ name ∈ ["correlation_id", "service"],
      Fields.get? (head q) name = some (q.get name) := by
    intro name hname
    rcases List.mem_pair.1 hname with rfl | rfl <;> rfl
  have hset : ∀ name ∈ ["correlation_id", "service"], "asctime" ≠ name ∧ "message" ≠ name := by
    decide
  rw [assemble, Fields.get?_merge, hextras, Option.none_or, Fields.get?_merge,
    Option.or_eq_some_iff]
  -- no entry has the name, since all entries are traces and reports
  refine .inr ⟨?_, ?_⟩
  · rw [Fields.get?_eq_none_iff, Fields.mem_names_reverse]
    intro hmem
    obtain ⟨g, hg, rfl⟩ := List.mem_map.1 hmem
    obtain ⟨⟨n, v⟩, hn, rfl⟩ := List.mem_map.1 hg
    rcases mem_of_mem_traces hreport hn with hn | hn
    · have hother : ∀ n ∈ ["exc_info", "stack_info"],
          shownName n ∉ ["correlation_id", "service"] := by decide
      exact hother n hn hname
    · exact hmsg entries (mem_contents hcontents hn)
  · rw [hhead _ name hname, Record.get, Record.get?_set, if_neg (hset name hname).1,
      Record.get?_set, if_neg (hset name hname).2, Record.get]

theorem get?_fields_complete {call : Call} {now : Moment} {r : Record}
    (hr : call.record now = .ok r) (hmessage : ∀ table, call.message ≠ .object table)
    {service : Json} {source : CorrelationSource} {current : Json} {fs : Fields Json}
    (h : fields (Filter.complete service source current r) = .ok fs) :
    Fields.get? fs "service" = some service ∧ Fields.get? fs "correlation_id" =
      some (if call.identifier.isTruthy then call.identifier else source.identifier current) := by
  have hmsg (table : Fields Json) :
      (Filter.complete service source current r).get "msg" ≠ .object table := by
    rw [Filter.get_msg_complete, Call.get_msg_record hr]
    exact hmessage table
  have hsafe : "service" ∉ sensitiveNames ∧ "correlation_id" ∉ sensitiveNames := by decide
  constructor
  · rw [get?_fields_of_required h hmsg (by decide), Filter.complete,
      Filter.get_redactNames hsafe.1, Record.get, Filter.get?_service_correlate, Option.getD_some]
  · rw [get?_fields_of_required h hmsg (by decide), Filter.complete,
      Filter.get_redactNames hsafe.2, Record.get, Filter.get?_correlation_id_correlate,
      Option.getD_some, Filter.chosenIdentifier, Call.get_identifier_record hr]

end Line

end Log

def Operation.ownIdentifier : Operation → Json
  | .log _ _ _ _ extras _ _ => (Fields.get? extras.reverse "correlation_id").getD .null
  | _ => .null

def Operation.logsTable : Operation → Bool
  | .log _ _ (.object _) _ _ _ _ => true
  | _ => false

namespace Operation

variable {op : Operation} {call : Log.Call}

theorem Calls.identifier_eq (h : op.Calls call) : call.identifier = op.ownIdentifier := by
  cases op with
  | log logger severity message arguments extras report stack =>
    rw [Log.Call.identifier, h.2, ownIdentifier]
  | create | validate | start => exact h.1
  | _ => cases h

theorem Calls.message_ne_object (h : op.Calls call) (htable : op.logsTable = false)
    (table : Fields Json) : call.message ≠ .object table := by
  cases op with
  | log logger severity message arguments extras report stack =>
    rw [h.1]
    rintro rfl
    cases htable
  | create | validate | start =>
    obtain ⟨-, text, htext⟩ := h
    rw [htext]
    exact Json.noConfusion
  | _ => cases h

end Operation

namespace Context.Tracks
open Service

variable {c : Context} {s : Service}

/-- What an operation writes is for its calls, under the configuration and the identifier in which
it ends. -/
theorem logged (h : c.Tracks s) {op : Operation} (hadmits : c.admits op = true) :
    ∃ u : Service, u.written = s.written ∧ u.Logged op.Calls (perform op s).2 := by
  cases op with
  | log logger severity message arguments extras report stack =>
    exact ⟨s, rfl, perform_log_logs _ _ _ _ _ _ _ s⟩
  | create key algorithm name => exact ⟨s, rfl, perform_create_logs key algorithm name s⟩
  | validate =>
    rw [snd_perform_validate]
    exact ⟨s, rfl, validateSettings_logs s⟩
  | start =>
    rw [snd_perform_start, start_apply]
    exact ⟨s.prepared, rfl, report_logs _ _ s.prepared⟩
  | configure level service source =>
    refine ⟨_, ?_, .refl⟩
    rw [perform_configure]
    split
    · rfl
    · split <;> rfl
  | bind arguments name =>
    refine ⟨_, ?_, .refl⟩
    cases hargument : Correlation.argument "bind_correlation_id" arguments with
    | error fault => rw [perform, hargument, Action.ofExcept_error_bind]
    | ok identifier =>
      obtain ⟨given, rfl, -⟩ := exists_toList_of_argument hargument
      rw [perform_bind]
      rfl
  | reset name =>
    refine ⟨_, ?_, .refl⟩
    rw [perform_reset (h.token_latest (beq_iff_eq.1 hadmits))]
  | _ => cases hadmits

end Context.Tracks

theorem Step.attributed {e : Step} (h : e.context.Tracks e.before)
    (hadmits : e.context.admits e.op = true) {service : Json}
    (hservice : e.after.service = some service) (htable : e.op.logsTable = false) :
    ∀ line ∈ e.lines, ∃ fields : Fields Json, line = (Json.object fields).render ∧
      (Fields.names fields).Nodup ∧ Fields.get? fields "service" = some service ∧
      Fields.get? fields "correlation_id" =
        some (if e.op.ownIdentifier.isTruthy then e.op.ownIdentifier
          else e.after.frame.inForce) := by
  intro line hline
  have hafter : e.after.Tracks (Service.perform e.op e.before).2 := h.after hadmits
  obtain ⟨level, hroot⟩ := hafter.service service hservice
  obtain ⟨u, hwritten, hlogged⟩ := h.logged hadmits
  obtain ⟨lines, hlines, horigin⟩ := hlogged.lines
  rw [Step.lines, hlines, hwritten, List.drop_left] at hline
  obtain ⟨call, emitted, hcall, hlog, hemitted⟩ := horigin line hline
  rw [← hlogged.root, hroot, ← hlogged.correlation, hafter.current] at hlog
  obtain ⟨now, r, fields, -, hr, hfields, hrender⟩ := Log.Root.mem_log_configured hlog hemitted
  obtain ⟨hshown, hidentifier⟩ :=
    Log.Line.get?_fields_complete hr (hcall.message_ne_object htable) hfields
  rw [hcall.identifier_eq] at hidentifier
  exact ⟨fields, hrender, Log.Line.nodup_names_fields hfields, hshown, hidentifier⟩

namespace Service

/-- In every program of scopes, binds, calls, creations and validations, the lines of a message that
is no table show the service that logging was last set up for, and the identifier of the call itself
or else the one in force: the latest bind that is active, the innermost scope, or the empty text. All
that the program writes is accounted for. -/
theorem lines_attributed (p : Program) {s : Service} (hs : s.correlation.current = .text "")
    (hadmits : ∀ e ∈ p.steps s, e.context.admits e.op = true) :
    (p.run s).2.written = s.written ++ (p.steps s).flatMap Step.lines ∧
    ∀ e ∈ p.steps s, ∀ service, e.after.service = some service → e.op.logsTable = false →
      ∀ line ∈ e.lines, ∃ fields : Fields Json, line = (Json.object fields).render ∧
        (Fields.names fields).Nodup ∧ Fields.get? fields "service" = some service ∧
        Fields.get? fields "correlation_id" =
          some (if e.op.ownIdentifier.isTruthy then e.op.ownIdentifier
            else e.after.frame.inForce) := by
  have hstart : ({} : Context).Tracks s :=
    { current := hs
      held := by simp [Frame.Held]
      distinct := List.nodup_nil
      service := fun _ hnone => by cases hnone }
  obtain ⟨htracks, -⟩ := p.tracks_trace hstart hadmits
  refine ⟨p.written_run s {}, fun e he service hservice htable => ?_⟩
  exact Step.attributed (htracks e he) (hadmits e he) hservice htable

def borrowedScopes : Program :=
  let call (extras : Fields Json) : Program :=
    .perform (.log (.text "app") (.int 20) (.text "event") [] extras none none)
  .andThen
    (.attempt
      (.scope (.text "outer") fun _ =>
        .andThen (.perform .start)
          (.andThen (.perform (.bind [.text "bound"] "t"))
            (.andThen (call [("service", .text "forged"), ("correlation_id", .octets [])])
              (.scope .null fun _ =>
                .andThen (call [("correlation_id", .array [.int 0])])
                  (.andThen (.perform (.create (.value .absent) (.text "T") "c"))
                    (.raise .missingPrivateKey))))))
      fun _ => .perform .validate)
    (call [("correlation_id", .bool false)])

theorem lines_attributed_borrowed :
    let product : TestCipher :=
      { label := .null, keyType := "", algorithm := .ok (.text "T"), canDecrypt := none,
        signature := none }
    let s : Service :=
      { supply := numberedSupply, environment := { debug := some "yes" },
        registry := ⟨Registry.initial.entries ++ [("T", Factory.test product)]⟩ }
    (borrowedScopes.steps s).map (fun e => (e.after.frame.inForce, e.lines.length)) =
      [(.text "outer", 1), (.text "bound", 0), (.text "bound", 1), (.text "id-0", 1),
       (.text "id-0", 1), (.text "", 1), (.text "", 1)] ∧
    (∀ e ∈ borrowedScopes.steps s, e.context.admits e.op = true) ∧
    ∀ e ∈ borrowedScopes.steps s, ∀ line ∈ e.lines, ∃ fields : Fields Json,
      line = (Json.object fields).render ∧
      Fields.get? fields "service" = some (.text "envelope") := by
  intro product s
  have hadmits : ∀ e ∈ borrowedScopes.steps s, e.context.admits e.op = true := by decide +kernel
  have hservice : ∀ e ∈ borrowedScopes.steps s,
      e.after.service = some (.text "envelope") ∧ e.op.logsTable = false := by decide +kernel
  have hforce : (borrowedScopes.steps s).map (fun e => (e.after.frame.inForce, e.lines.length)) =
      [(.text "outer", 1), (.text "bound", 0), (.text "bound", 1), (.text "id-0", 1),
       (.text "id-0", 1), (.text "", 1), (.text "", 1)] := by decide +kernel
  refine ⟨hforce, hadmits, fun e he line hline => ?_⟩
  obtain ⟨-, hlines⟩ := lines_attributed borrowedScopes (s := s) rfl hadmits
  obtain ⟨hconfigured, htable⟩ := hservice e he
  obtain ⟨fields, hrender, -, hshown, -⟩ := hlines e he _ hconfigured htable line hline
  exact ⟨fields, hrender, hshown⟩

end Service
end PayloadCipher
