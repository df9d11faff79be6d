import PayloadCipher.Json.Reader
import PayloadCipher.Proofs.Boot

/-! Secrets in lines. Once logging is configured, it stays so along every run, and whatever the extras
of a call are, a sensitive name shows the mask in its line. Only the message is written as it is: a
table that brings an entry of such a name along is shown with it, unless an extra stands in its
place. -/

namespace PayloadCipher

namespace Log

/-- Logging was configured: there is one handler, with both filters. -/
def Root.Configured (root : Root) : Prop :=
  ∃ level service source, root = configured level service source

namespace Filter

theorem get_msg_complete (service : Json) (source : CorrelationSource) (current : Json)
    (r : Record) : (complete service source current r).get "msg" = r.get "msg" := by
  have hid : "msg" ≠ "correlation_id" := by decide
  have hservice : "msg" ≠ "service" := by decide
  have hsafe : sensitiveNames.contains "msg" = false := by decide
  rw [Record.get, complete, get?_redactNames, get?_correlate service source current r hid hservice,
    hsafe]
  simp [Record.get]

theorem mem_extras_complete {service : Json} {source : CorrelationSource} {current : Json}
    {r : Record} {name : String} (hname : name ∈ Fields.names r.attributes)
    (hsensitive : name ∈ sensitiveNames) :
    name ∈ Fields.names (Line.extras (complete service source current r)) := by
  have hskips : ∀ name ∈ sensitiveNames, Line.skips name = false := by decide
  have hnames := mem_names_correlate service source current hname
  rw [← names_redactNames sensitiveNames] at hnames
  obtain ⟨f, hf, rfl⟩ := List.mem_map.1 hnames
  refine Fields.mem_names_of_mem (List.mem_filter.2 ⟨hf, ?_⟩)
  rw [hskips f.1 hsensitive, Bool.not_false]

end Filter

theorem Line.eq_of_shownName_eq {n name : String} (hsensitive : name ∈ sensitiveNames)
    (h : shownName n = name) : n = name := by
  have hrenamed : "level" ∉ sensitiveNames ∧ "logger" ∉ sensitiveNames := by decide
  rw [shownName] at h
  split at h
  · exact absurd (h ▸ hsensitive) hrenamed.1
  · split at h
    · exact absurd (h ▸ hsensitive) hrenamed.2
    · exact h

/-- A sensitive name in a line shows the mask, or the entry that a table brought along under a name
that no extra has. -/
theorem Line.redacted_or_entry {call : Call} {now : Moment} {r : Record}
    (hr : call.record now = .ok r) {service : Json} {source : CorrelationSource} {current : Json}
    {fs : Fields Json} (h : fields (Filter.complete service source current r) = .ok fs)
    {name : String} (hsensitive : name ∈ sensitiveNames) {v : Json} (hmem : (name, v) ∈ fs) :
    v = redacted ∨ ∃ entries, call.message = .object entries ∧ (name, v) ∈ entries ∧
      name ∉ Fields.names call.extras := by
  rcases origin_of_mem_fields h hmem with hextra | ⟨hnone, horigin⟩
  · exact .inl (Filter.mem_redactNames (List.mem_filter.1 hextra).1 hsensitive)
  · right
    have hown : ∀ name ∈ sensitiveNames, name ∉ ownNames := by decide
    rcases horigin with hname | ⟨entries, n, hmsg, hentry, hshown⟩
    · exact absurd hname (hown name hsensitive)
    · obtain rfl := Line.eq_of_shownName_eq hsensitive hshown
      rw [Filter.get_msg_complete, Call.get_msg_record hr] at hmsg
      refine ⟨entries, hmsg, hentry, fun hextras => hnone ?_⟩
      exact Filter.mem_extras_complete (Call.mem_names_record hr hextras) hsensitive

theorem Root.Configured.mem_log {root : Root} (hroot : root.Configured) {current : Json}
    {clock : Instant} {call : Call} {lines : List String}
    (h : root.log current clock call = .ok lines) {line : String} (hline : line ∈ lines) :
    ∃ now r service source fs, call.record now = .ok r ∧
      Line.fields (Filter.complete service source current r) = .ok fs ∧
      line = (Json.object fs).render := by
  obtain ⟨level, service, source, rfl⟩ := hroot
  obtain ⟨now, r, fs, -, hr, hfields, hrender⟩ := mem_log_configured h hline
  exact ⟨now, r, service, source, fs, hr, hfields, hrender⟩

end Log

namespace Service

theorem Change.configured {s t : Service} (h : Change s t) (hs : s.root.Configured) :
    t.root.Configured := by
  cases h with
  | configure level service source => exact ⟨level, service, source, rfl⟩
  | _ => exact hs

def SetsUpLogging (op : Operation) : Prop :=
  op = .start ∨ ∃ level service source, op = .configure level service source

theorem configured_start (s : Service) : (perform .start s).2.root.Configured := by
  have hconfigured : (start s).2.root.Configured := ⟨_, _, _, root_start s⟩
  rw [perform]
  cases hstart : start s with
  | mk result t =>
    rw [hstart] at hconfigured
    cases result with
    | ok _ =>
      rw [Action.bind_of_ok hstart]
      exact hconfigured
    | error fault =>
      rw [Action.bind_of_error hstart]
      exact hconfigured

theorem configured_of_configure {s : Service} {level service : Json} {source : Log.CorrelationSource}
    {reply : Reply} (hok : (perform (.configure level service source) s).1 = .ok reply) :
    (perform (.configure level service source) s).2.root.Configured := by
  rw [perform_configure] at hok ⊢
  split at hok
  case h_1 => cases hok
  case h_2 name _ =>
    cases hlevel : Log.Level.parse? name with
    | none =>
      rw [hlevel] at hok
      cases hok
    | some l => exact ⟨l, service, source, rfl⟩

theorem configured_of_setup {s : Service} {setup : Operation} (hsetup : SetsUpLogging setup)
    {reply : Reply} (hok : (perform setup s).1 = .ok reply) :
    (perform setup s).2.root.Configured := by
  rcases hsetup with rfl | ⟨level, service, source, rfl⟩
  · exact configured_start s
  · exact configured_of_configure hok

/-- From a successful set-up on, a sensitive name in the line of a call shows the mask. The one
exception is an entry of a message that is a table, if no extra has its name. -/
theorem sensitive_names_masked {s t : Service} {setup : Operation} (hsetup : SetsUpLogging setup)
    {reply : Reply} (hok : (perform setup s).1 = .ok reply) (hlater : (perform setup s).2.LeadsTo t)
    (call : Log.Call) :
    ∃ lines, (log call t).2 = { t with written := t.written ++ lines } ∧
      ∀ line ∈ lines, ∃ fields : Fields Json, line = (Json.object fields).render ∧
        (Fields.names fields).Nodup ∧
        ∀ name ∈ ["plaintext", "ciphertext", "private_key", "public_key", "key_material"],
          ∀ v, (name, v) ∈ fields →
            v = .text "[REDACTED]" ∨ ∃ entries, call.message = .object entries ∧
              (name, v) ∈ entries ∧ name ∉ Fields.names call.extras := by
  have hroot : t.root.Configured :=
    hlater.keeps (fun _ _ => Change.configured) (configured_of_setup hsetup hok)
  rw [log]
  cases hlog : t.root.log t.correlation.current t.clock call with
  | error fault => exact ⟨[], by simp, fun line hline => absurd hline List.not_mem_nil⟩
  | ok lines =>
    refine ⟨lines, rfl, fun line hline => ?_⟩
    obtain ⟨now, r, service, source, fs, hr, hfields, rfl⟩ := hroot.mem_log hlog hline
    refine ⟨fs, rfl, Log.Line.nodup_names_fields hfields, fun name hsensitive v hmem => ?_⟩
    exact Log.Line.redacted_or_entry hr hfields hsensitive hmem

theorem sensitive_names_masked_extra :
    let s : Service := { supply := constantSupply }
    let setup := Operation.configure (.text "INFO") (.text "envelope") .nowhere
    let t := (perform setup s).2
    let call : Log.Call :=
      { logger := "app", severity := 20, message := .object [("plaintext", .text "first")],
        extras := [("plaintext", .text "second")] }
    SetsUpLogging setup ∧ (perform setup s).1 = .ok (.root t.root) ∧
      ∃ lines, lines ≠ [] ∧ (log call t).2 = { t with written := t.written ++ lines } ∧
        ∀ line ∈ lines, ∃ fields : Fields Json, line = (Json.object fields).render ∧
          ∀ v, ("plaintext", v) ∈ fields → v = .text "[REDACTED]" := by
  intro s setup t call
  have hsetup : SetsUpLogging setup := .inr ⟨_, _, _, rfl⟩
  have hok : (perform setup s).1 = .ok (.root t.root) := rfl
  obtain ⟨lines, hlog, hmasked⟩ := sensitive_names_masked hsetup hok .refl call
  have hwritten : (log call t).2.written ≠ [] := by decide +kernel
  refine ⟨hsetup, hok, lines, ?_, hlog, fun line hline => ?_⟩
  · rw [hlog] at hwritten
    exact fun hnone => hwritten hnone
  · obtain ⟨fields, hrender, -, hvalue⟩ := hmasked line hline
    refine ⟨fields, hrender, fun v hmem => ?_⟩
    rcases hvalue "plaintext" (by decide) v hmem with heq | ⟨_, _, _, hextra⟩
    · exact heq
    · exact absurd (by decide) hextra

/-- An entry of a table is written with what it holds, sensitive or not. -/
theorem table_entry_unmasked :
    let s : Service := { supply := constantSupply }
    let setup := Operation.configure (.text "INFO") (.text "envelope") .nowhere
    let t := (perform setup s).2
    let call : Log.Call :=
      { logger := "app", severity := 20, message := .object [("plaintext", .text "secret")] }
    let line := "\x7b\"asctime\": \"1970-01-01 00:00:00,000\", \"level\": \"INFO\", " ++
      "\"logger\": \"app\", \"message\": \"\", \"correlation_id\": \"\", " ++
      "\"service\": \"envelope\", \"plaintext\": \"secret\"\x7d"
    (perform setup s).1 = .ok (.root t.root) ∧ (log call t).2.written = [line] ∧
      (∃ fields, Json.parse line = some (.object fields) ∧ ("plaintext", .text "secret") ∈ fields) ∧
      "plaintext" ∈ Log.sensitiveNames ∧ Json.text "secret" ≠ .text "[REDACTED]" := by
  intro s setup t call line
  have hwritten : (log call t).2.written = [line] := by decide +kernel
  have hparse : Json.parse line = some (.object
      [("asctime", .text "1970-01-01 00:00:00,000"), ("level", .text "INFO"),
       ("logger", .text "app"), ("message", .text ""), ("correlation_id", .text ""),
       ("service", .text "envelope"), ("plaintext", .text "secret")]) := by
    decide +kernel
  exact ⟨rfl, hwritten, ⟨_, hparse, by simp⟩, by decide, by decide⟩

end Service
end PayloadCipher
