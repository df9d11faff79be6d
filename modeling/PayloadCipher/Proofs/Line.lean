import PayloadCipher.Proofs.Record

/-! Where the fields of a line come from. Logging that is configured writes at most one line for a
call, the names in it are distinct, and each field is an extra, an entry of the message, or one of
the fields that every line has. -/

namespace PayloadCipher.Log

theorem Filter.apply_redact_sensitiveNames (current : Json) (r : Record) :
    apply current r (redact sensitiveNames) = .ok (redactNames sensitiveNames r) := by
  have hfree : obstacle? sensitiveNames r = none := by
    have hnames : ∀ name ∈ sensitiveNames, fixedEntries.contains name = false := by decide
    rw [obstacle?, List.find?_eq_none]
    intro name hname
    rw [hnames name hname, Bool.false_and]
    exact Bool.false_ne_true
  rw [apply, hfree]

theorem Root.emit_configured (level : Level) (service : Json) (source : CorrelationSource)
    (current : Json) (severity : Int) (r : Record) :
    (configured level service source).emit current severity r = .ok
      (if level.admits severity then
        (Line.render (Filter.complete service source current r)).toOption.toList
      else []) := by
  have hfilters : [.correlation service source, .redact sensitiveNames].foldlM
      (Filter.apply current) r = .ok (Filter.complete service source current r) :=
    Filter.apply_redact_sensitiveNames current (Filter.correlate service source current r)
  have hline : Handler.line? ⟨level, [.correlation service source, .redact sensitiveNames]⟩ current
      severity r = .ok (if level.admits severity then
        (Line.render (Filter.complete service source current r)).toOption else none) := by
    rw [Handler.line?, hfilters]
    cases level.admits severity <;> rfl
  simp only [emit, configured]
  rw [List.mapM_cons, hline, List.mapM_nil]
  cases level.admits severity with
  | true => cases (Line.render (Filter.complete service source current r)).toOption <;> rfl
  | false => rfl

/-- Configured logging writes at most one line for a call, the record of the call passed through
both filters. -/
theorem Root.log_configured (level : Level) (service : Json) (source : CorrelationSource)
    (current : Json) (clock : Instant) (call : Call) :
    (configured level service source).log current clock call =
      if level.admits call.severity then
        if Decimal.isTooLong call.severity then .error .integerTooLong
        else
          match clock.moment with
          | .ok now => (call.record now).map fun r =>
              (Line.render (Filter.complete service source current r)).toOption.toList
          | .error reason => .error (.outOfTime reason)
      else .ok [] := by
  simp only [log, emit_configured]
  by_cases hadmits : level.admits call.severity = true
  · simp only [isEnabled, configured, hadmits, if_true]
    cases clock.moment with
    | error reason => rfl
    | ok now =>
      cases hrecord : call.record now <;> simp only [hrecord] <;> rfl
  · simp [isEnabled, configured, hadmits]

theorem Line.render_eq_ok_iff {r : Record} {line : String} :
    render r = .ok line ↔ ∃ fs, fields r = .ok fs ∧ (Json.object fs).isTooLong = false ∧
      line = (Json.object fs).render := by
  rw [render]
  cases fields r with
  | error fault => simp [Except.bind]
  | ok fs =>
    simp only [Except.bind, write, Except.ok.injEq, exists_eq_left']
    cases (Json.object fs).isTooLong <;> simp [eq_comm]

theorem Root.mem_log_configured {level : Level} {service : Json} {source : CorrelationSource}
    {current : Json} {clock : Instant} {call : Call} {lines : List String}
    (h : (configured level service source).log current clock call = .ok lines) {line : String}
    (hline : line ∈ lines) :
    ∃ now r fs, clock.moment = .ok now ∧ call.record now = .ok r ∧
      Line.fields (Filter.complete service source current r) = .ok fs ∧
      line = (Json.object fs).render := by
  rw [log_configured] at h
  split at h
  case isFalse =>
    cases h
    cases hline
  case isTrue =>
    split at h
    · cases h
    · split at h
      case h_2 => cases h
      case h_1 now hnow =>
        cases hr : call.record now with
        | error fault =>
          rw [hr] at h
          cases h
        | ok r =>
          rw [hr] at h
          cases h
          rw [Option.mem_toList] at hline
          cases hrender : Line.render (Filter.complete service source current r) with
          | error fault =>
            rw [hrender] at hline
            cases hline
          | ok text =>
            rw [hrender] at hline
            cases hline
            obtain ⟨fs, hfields, -, rfl⟩ := Line.render_eq_ok_iff.1 hrender
            exact ⟨now, r, fs, hnow, hr, hfields, rfl⟩

namespace Line

theorem fields_eq_ok_iff {r : Record} {fs : Fields Json} :
    fields r = .ok fs ↔ ∃ text entries time complete, contents r = .ok (text, entries) ∧
      r.moment.text = .ok time ∧ addReport r entries = .ok complete ∧
      fs = assemble r text complete time := by
  constructor
  · intro h
    rw [fields] at h
    split at h
    case h_1 text entries time hcontents htime =>
      split at h
      case h_1 complete hreport =>
        cases h
        exact ⟨text, entries, time, complete, hcontents, htime, hreport, rfl⟩
      case h_2 => cases h
    case h_2 => cases h
    case h_3 => cases h
  · rintro ⟨text, entries, time, complete, hcontents, htime, hreport, rfl⟩
    rw [fields, hcontents, htime]
    dsimp only
    rw [hreport]

theorem mem_contents {r : Record} {text : String} {entries : Fields Json}
    (h : contents r = .ok (text, entries)) {f : String × Json} (hf : f ∈ entries) :
    r.get "msg" = .object entries := by
  rw [contents] at h
  split at h
  case h_1 table htable =>
    cases h
    exact htable
  case h_2 =>
    cases hmessage : r.message with
    | ok t =>
      rw [hmessage] at h
      cases h
      cases hf
    | error reason =>
      rw [hmessage] at h
      cases h

theorem eq_or_mem_of_mem_addTrace {r : Record} {source entry : String} {entries : Fields Json}
    {name : String} {v : Json} (h : (name, v) ∈ addTrace r source entry entries) :
    name = entry ∨ (name, v) ∈ entries := by
  rw [addTrace] at h
  split at h
  · exact (Fields.eq_or_mem_of_mem_set h).imp_left (congrArg Prod.fst)
  · exact .inr h

theorem eq_or_mem_of_mem_addReport {r : Record} {entries complete : Fields Json}
    (hreport : addReport r entries = .ok complete) {name : String} {v : Json}
    (h : (name, v) ∈ complete) : name = "exc_info" ∨ (name, v) ∈ entries := by
  rw [addReport] at hreport
  split at hreport
  · cases htext : reportText r with
    | ok text =>
      rw [htext] at hreport
      cases hreport
      exact (Fields.eq_or_mem_of_mem_set h).imp_left (congrArg Prod.fst)
    | error reason =>
      rw [htext] at hreport
      cases hreport
  · cases hreport
    exact .inr h

def ownNames : List String := requiredNames.map shownName ++ ["exc_info", "stack_info"]

theorem nodup_names_head (r : Record) : (Fields.names (head r)).Nodup := by
  have hnames : Fields.names (head r) = requiredNames.map shownName := rfl
  rw [hnames]
  decide

theorem nodup_names_fields {r : Record} {fs : Fields Json} (h : fields r = .ok fs) :
    (Fields.names fs).Nodup := by
  obtain ⟨text, entries, time, complete, -, -, -, rfl⟩ := fields_eq_ok_iff.1 h
  exact Fields.nodup_names_merge (Fields.nodup_names_merge (nodup_names_head _) _) _

theorem mem_of_mem_traces {r : Record} {entries complete : Fields Json}
    (hreport : addReport r entries = .ok complete) {n : String} {v : Json}
    (h : (n, v) ∈ addTrace r "stack_info" "stack_info" (addTrace r "exc_text" "exc_info" complete)) :
    n ∈ ["exc_info", "stack_info"] ∨ (n, v) ∈ entries := by
  rcases eq_or_mem_of_mem_addTrace h with rfl | h
  · exact .inl (by decide)
  · rcases eq_or_mem_of_mem_addTrace h with rfl | h
    · exact .inl (by decide)
    · rcases eq_or_mem_of_mem_addReport hreport h with rfl | h
      · exact .inl (by decide)
      · exact .inr h

theorem origin_of_mem_addTrace {r : Record} {text : String} {entries complete : Fields Json}
    (hcontents : contents r = .ok (text, entries)) (hreport : addReport r entries = .ok complete)
    {n : String} {v : Json}
    (h : (n, v) ∈ addTrace r "stack_info" "stack_info" (addTrace r "exc_text" "exc_info" complete)) :
    shownName n ∈ ownNames ∨ ∃ table, r.get "msg" = .object table ∧ (n, v) ∈ table := by
  rcases mem_of_mem_traces hreport h with hn | h
  · have hown : ∀ n ∈ ["exc_info", "stack_info"], shownName n ∈ ownNames := by decide
    exact .inl (hown n hn)
  · exact .inr ⟨entries, mem_contents hcontents h, h⟩

/-- A field of a line is an extra. If no extra has its name, it is an entry of the message or one
of the fields that the line has of its own. -/
theorem origin_of_mem_fields {r : Record} {fs : Fields Json} (h : fields r = .ok fs)
    {name : String} {v : Json} (hmem : (name, v) ∈ fs) :
    (name, v) ∈ extras r ∨ name ∉ Fields.names (extras r) ∧
      (name ∈ ownNames ∨
        ∃ entries n, r.get "msg" = .object entries ∧ (n, v) ∈ entries ∧ shownName n = name) := by
  have hget := (Fields.get?_eq_some_iff (nodup_names_fields h)).2 hmem
  obtain ⟨text, entries, time, complete, hcontents, -, hreport, rfl⟩ := fields_eq_ok_iff.1 h
  simp only [assemble] at hget
  -- the look-up goes backwards: first the extras, then the entries, and the head last
  rw [Fields.get?_merge, Option.or_eq_some_iff] at hget
  rcases hget with hextra | ⟨hnone, hget⟩
  · exact .inl (List.mem_reverse.1 (Fields.mem_of_get?_eq_some hextra))
  · rw [Fields.get?_eq_none_iff, Fields.mem_names_reverse] at hnone
    refine .inr ⟨hnone, ?_⟩
    rw [Fields.get?_merge, Option.or_eq_some_iff] at hget
    rcases hget with hentry | ⟨-, hhead⟩
    · have hshown := List.mem_reverse.1 (Fields.mem_of_get?_eq_some hentry)
      obtain ⟨⟨n, w⟩, hn, heq⟩ := List.mem_map.1 hshown
      obtain ⟨rfl, rfl⟩ := Prod.mk.inj heq
      rcases origin_of_mem_addTrace hcontents hreport hn with hown | ⟨table, hmsg, hentry⟩
      · exact .inl hown
      · exact .inr ⟨table, n, hmsg, hentry, rfl⟩
    · left
      exact List.mem_append_left _ (Fields.mem_names_of_mem (Fields.mem_of_get?_eq_some hhead))

theorem contents_of_text {r : Record} {text : String} (hmsg : r.get "msg" = .text text)
    (harguments : r.arguments.isEmpty = true) (hmethod : r.get? "getMessage" = none) :
    contents r = .ok (text, []) := by
  have hmessage : r.message = .ok text := by
    rw [Record.message, hmethod, hmsg]
    dsimp only
    rw [messageText, ifShort, Json.isTooLong_text, if_neg Bool.false_ne_true, Json.display]
    exact if_pos harguments
  rw [contents, hmsg]
  dsimp only
  rw [hmessage]
  rfl

theorem addTrace_of_not_isTruthy {r : Record} {source : String}
    (h : (r.get source).isTruthy = false) (entry : String) (entries : Fields Json) :
    addTrace r source entry entries = entries := by
  rw [addTrace, h, Bool.and_false, if_neg Bool.false_ne_true]

theorem assemble_eq (r : Record) (text : String) (entries : Fields Json) (time : String) :
    assemble r text entries time = Fields.merge
      (Fields.merge
        [("asctime", .text time), ("level", r.get "levelname"), ("logger", r.get "name"),
         ("message", .text text), ("correlation_id", r.get "correlation_id"),
         ("service", r.get "service")]
        ((addTrace r "stack_info" "stack_info" (addTrace r "exc_text" "exc_info" entries)).map
          fun f => (shownName f.1, f.2)))
      (extras r) := by
  have hhead : head ((r.set "message" (.text text)).set "asctime" (.text time)) =
      [("asctime", .text time), ("level", r.get "levelname"), ("logger", r.get "name"),
       ("message", .text text), ("correlation_id", r.get "correlation_id"),
       ("service", r.get "service")] := by
    simp [head, requiredNames, shownName, Record.get, Record.get?_set]
  rw [assemble]
  dsimp only
  rw [hhead]

end Line

/-- Names of extras that a line shows behind its own fields, just as they were given. -/
structure PlainNames (names : List String) : Prop where
  distinct : names.Nodup
  shown : ∀ name ∈ names, Line.skips name = false
  unchanged : ∀ name ∈ names,
    name ∉ sensitiveNames ++ Line.requiredNames.map Line.shownName ++ ["getMessage"]

structure Call.Plain (call : Call) (text : String) : Prop where
  message : call.message = .text text
  arguments : call.arguments = []
  report : call.report = none
  stack : call.stack = none
  extras : PlainNames (Fields.names call.extras)

namespace Call

/-- The record of a call with plain extras, as the filters pass it on. -/
def plainRecord (call : Call) (now : Moment) (identifier service : Json) : Record where
  attributes := call.attributes now ++ call.extras ++
    [("correlation_id", identifier), ("service", service)]
  moment := now
  listsArguments := !Record.isTable call.arguments
  holdsReport := call.report.isSome

def plainFields (call : Call) (text time : String) (identifier service : Json) : Fields Json :=
  [("asctime", .text time), ("level", .text (severityName call.severity)),
   ("logger", .text call.logger), ("message", .text text), ("correlation_id", identifier),
   ("service", service)] ++ call.extras

def fixedNames : List String :=
  reservedNames ++ Line.requiredNames ++
    (sensitiveNames ++ Line.requiredNames.map Line.shownName ++ ["getMessage"])

section Plain

variable {call : Call} (hplain : PlainNames (Fields.names call.extras)) (now : Moment)
include hplain

theorem not_mem_of_plain {name : String} (h : name ∈ fixedNames) :
    name ∉ Fields.names call.extras := by
  intro hmem
  rw [fixedNames, List.mem_append, List.mem_append] at h
  rcases h with (hreserved | hrequired) | hchanged
  · exact absurd (hplain.shown name hmem) (by simp [Line.skips, hreserved])
  · exact absurd (hplain.shown name hmem) (by simp [Line.skips, hrequired])
  · exact hplain.unchanged name hmem hchanged

theorem nodup_names_append_extras {fields : Fields Json} (h : (Fields.names fields).Nodup)
    (hfixed : ∀ name ∈ Fields.names fields, name ∈ fixedNames) :
    (Fields.names (fields ++ call.extras)).Nodup := by
  rw [Fields.names_append, List.nodup_append]
  refine ⟨h, hplain.distinct, ?_⟩
  rintro name hname _ hmem rfl
  exact not_mem_of_plain hplain (hfixed name hname) hmem

theorem not_mem_names_attributes {name : String} (hs : name ∉ standardNames)
    (h : name ∈ fixedNames) : name ∉ Fields.names (call.attributes now ++ call.extras) := by
  rw [Fields.names_append, List.mem_append, not_or]
  exact ⟨hs, not_mem_of_plain hplain h⟩

theorem complete_record (service : Json) (source : CorrelationSource) (current : Json) :
    ∃ r, call.record now = .ok r ∧ Filter.complete service source current r =
      call.plainRecord now (source.identifier current) service := by
  have hunreserved : ∀ name ∈ Fields.names call.extras, name ∉ reservedNames :=
    fun name hmem hreserved => not_mem_of_plain hplain
      (List.mem_append_left _ (List.mem_append_left _ hreserved)) hmem
  refine ⟨_, Record.addExtras_eq_ok_iff.2 ⟨hunreserved, rfl⟩, ?_⟩
  have hstandard : standardNames.Nodup ∧ ∀ name ∈ standardNames, name ∈ fixedNames := by decide
  have hmerge : Fields.merge (call.attributes now) call.extras =
      call.attributes now ++ call.extras :=
    Fields.merge_eq_append (nodup_names_append_extras hplain hstandard.1 hstandard.2)
  rw [attributes] at hmerge
  have hid : "correlation_id" ∉ Fields.names (call.attributes now ++ call.extras) :=
    not_mem_names_attributes hplain now (by decide) (by decide)
  have hservice : "service" ∉ Fields.names (call.attributes now ++ call.extras) :=
    not_mem_names_attributes hplain now (by decide) (by decide)
  have hsecrets : ∀ name ∈ sensitiveNames, name ∉ standardNames := by decide
  rw [hmerge, Record.listsArguments_make, Record.holdsReport_make]
  apply Filter.complete_eq service source current
  · exact hid
  · exact hservice
  intro name hname hsecret
  exact not_mem_names_attributes hplain now (hsecrets name hsecret)
    (by simp [fixedNames, hsecret]) hname

variable (identifier service : Json)

omit hplain in
theorem get_plainRecord {name : String} {v : Json}
    (h : Fields.get? (call.attributes now) name = some v) :
    (call.plainRecord now identifier service).get name = v := by
  rw [plainRecord, Record.get, Record.get?, Fields.get?_append, Fields.get?_append, h]
  rfl

theorem get?_plainRecord_of_free {name : String} (hs : name ∉ standardNames)
    (h : name ∈ fixedNames) : (call.plainRecord now identifier service).get? name =
      Fields.get? [("correlation_id", identifier), ("service", service)] name := by
  rw [plainRecord, Record.get?, Fields.get?_append,
    Fields.get?_eq_none_iff.2 (not_mem_names_attributes hplain now hs h), Option.none_or]

theorem extras_plainRecord :
    Line.extras (call.plainRecord now identifier service) = call.extras := by
  have hstandard : (call.attributes now).filter (fun f => !Line.skips f.1) = [] := by
    rw [List.filter_eq_nil_iff]
    intro f hf
    have hskips : ∀ name ∈ standardNames, ¬ (!Line.skips name) = true := by decide
    exact hskips f.1 (Fields.mem_names_of_mem hf)
  have hextras : call.extras.filter (fun f => !Line.skips f.1) = call.extras := by
    rw [List.filter_eq_self]
    intro f hf
    rw [hplain.shown f.1 (Fields.mem_names_of_mem hf), Bool.not_false]
  have hadded : [("correlation_id", identifier), ("service", service)].filter
      (fun f => !Line.skips f.1) = [] := rfl
  rw [Line.extras, plainRecord, List.filter_append, List.filter_append, hstandard, hextras, hadded,
    List.nil_append, List.append_nil]

theorem contents_plainRecord {text : String} (hmessage : call.message = .text text)
    (harguments : call.arguments = []) :
    Line.contents (call.plainRecord now identifier service) = .ok (text, []) := by
  refine Line.contents_of_text ?_ ?_ ?_
  · exact (get_plainRecord now identifier service rfl).trans hmessage
  · have hargs : (call.plainRecord now identifier service).get "args" = .array [] :=
      get_plainRecord now identifier service (by rw [attributes, harguments]; rfl)
    have hlists : (call.plainRecord now identifier service).listsArguments = true := by
      rw [plainRecord, harguments]
      rfl
    rw [Record.arguments, hlists, hargs]
    rfl
  · exact get?_plainRecord_of_free hplain now identifier service (by decide) (by decide)

omit hplain in
theorem traces_plainRecord (hreport : call.report = none) (hstack : call.stack = none) :
    ∀ name ∈ ["exc_info", "exc_text", "stack_info"],
      ((call.plainRecord now identifier service).get name).isTruthy = false := by
  intro name hname
  have hnull : Fields.get? (call.attributes now) name = some .null := by
    rw [attributes, hreport, hstack]
    simp only [List.mem_cons, List.not_mem_nil, or_false] at hname
    rcases hname with rfl | rfl | rfl <;> rfl
  rw [get_plainRecord now identifier service hnull, Json.isTruthy]

omit hplain in
theorem fields_plainRecord {text time : String} (hcall : call.Plain text)
    (htime : now.text = .ok time) :
    Line.fields (call.plainRecord now identifier service) =
      .ok (call.plainFields text time identifier service) := by
  obtain ⟨hmessage, harguments, hreport, hstack, hplain⟩ := hcall
  have hlevel : (call.plainRecord now identifier service).get "levelname" =
      .text (severityName call.severity) := get_plainRecord now identifier service rfl
  have hlogger : (call.plainRecord now identifier service).get "name" = .text call.logger :=
    get_plainRecord now identifier service rfl
  have hid : (call.plainRecord now identifier service).get "correlation_id" = identifier := by
    rw [Record.get, get?_plainRecord_of_free hplain now identifier service (by decide) (by decide)]
    rfl
  have hservice : (call.plainRecord now identifier service).get "service" = service := by
    rw [Record.get, get?_plainRecord_of_free hplain now identifier service (by decide) (by decide)]
    rfl
  have hhead : (Line.requiredNames.map Line.shownName).Nodup ∧
      ∀ name ∈ Line.requiredNames.map Line.shownName, name ∈ fixedNames := by decide
  have hcontents := contents_plainRecord hplain now identifier service hmessage harguments
  have htraces := traces_plainRecord now identifier service hreport hstack
  have hnothing : Line.addReport (call.plainRecord now identifier service) [] = .ok [] := by
    have hholds : (call.plainRecord now identifier service).holdsReport = false := by
      rw [plainRecord, hreport, Option.isSome_none]
    rw [Line.addReport, hholds, htraces "exc_info" (by decide), Bool.or_false, Bool.and_false,
      if_neg Bool.false_ne_true]
  refine Line.fields_eq_ok_iff.2 ⟨text, [], time, [], hcontents, htime, hnothing, ?_⟩
  rw [Line.assemble_eq, Line.addTrace_of_not_isTruthy (htraces "exc_text" (by decide)),
    Line.addTrace_of_not_isTruthy (htraces "stack_info" (by decide)), hlevel, hlogger, hid,
    hservice, extras_plainRecord hplain, List.map_nil, Fields.merge_nil, Fields.merge_eq_append]
  · rfl
  · exact nodup_names_append_extras hplain hhead.1 hhead.2

end Plain
end Call
end PayloadCipher.Log
