import PayloadCipher.Proofs.Attribution
import PayloadCipher.Proofs.Configuration
import PayloadCipher.Proofs.Filters

/-! The shape of a line. Six fields come first, the entries of the message after them, and the extras
last. A name stays where it comes first and shows what it is given last. -/

namespace PayloadCipher

section Distinct

variable {α : Type} [BEq α] [LawfulBEq α]

theorem eraseDups_of_nodup {l : List α} (h : l.Nodup) : l.eraseDups = l := by
  induction l with
  | nil => rfl
  | cons a l ih =>
    obtain ⟨ha, hl⟩ := List.nodup_cons.1 h
    have hrest : l.filter (fun b => !b == a) = l := by
      rw [List.filter_eq_self]
      intro b hb
      have hne : b ≠ a := by
        rintro rfl
        exact ha hb
      simpa using hne
    rw [List.eraseDups_cons, hrest, ih hl]

theorem filter_eraseDups (p : α → Bool) :
    ∀ l : List α, l.eraseDups.filter p = (l.filter p).eraseDups
  | [] => rfl
  | a :: l => by
    have hrest := filter_eraseDups p (l.filter fun b => !b == a)
    rw [List.eraseDups_cons, List.filter_cons, List.filter_cons, hrest]
    cases hp : p a with
    | true =>
      rw [if_pos rfl, if_pos rfl, List.eraseDups_cons, List.filter_filter, List.filter_filter]
      simp only [Bool.and_comm]
    | false =>
      have hsame : (l.filter fun b => !b == a).filter p = l.filter p := by
        rw [List.filter_filter, List.filter_congr]
        intro b _
        by_cases hb : b = a
        · simp [hb, hp]
        · simp [hb]
      rw [if_neg Bool.false_ne_true, if_neg Bool.false_ne_true, hsame]
termination_by l => l.length
decreasing_by exact Nat.lt_succ_of_le (List.length_filter_le _ _)

theorem eraseDups_eraseDups : ∀ l : List α, l.eraseDups.eraseDups = l.eraseDups
  | [] => rfl
  | a :: l => by
    have hrest := eraseDups_eraseDups (l.filter fun b => !b == a)
    rw [List.eraseDups_cons, List.eraseDups_cons, filter_eraseDups, List.filter_filter]
    simp only [Bool.and_self]
    rw [hrest]
termination_by l => l.length
decreasing_by exact Nat.lt_succ_of_le (List.length_filter_le _ _)

theorem eraseDups_append_filter {l m : List α} {p : α → Bool}
    (h : ∀ a ∈ m, p a = false → a ∈ l) :
    (l.eraseDups ++ (m.filter p).eraseDups).eraseDups = (l ++ m).eraseDups := by
  have hrest : (m.filter p).removeAll l.eraseDups = m.removeAll l := by
    rw [List.removeAll, List.removeAll, List.filter_filter]
    apply List.filter_congr
    intro a ha
    cases hp : p a with
    | true => simp
    | false => simp [h a ha hp]
  have hdups : (m.filter p).eraseDups.removeAll l.eraseDups =
      ((m.filter p).removeAll l.eraseDups).eraseDups := filter_eraseDups _ _
  rw [List.eraseDups_append, List.eraseDups_append, hdups, hrest, eraseDups_eraseDups,
    eraseDups_eraseDups]

end Distinct

/-- A name that is merged stays in its place, and a new one comes last. -/
theorem Fields.names_merge {α : Type} {fields : Fields α} (h : (names fields).Nodup)
    (new : Fields α) : names (merge fields new) = (names fields ++ names new).eraseDups := by
  induction new generalizing fields with
  | nil => rw [merge_nil, names_nil, List.append_nil, eraseDups_of_nodup h]
  | cons f new ih =>
    obtain ⟨n, v⟩ := f
    rw [merge_cons, ih (nodup_names_set h n v), names_set, names_cons]
    split
    case isTrue hn =>
      rw [List.eraseDups_append, List.eraseDups_append, List.cons_removeAll,
        List.contains_iff_mem.2 hn, if_neg Bool.false_ne_true.symm]
    case isFalse => rw [List.append_assoc, List.singleton_append]

namespace Log

namespace Call

def lineText (call : Call) : Except Mismatch String :=
  match call.message with
  | .object _ => .ok ""
  | _ => call.text

def lineHead (call : Call) (text time : String) (identifier service : Json) : Fields Json :=
  [("asctime", .text time), ("level", .text (severityName call.severity)),
   ("logger", .text call.logger), ("message", .text text), ("correlation_id", identifier),
   ("service", service)]

def entries (call : Call) : Fields Json :=
  match call.message with
  | .object entries => entries
  | _ => []

def traces (call : Call) : Fields String :=
  (call.report.map fun text => ("exc_info", text)).toList ++
    ((call.stack.filter (· ≠ "")).map fun text => ("stack_info", text)).toList

/-- The entries of the message, and the traces that it has none of itself, under the names by which a
line shows them. -/
def lineEntries (call : Call) : Fields Json :=
  (call.traces.foldl addMissing call.entries).map fun f => (Line.shownName f.1, f.2)

def lineExtras (call : Call) : Fields Json :=
  (call.extras.filter fun f => f.1.toList.head? != some '_').map
    fun f => (f.1, shownAs sensitiveNames f.1 f.2)

variable {call : Call} {now : Moment} {r : Record}

theorem not_mem_names_of_message (h : call.record now = .ok r) {text : String}
    (hmessage : r.message = .ok text) : "getMessage" ∉ Fields.names call.extras := by
  intro hmem
  have hattributes : Fields.get? (call.attributes now) "getMessage" = none := rfl
  have hget : r.get? "getMessage" ≠ none := by
    rw [get?_record h, hattributes, Option.or_none, ne_eq, Fields.get?_eq_none_iff,
      Fields.mem_names_reverse, not_not]
    exact hmem
  rw [Record.message] at hmessage
  cases hmethod : r.get? "getMessage" with
  | none => exact hget hmethod
  | some v =>
    rw [hmethod] at hmessage
    cases hmessage

theorem contents_complete (h : call.record now = .ok r) {service : Json}
    {source : CorrelationSource} {current : Json} {text : String} {entries : Fields Json}
    (hcontents : Line.contents (Filter.complete service source current r) = .ok (text, entries)) :
    call.lineText = .ok text ∧ entries = call.entries := by
  rw [Line.contents, Filter.get_msg_complete, get_msg_record h, Filter.message_complete] at hcontents
  split at hcontents
  case h_1 table htable =>
    cases hcontents
    rw [lineText, Call.entries, htable]
    exact ⟨rfl, rfl⟩
  case h_2 hother =>
    cases hmessage : r.message with
    | error reason =>
      rw [hmessage] at hcontents
      cases hcontents
    | ok t =>
      rw [hmessage] at hcontents
      cases hcontents
      have htext : call.text = .ok text :=
        (message_record h (not_mem_names_of_message h hmessage)).symm.trans hmessage
      rw [lineText, Call.entries]
      split
      case h_1 table htable => exact absurd htable (hother table)
      case h_2 => exact ⟨htext, rfl⟩

theorem attributes_record (h : call.record now = .ok r) :
    r.attributes = Fields.merge (call.attributes now) call.extras := by
  obtain ⟨-, rfl⟩ := Record.addExtras_eq_ok_iff.1 h
  rfl

end Call

def ownedNames : List String := ["correlation_id", "service"]

theorem mem_requiredNames_iff {name : String} (h : name ∉ reservedNames) :
    name ∈ Line.requiredNames ↔ name ∈ ownedNames := by
  have hrequired : ∀ name ∈ Line.requiredNames, name ∈ reservedNames ∨ name ∈ ownedNames := by
    decide
  have howned : ∀ name ∈ ownedNames, name ∈ Line.requiredNames := by decide
  exact ⟨fun hname => (hrequired name hname).resolve_left h, howned name⟩

namespace Line

theorem extras_correlate (service : Json) (source : CorrelationSource) (current : Json)
    (r : Record) : extras (Filter.correlate service source current r) = extras r := by
  have hset (name : String) (hname : skips name = true) (v : Json) (q : Record) :
      extras (q.set name v) = extras q := by
    have hfilter := Fields.filter_set (fun n => !skips n) name v q.attributes
    rw [hname, Bool.not_true, if_neg Bool.false_ne_true] at hfilter
    exact hfilter
  rw [Filter.correlate, hset "service" (by decide), hset "correlation_id" (by decide)]

theorem extras_redactNames (names : List String) (r : Record) :
    extras (Filter.redactNames names r) =
      (extras r).map fun f => (f.1, shownAs names f.1 f.2) := by
  rw [extras, extras, Filter.redactNames_eq, List.filter_map]
  rfl

theorem extras_record {call : Call} {now : Moment} {r : Record} (h : call.record now = .ok r) :
    extras r = Fields.merge [] (call.extras.filter fun f => !skips f.1) := by
  have hattributes : (call.attributes now).filter (fun f => !skips f.1) = [] := by
    rw [List.filter_eq_nil_iff]
    intro f hf
    have hskips : ∀ name ∈ standardNames, ¬ (!skips name) = true := by decide
    exact hskips f.1 (Fields.mem_names_of_mem hf)
  rw [extras, Call.attributes_record h, Fields.filter_merge (fun name => !skips name), hattributes]

end Line

namespace Call

variable {call : Call} {now : Moment} {r : Record}

/-- The extras in the line of a call: those that are shown, each name once. -/
theorem extras_complete (h : call.record now = .ok r) (service : Json) (source : CorrelationSource)
    (current : Json) : Line.extras (Filter.complete service source current r) =
      Fields.merge [] (call.lineExtras.filter fun f => !ownedNames.contains f.1) := by
  have hextras : call.extras.filter (fun f => !Line.skips f.1) =
      (call.extras.filter fun f => f.1.toList.head? != some '_').filter
        fun f => !ownedNames.contains f.1 := by
    rw [List.filter_filter]
    apply List.filter_congr
    intro f hf
    have hreserved := (Record.addExtras_eq_ok_iff.1 h).1 f.1 (Fields.mem_names_of_mem hf)
    have hrequired : Line.requiredNames.contains f.1 = ownedNames.contains f.1 := by
      rw [Bool.eq_iff_iff, List.contains_iff_mem, List.contains_iff_mem]
      exact mem_requiredNames_iff hreserved
    rw [Line.skips, hrequired]
    simp [hreserved, bne]
  rw [Filter.complete, Line.extras_redactNames, Line.extras_correlate, Line.extras_record h,
    Fields.map_merge (shownAs sensitiveNames), hextras, lineExtras, List.filter_map]
  rfl

def lineIdentifier (call : Call) (source : CorrelationSource) (current : Json) : Json :=
  if call.identifier.isTruthy then call.identifier else source.identifier current

theorem mem_names_addMissing {entries : Fields Json} {trace : String × String} {name : String} :
    name ∈ Fields.names (addMissing entries trace) ↔
      name ∈ Fields.names entries ∨ name = trace.1 := by
  rw [addMissing]
  split
  case isTrue htruthy =>
    refine ⟨.inl, fun h => h.elim id ?_⟩
    rintro rfl
    by_contra hmissing
    rw [Fields.get?_eq_none_iff.2 hmissing, Option.getD_none] at htruthy
    cases htruthy
  case isFalse => rw [Fields.mem_names_set, or_comm]

theorem mem_names_foldl_addMissing {entries : Fields Json} {traces : Fields String}
    {name : String} : name ∈ Fields.names (traces.foldl addMissing entries) ↔
      name ∈ Fields.names entries ∨ name ∈ Fields.names traces := by
  induction traces generalizing entries with
  | nil => simp
  | cons trace traces ih =>
    obtain ⟨n, text⟩ := trace
    rw [List.foldl_cons, ih, mem_names_addMissing, Fields.names_cons, List.mem_cons, or_assoc]

theorem mem_names_traces (call : Call) {name : String} (h : name ∈ Fields.names call.traces) :
    name ∈ ["exc_info", "stack_info"] := by
  rw [traces, Fields.names_append, List.mem_append] at h
  rcases h with h | h
  · cases hreport : call.report <;> simp_all [Fields.names]
  · cases hstack : call.stack.filter (· ≠ "") <;> simp_all [Fields.names]

theorem origin_of_mem_lineEntries {call : Call} {name : String}
    (h : name ∈ Fields.names call.lineEntries) :
    (∃ n ∈ Fields.names call.entries, Line.shownName n = name) ∨
      name ∈ Fields.names call.traces := by
  obtain ⟨g, hg, rfl⟩ := List.mem_map.1 h
  obtain ⟨f, hf, rfl⟩ := List.mem_map.1 hg
  have hkept : ∀ name ∈ ["exc_info", "stack_info"], Line.shownName name = name := by decide
  rcases mem_names_foldl_addMissing.1 (Fields.mem_names_of_mem hf) with hentry | htrace
  · exact .inl ⟨f.1, hentry, rfl⟩
  · right
    rwa [hkept f.1 (mem_names_traces call htrace)]

theorem addTrace_eq {source : String} {text : Option String}
    (h : r.get source = (text.map Json.text).getD .null) (entry : String) (entries : Fields Json) :
    Line.addTrace r source entry entries =
      ((text.filter (· ≠ "")).map fun t => (entry, t)).toList.foldl addMissing entries := by
  rw [Line.addTrace, h]
  cases text with
  | none =>
    rw [Option.map_none, Option.getD_none, Json.isTruthy, Bool.and_false]
    rfl
  | some t =>
    have htruthy : (Json.text t).isTruthy = (t != "") := rfl
    rw [Option.map_some, Option.getD_some, htruthy]
    by_cases hempty : t = ""
    · subst hempty
      rw [bne_self_eq_false, Bool.and_false]
      rfl
    · have hkept : (some t).filter (· ≠ "") = some t := by simp [hempty]
      rw [hkept, bne_iff_ne.2 hempty, Bool.and_true]
      show _ = addMissing entries (entry, t)
      rw [addMissing]
      cases ((Fields.get? entries entry).getD .null).isTruthy <;> rfl

theorem traces_complete (h : call.record now = .ok r) (service : Json) (source : CorrelationSource)
    (current : Json) :
    let complete := Filter.complete service source current r
    Line.addTrace complete "stack_info" "stack_info" (Line.addTrace complete "exc_text" "exc_info"
      ((call.report.map fun text => ("exc_info", text)).toList.foldl addMissing call.entries)) =
      call.traces.foldl addMissing call.entries := by
  intro complete
  -- a call comes with a trace of its stack at most
  have htext : complete.get "exc_text" = ((none : Option String).map Json.text).getD .null := by
    rw [get_complete_of_reserved h service source current (by decide)]
    rfl
  have hstack : complete.get "stack_info" = (call.stack.map Json.text).getD .null := by
    rw [get_complete_of_reserved h service source current (by decide)]
    rfl
  rw [addTrace_eq htext, addTrace_eq hstack, traces, List.foldl_append]
  rfl

theorem fields_complete (h : call.record now = .ok r) {service : Json} {source : CorrelationSource}
    {current : Json} {fs : Fields Json}
    (hfields : Line.fields (Filter.complete service source current r) = .ok fs) :
    ∃ text time, call.lineText = .ok text ∧ now.text = .ok time ∧
      fs = Fields.merge
        (Fields.merge (call.lineHead text time (call.lineIdentifier source current) service)
          call.lineEntries)
        (Fields.merge [] (call.lineExtras.filter fun f => !ownedNames.contains f.1)) := by
  obtain ⟨text, entries, time, complete, hcontents, htime, hreport, rfl⟩ :=
    Line.fields_eq_ok_iff.1 hfields
  obtain ⟨htext, rfl⟩ := contents_complete h hcontents
  have hmoment : (Filter.complete service source current r).moment = r.moment := rfl
  refine ⟨text, time, htext, ?_, ?_⟩
  · rwa [hmoment, moment_record h] at htime
  have hget {name : String} (hname : name ∈ reservedNames) :=
    get_complete_of_reserved h service source current hname
  have hsafe : "correlation_id" ∉ sensitiveNames ∧ "service" ∉ sensitiveNames := by decide
  have hidentifier : (Filter.complete service source current r).get "correlation_id" =
      call.lineIdentifier source current := by
    rw [Filter.complete, Filter.get_redactNames hsafe.1, Record.get,
      Filter.get?_correlation_id_correlate, Option.getD_some, Filter.chosenIdentifier,
      get_identifier_record h, lineIdentifier]
  have hservice : (Filter.complete service source current r).get "service" = service := by
    rw [Filter.complete, Filter.get_redactNames hsafe.2, Record.get, Filter.get?_service_correlate,
      Option.getD_some]
  rw [addReport_complete h service source current call.entries] at hreport
  cases hreport
  rw [Line.assemble_eq, traces_complete h service source current, extras_complete h, hidentifier,
    hservice, hget (by decide), hget (by decide)]
  rfl

/-- The shape of the fields of a line: what they are called and what they show. `head` are those
that every line has. -/
structure HasShape (call : Call) (head fields : Fields Json) : Prop where
  distinct : (Fields.names fields).Nodup
  first : (Fields.names fields).take 6 =
    ["asctime", "level", "logger", "message", "correlation_id", "service"]
  names : Fields.names fields = (Fields.names head ++ Fields.names call.lineEntries ++
    Fields.names call.lineExtras).eraseDups
  value : ∀ name, Fields.get? fields name =
    Fields.get? (head ++ call.lineEntries ++
      if name ∈ ownedNames then [] else call.lineExtras).reverse name

theorem names_lineHead (call : Call) (text time : String) (identifier service : Json) :
    Fields.names (call.lineHead text time identifier service) =
      ["asctime", "level", "logger", "message", "correlation_id", "service"] := rfl

theorem nodup_names_lineHead (call : Call) (text time : String) (identifier service : Json) :
    (Fields.names (call.lineHead text time identifier service)).Nodup := by
  rw [names_lineHead]
  decide

theorem hasShape_merge (call : Call) (text time : String) (identifier service : Json) :
    let head := call.lineHead text time identifier service
    call.HasShape head (Fields.merge (Fields.merge head call.lineEntries)
      (Fields.merge [] (call.lineExtras.filter fun f => !ownedNames.contains f.1))) := by
  intro head
  have hhead : (Fields.names head).Nodup := nodup_names_lineHead ..
  have howned : ∀ name ∈ ownedNames, name ∈ Fields.names head := by
    rw [names_lineHead]
    decide
  have hnil : (Fields.names ([] : Fields Json)).Nodup := List.nodup_nil
  have hentries := Fields.nodup_names_merge hhead call.lineEntries
  have hshown : Fields.names (call.lineExtras.filter fun f => !ownedNames.contains f.1) =
      (Fields.names call.lineExtras).filter fun name => !ownedNames.contains name := by
    rw [Fields.names, Fields.names, List.filter_map]
    rfl
  have hnames : Fields.names (Fields.merge (Fields.merge head call.lineEntries)
      (Fields.merge [] (call.lineExtras.filter fun f => !ownedNames.contains f.1))) =
      (Fields.names head ++ Fields.names call.lineEntries ++
        Fields.names call.lineExtras).eraseDups := by
    rw [Fields.names_merge hentries, Fields.names_merge hhead, Fields.names_merge hnil, hshown,
      Fields.names_nil, List.nil_append]
    apply eraseDups_append_filter
    intro name _ hname
    exact List.mem_append_left _ (howned name (by simpa using hname))
  refine ⟨Fields.nodup_names_merge hentries _, ?_, hnames, fun name => ?_⟩
  · rw [hnames, List.append_assoc, List.eraseDups_append, eraseDups_of_nodup hhead]
    rfl
  · have hlast : Fields.get? (Fields.merge [] (call.lineExtras.filter
        fun f => !ownedNames.contains f.1)).reverse name =
        Fields.get? (if name ∈ ownedNames then [] else call.lineExtras).reverse name := by
      rw [Fields.get?_reverse (Fields.nodup_names_merge hnil _), Fields.get?_merge, Fields.get?_nil,
        Option.or_none, ← List.filter_reverse, Fields.get?_filter fun n => !ownedNames.contains n]
      by_cases hname : name ∈ ownedNames <;> simp [hname]
    rw [Fields.get?_merge, Fields.get?_merge, hlast, List.reverse_append, Fields.get?_append,
      List.reverse_append, Fields.get?_append, Fields.get?_reverse hhead]

theorem HasShape.origin {head fields : Fields Json} (h : call.HasShape head fields) {name : String}
    (hname : name ∈ Fields.names fields) :
    name ∈ Fields.names head ∨ (∃ n ∈ Fields.names call.entries, Line.shownName n = name) ∨
      name ∈ Fields.names call.traces ∨ name ∈ Fields.names call.lineExtras := by
  rw [h.names, List.mem_eraseDups, List.mem_append, List.mem_append] at hname
  rcases hname with (hhead | hentry) | hextra
  · exact .inl hhead
  · rcases origin_of_mem_lineEntries hentry with hmessage | htrace
    · exact .inr (.inl hmessage)
    · exact .inr (.inr (.inl htrace))
  · exact .inr (.inr (.inr hextra))

theorem HasShape.get?_of_not_mem {head fields : Fields Json} (h : call.HasShape head fields)
    (hhead : (Fields.names head).Nodup) (htable : ∀ table, call.message ≠ .object table)
    {name : String} (hname : name ∉ Fields.names call.extras)
    (htrace : name ∉ ["exc_info", "stack_info"]) :
    Fields.get? fields name = Fields.get? head name := by
  have hnone : call.entries = [] := by
    rw [Call.entries]
    split
    case h_1 table hmessage => exact absurd hmessage (htable table)
    case h_2 => rfl
  have hentries : name ∉ Fields.names call.lineEntries := by
    intro hmem
    rcases origin_of_mem_lineEntries hmem with ⟨n, hn, -⟩ | hmem
    · rw [hnone] at hn
      cases hn
    · exact htrace (mem_names_traces call hmem)
  have hextras : name ∉ Fields.names call.lineExtras := by
    intro hmem
    obtain ⟨g, hg, rfl⟩ := List.mem_map.1 hmem
    obtain ⟨f, hf, rfl⟩ := List.mem_map.1 hg
    have hgiven : f.1 ∈ Fields.names call.extras :=
      Fields.mem_names_of_mem (List.mem_filter.1 hf).1
    exact hname hgiven
  have hlast : Fields.get? (if name ∈ ownedNames then [] else call.lineExtras).reverse name =
      none := by
    rw [Fields.get?_eq_none_iff, Fields.mem_names_reverse]
    split
    · exact List.not_mem_nil
    · exact hextras
  have hmiddle : Fields.get? call.lineEntries.reverse name = none := by
    rw [Fields.get?_eq_none_iff, Fields.mem_names_reverse]
    exact hentries
  rw [h.value, List.reverse_append, Fields.get?_append, hlast, Option.none_or,
    List.reverse_append, Fields.get?_append, hmiddle, Option.none_or, Fields.get?_reverse hhead]

theorem exists_shape_of_mem {level : Level} {service : Json} {source : CorrelationSource}
    {current : Json} {clock : Instant} {lines : List String}
    (h : (Root.configured level service source).log current clock call = .ok lines) {line : String}
    (hline : line ∈ lines) :
    ∃ now r time text fields, clock.moment = .ok now ∧ now.text = .ok time ∧
      call.record now = .ok r ∧
      Line.fields (Filter.complete service source current r) = .ok fields ∧
      call.lineText = .ok text ∧ line = (Json.object fields).render ∧
      call.HasShape (call.lineHead text time (call.lineIdentifier source current) service)
        fields := by
  obtain ⟨now, r, fs, hnow, hr, hfields, hrender⟩ := Root.mem_log_configured h hline
  obtain ⟨text, time, htext, htime, rfl⟩ := fields_complete hr hfields
  exact ⟨now, r, time, text, _, hnow, htime, hr, hfields, htext, hrender,
    call.hasShape_merge text time (call.lineIdentifier source current) service⟩

end Call
end Log

namespace Service

/-- From a successful set-up on, every line of a call has one shape: the six fields of every line come
first and in one order, then the entries of the message, with the report and the stack that the call
comes with, and the extras that are shown, each name at its first place and with its last value, and
nothing else. If the message is no table, the time and the text are those of the record, and so are
the level and the logger unless an extra has that name. -/
theorem lines_have_one_shape {s t : Service} {setup : Operation} (hsetup : SetsUpLogging setup)
    {reply : Reply} (hok : (perform setup s).1 = .ok reply) (hlater : (perform setup s).2.LeadsTo t)
    (call : Log.Call) :
    ∃ level service source lines, t.root = .configured level service source ∧
      (log call t).2 = { t with written := t.written ++ lines } ∧
      ∀ line ∈ lines, ∃ now time text fields, t.clock.moment = .ok now ∧ now.text = .ok time ∧
        call.lineText = .ok text ∧ line = (Json.object fields).render ∧
        let head := call.lineHead text time (call.lineIdentifier source t.correlation.current) service
        call.HasShape head fields ∧
        (∀ name ∈ Fields.names fields, name ∈ Fields.names head ∨
          (∃ n ∈ Fields.names call.entries, Log.Line.shownName n = name) ∨
          name ∈ Fields.names call.traces ∨ name ∈ Fields.names call.lineExtras) ∧
        ((∀ table, call.message ≠ .object table) → ∀ name ∈ ["asctime", "level", "logger", "message"],
          (name ∈ ["level", "logger"] → name ∉ Fields.names call.extras) →
          Fields.get? fields name = Fields.get? head name) := by
  have hroot : t.root.Configured :=
    hlater.keeps (fun _ _ => Change.configured) (configured_of_setup hsetup hok)
  obtain ⟨level, service, source, hroot⟩ := hroot
  rw [log]
  cases hlog : t.root.log t.correlation.current t.clock call with
  | error fault =>
    exact ⟨level, service, source, [], hroot, by simp,
      fun line hline => absurd hline List.not_mem_nil⟩
  | ok lines =>
    refine ⟨level, service, source, lines, hroot, rfl, fun line hline => ?_⟩
    rw [hroot] at hlog
    obtain ⟨now, r, time, text, fields, hnow, htime, hr, -, htext, hrender, hshape⟩ :=
      Log.Call.exists_shape_of_mem hlog hline
    refine ⟨now, time, text, fields, hnow, htime, htext, hrender, hshape, fun name => hshape.origin,
      fun htable name hname hextra => ?_⟩
    have hother : ∀ name ∈ ["asctime", "level", "logger", "message"],
        name ∉ ["exc_info", "stack_info"] := by decide
    refine hshape.get?_of_not_mem (Log.Call.nodup_names_lineHead ..) htable (fun hmem => ?_)
      (hother name hname)
    by_cases hfree : name ∈ ["level", "logger"]
    · exact hextra hfree hmem
    · have hreserved : ∀ name ∈ ["asctime", "level", "logger", "message"],
          name ∉ ["level", "logger"] → name ∈ Log.reservedNames := by decide
      exact (Log.Record.addExtras_eq_ok_iff.1 hr).1 name hmem (hreserved name hname hfree)

theorem lines_have_one_shape_collisions :
    let start : Service := { supply := constantSupply }
    let setup := Operation.configure (.text "INFO") (.text "envelope") .nowhere
    let t := (perform setup start).2
    let call : Log.Call :=
      { logger := "app", severity := 20,
        message := .object [("levelname", .int 1), ("level", .int 2), ("service", .text "other")],
        extras := [("count", .int 3), ("level", .int 4), ("_hidden", .int 5),
          ("plaintext", .int 6), ("service", .int 7)] }
    SetsUpLogging setup ∧ (perform setup start).1 = .ok (.root t.root) ∧
      ∃ line fields, (log call t).2.written = [line] ∧ line = (Json.object fields).render ∧
        Fields.names fields = ["asctime", "level", "logger", "message", "correlation_id", "service",
          "count", "plaintext"] ∧
        Fields.get? fields "level" = some (.int 4) ∧
        Fields.get? fields "service" = some (.text "other") ∧
        Fields.get? fields "plaintext" = some (.text "[REDACTED]") := by
  intro start setup t call
  have hsetup : SetsUpLogging setup := .inr ⟨_, _, _, rfl⟩
  have hok : (perform setup start).1 = .ok (.root t.root) := rfl
  obtain ⟨_, _, _, lines, -, hlog, hshape⟩ := lines_have_one_shape hsetup hok .refl call
  have hwritten : (log call t).2.written = lines := congrArg Service.written hlog
  have hlength : (log call t).2.written.length = 1 := by decide +kernel
  obtain ⟨line, hline⟩ := List.length_eq_one_iff.1 hlength
  obtain ⟨_, _, _, fields, -, -, -, hrender, hfields, -⟩ :=
    hshape line (hwritten ▸ hline ▸ List.mem_singleton_self line)
  refine ⟨hsetup, hok, line, fields, hline, hrender, ?_, ?_, ?_, ?_⟩
  · rw [hfields.names, Log.Call.names_lineHead]
    decide
  · rw [hfields.value]
    rfl
  · rw [hfields.value]
    rfl
  · rw [hfields.value]
    rfl

/-- A report and a stack are shown beside what the message and the extras bring along. -/
theorem traces_shown_besides :
    let start : Service := { supply := constantSupply }
    let setup := Operation.configure (.text "INFO") (.text "envelope") .nowhere
    let t := (perform setup start).2
    let call : Log.Call :=
      { logger := "app", severity := 40, message := .text "failed", report := some "Traceback",
        stack := some "Stack" }
    let line := "\x7b\"asctime\": \"1970-01-01 00:00:00,000\", \"level\": \"ERROR\", " ++
      "\"logger\": \"app\", \"message\": \"failed\", \"correlation_id\": \"\", " ++
      "\"service\": \"envelope\", \"exc_info\": \"Traceback\", \"stack_info\": \"Stack\"\x7d"
    call.entries = [] ∧ call.extras = [] ∧ (perform setup start).1 = .ok (.root t.root) ∧
      (log call t).2.written = [line] ∧
      ∃ fields, Json.parse line = some (.object fields) ∧
        Fields.names fields = ["asctime", "level", "logger", "message", "correlation_id", "service",
          "exc_info", "stack_info"] := by
  intro start setup t call line
  have hwritten : (log call t).2.written = [line] := by decide +kernel
  have hparse : Json.parse line = some (.object
      [("asctime", .text "1970-01-01 00:00:00,000"), ("level", .text "ERROR"),
       ("logger", .text "app"), ("message", .text "failed"), ("correlation_id", .text ""),
       ("service", .text "envelope"), ("exc_info", .text "Traceback"),
       ("stack_info", .text "Stack")]) := by
    decide +kernel
  exact ⟨rfl, rfl, rfl, hwritten, _, hparse, rfl⟩

end Service
end PayloadCipher
