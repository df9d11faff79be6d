import PayloadCipher.Log.Root

/-! What the record of a call holds. Extras come after the attributes of the call and replace none of
them. The filters add two attributes and mask the sensitive ones; every other attribute stays as it
is. -/

namespace PayloadCipher.Log

namespace Record

theorem get?_set (r : Record) (name other : String) (v : Json) :
    (r.set name v).get? other = if name = other then some v else r.get? other :=
  Fields.get?_set r.attributes name other v

/-- Extras are refused for a reserved name and otherwise set one after the other. -/
theorem addExtras_eq_ok_iff {r s : Record} {extras : Fields Json} :
    r.addExtras extras = .ok s ↔
      (∀ name ∈ Fields.names extras, name ∉ reservedNames) ∧
        s = { r with attributes := Fields.merge r.attributes extras } := by
  induction extras generalizing r with
  | nil => simp [addExtras, Fields.names, eq_comm]
  | cons f rest ih =>
    obtain ⟨name, v⟩ := f
    rw [addExtras, Fields.names_cons, List.forall_mem_cons]
    by_cases hreserved : name ∈ reservedNames
    · simp [hreserved]
    · have hother (reserved : String) (h : reserved ∈ reservedNames) :
          (name != reserved) = true := by
        rw [bne_iff_ne]
        rintro rfl
        exact hreserved h
      simp [hreserved, ih, set, hother "args" (by decide), hother "exc_info" (by decide),
        Fields.merge_cons]

section Make

variable (logger severity label message : Json) (arguments : List Json)
  (report stack : Option String) (now : Moment)

theorem listsArguments_make :
    (make logger severity label message arguments report stack now).listsArguments =
      !isTable arguments := by
  simp [make, stamp, set]

theorem holdsReport_make :
    (make logger severity label message arguments report stack now).holdsReport =
      report.isSome := by
  simp [make, stamp, set]

end Make
end Record

def Call.attributes (call : Call) (now : Moment) : Fields Json :=
  (Record.make (.text call.logger) (.int call.severity) (.text (severityName call.severity))
    call.message call.arguments call.report call.stack now).attributes

namespace Call

variable {call : Call} {now : Moment} {r : Record}

theorem mem_names_record (h : call.record now = .ok r) {name : String}
    (hname : name ∈ Fields.names call.extras) : name ∈ Fields.names r.attributes := by
  obtain ⟨-, rfl⟩ := Record.addExtras_eq_ok_iff.1 h
  exact Fields.mem_names_merge.2 (.inr hname)

theorem get?_record (h : call.record now = .ok r) (name : String) :
    r.get? name = (Fields.get? call.extras.reverse name).or
      (Fields.get? (call.attributes now) name) := by
  obtain ⟨-, rfl⟩ := Record.addExtras_eq_ok_iff.1 h
  exact Fields.get?_merge _ _ name

theorem get?_record_of_not_mem (h : call.record now = .ok r) {name : String}
    (hname : name ∉ Fields.names call.extras) :
    r.get? name = Fields.get? (call.attributes now) name := by
  rw [get?_record h, Fields.get?_eq_none_iff.2 (mt Fields.mem_names_reverse.1 hname), Option.none_or]

/-- Extras cannot replace what describes the call. -/
theorem get?_record_of_reserved (h : call.record now = .ok r) {name : String}
    (hname : name ∈ reservedNames) : r.get? name = Fields.get? (call.attributes now) name :=
  get?_record_of_not_mem h fun hmem => (Record.addExtras_eq_ok_iff.1 h).1 name hmem hname

theorem get_record_of_reserved (h : call.record now = .ok r) {name : String}
    (hname : name ∈ reservedNames) :
    r.get name = (Fields.get? (call.attributes now) name).getD .null := by
  rw [Record.get, get?_record_of_reserved h hname]

theorem get_msg_record (h : call.record now = .ok r) : r.get "msg" = call.message :=
  get_record_of_reserved h (by decide)

end Call

namespace Filter

theorem mem_names_correlate (service : Json) (source : CorrelationSource) (current : Json)
    {r : Record} {name : String} (h : name ∈ Fields.names r.attributes) :
    name ∈ Fields.names (correlate service source current r).attributes :=
  Fields.mem_names_set.2 (.inr (Fields.mem_names_set.2 (.inr h)))

theorem get?_correlate (service : Json) (source : CorrelationSource) (current : Json) (r : Record)
    {name : String} (hid : name ≠ "correlation_id") (hservice : name ≠ "service") :
    (correlate service source current r).get? name = r.get? name := by
  rw [correlate, Record.get?_set, if_neg (Ne.symm hservice), Record.get?_set,
    if_neg (Ne.symm hid)]

def chosenIdentifier (source : CorrelationSource) (current : Json) (r : Record) : Json :=
  if (r.get "correlation_id").isTruthy then r.get "correlation_id" else source.identifier current

theorem get?_service_correlate (service : Json) (source : CorrelationSource) (current : Json)
    (r : Record) : (correlate service source current r).get? "service" = some service := by
  rw [correlate, Record.get?_set, if_pos rfl]

theorem get?_correlation_id_correlate (service : Json) (source : CorrelationSource)
    (current : Json) (r : Record) :
    (correlate service source current r).get? "correlation_id" =
      some (chosenIdentifier source current r) := by
  rw [correlate, Record.get?_set, if_neg (by decide), Record.get?_set, if_pos rfl,
    chosenIdentifier]

theorem names_redactNames (names : List String) (r : Record) :
    Fields.names (redactNames names r).attributes = Fields.names r.attributes := by
  simp [redactNames, Fields.names]

theorem mem_redactNames {names : List String} {r : Record} {name : String} {v : Json}
    (h : (name, v) ∈ (redactNames names r).attributes) (hname : name ∈ names) : v = redacted := by
  obtain ⟨⟨n, w⟩, -, heq⟩ := List.mem_map.1 h
  obtain ⟨rfl, rfl⟩ := Prod.mk.inj heq
  rw [List.contains_iff_mem.2 hname, if_pos rfl]

theorem get?_redactNames (names : List String) (r : Record) (name : String) :
    (redactNames names r).get? name =
      (r.get? name).map fun v => if names.contains name then redacted else v :=
  Fields.get?_map (fun n v => if names.contains n then redacted else v) r.attributes name

theorem get_redactNames {names : List String} {name : String} (h : name ∉ names) (r : Record) :
    (redactNames names r).get name = r.get name := by
  simp [Record.get, get?_redactNames, h]

theorem message_redactNames {names : List String}
    (h : ∀ name ∈ ["getMessage", "msg", "args"], name ∉ names) (r : Record) :
    (redactNames names r).message = r.message := by
  simp only [List.forall_mem_cons, List.not_mem_nil, false_implies, implies_true, and_true] at h
  obtain ⟨hmethod, hmsg, hargs⟩ := h
  have hlists : (redactNames names r).listsArguments = r.listsArguments := by
    simp [redactNames, hargs]
  simp [Record.message, Record.arguments, Record.get, get?_redactNames, hlists, hmethod, hmsg,
    hargs]

theorem bareText_redactNames {names : List String}
    (h : ∀ name ∈ ["getMessage", "msg", "args", "exc_info", "stack_info"], name ∉ names)
    (r : Record) : (redactNames names r).bareText = r.bareText := by
  have hmessage : (redactNames names r).message = r.message :=
    message_redactNames (fun name hname => h name (List.mem_append_left _ hname)) r
  have hinfo : (redactNames names r).get "exc_info" = r.get "exc_info" :=
    get_redactNames (h _ (by simp)) r
  have hstack : (redactNames names r).get "stack_info" = r.get "stack_info" :=
    get_redactNames (h _ (by simp)) r
  simp only [Record.bareText, List.foldl_cons, List.foldl_nil, hmessage, hinfo, hstack]

theorem message_correlate (service : Json) (source : CorrelationSource) (current : Json)
    (r : Record) : (correlate service source current r).message = r.message := by
  have hget : ∀ name ∈ ["getMessage", "msg", "args"],
      (correlate service source current r).get? name = r.get? name := by
    have hother : ∀ name ∈ ["getMessage", "msg", "args"],
        name ≠ "correlation_id" ∧ name ≠ "service" := by decide
    exact fun name hname => get?_correlate service source current r (hother name hname).1
      (hother name hname).2
  have hlists : (correlate service source current r).listsArguments = r.listsArguments := by
    simp [correlate, Record.set]
  simp [Record.message, Record.arguments, Record.get, hget, hlists]

/-- A record as the filters of configured logging pass it on. -/
def complete (service : Json) (source : CorrelationSource) (current : Json) (r : Record) : Record :=
  redactNames sensitiveNames (correlate service source current r)

theorem message_complete (service : Json) (source : CorrelationSource) (current : Json)
    (r : Record) : (complete service source current r).message = r.message := by
  rw [complete, message_redactNames (by decide), message_correlate]

theorem redactNames_eq_self {names : List String} {r : Record} (hargs : "args" ∉ names)
    (hinfo : "exc_info" ∉ names) (h : ∀ name ∈ Fields.names r.attributes, name ∉ names) :
    redactNames names r = r := by
  have hself : ∀ f ∈ r.attributes, (f.1, if names.contains f.1 then redacted else f.2) = id f := by
    intro f hf
    have hname := h f.1 (Fields.mem_names_of_mem hf)
    simp [hname]
  rw [redactNames, List.map_congr_left hself, List.map_id]
  simp [hargs, hinfo]

theorem complete_eq (service : Json) (source : CorrelationSource) (current : Json) {r : Record}
    (hid : "correlation_id" ∉ Fields.names r.attributes)
    (hservice : "service" ∉ Fields.names r.attributes)
    (hsecret : ∀ name ∈ Fields.names r.attributes, name ∉ sensitiveNames) :
    complete service source current r = { r with
      attributes := r.attributes ++
        [("correlation_id", source.identifier current), ("service", service)] } := by
  have hown : r.get "correlation_id" = .null := by
    rw [Record.get, Record.get?, Fields.get?_eq_none_iff.2 hid, Option.getD_none]
  have hcorrelate : correlate service source current r = { r with
      attributes := r.attributes ++
        [("correlation_id", source.identifier current), ("service", service)] } := by
    have hlast : "service" ∉ Fields.names (r.attributes ++
        [("correlation_id", source.identifier current)]) := by
      rw [Fields.names_append, List.mem_append, not_or]
      exact ⟨hservice, by simp [Fields.names]⟩
    simp only [correlate, hown, Json.isTruthy, Bool.false_eq_true, if_false, Record.set]
    rw [Fields.set_of_not_mem hid, Fields.set_of_not_mem hlast, List.append_assoc]
    simp
  rw [complete, hcorrelate]
  refine redactNames_eq_self (by decide) (by decide) fun name hname => ?_
  rw [Fields.names_append, List.mem_append] at hname
  rcases hname with hold | hnew
  · exact hsecret name hold
  · have hsafe : ∀ name ∈ ["correlation_id", "service"], name ∉ sensitiveNames := by decide
    exact hsafe name hnew

end Filter

end PayloadCipher.Log
