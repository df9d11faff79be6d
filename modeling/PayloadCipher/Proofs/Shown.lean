import PayloadCipher.Proofs.Redaction

/-! What a line shows: attributes of the record, entries of the message and texts of its own. So what
holds of texts and of all that was given for a line holds of every value in it. -/

namespace PayloadCipher

theorem Fields.forall_mem_merge {α : Type} {P : String × α → Prop} {fields new : Fields α}
    (h : ∀ f ∈ fields, P f) (hnew : ∀ f ∈ new, P f) : ∀ f ∈ merge fields new, P f := by
  induction new generalizing fields with
  | nil => exact h
  | cons f new ih =>
    rw [List.forall_mem_cons] at hnew
    refine ih (fun g hg => ?_) hnew.2
    rcases eq_or_mem_of_mem_set hg with rfl | hold
    · exact hnew.1
    · exact h g hold

namespace Log

/-- Whether attributes of a name are shown in lines, as fields of their own, as traces or as
extras. -/
def Line.shows (name : String) : Bool :=
  (requiredNames ++ ["exc_text", "stack_info"]).contains name || !skips name

def Record.Shown (P : Json → Prop) (r : Record) : Prop :=
  ∀ name v, Line.shows name = true → (name, v) ∈ r.attributes → P v

section Values

variable {P : Json → Prop}

theorem Record.Shown.get {r : Record} (h : r.Shown P) (hnull : P .null) {name : String}
    (hshows : Line.shows name = true) : P (r.get name) := by
  rw [Record.get, get?]
  cases hget : Fields.get? r.attributes name with
  | none => exact hnull
  | some v => exact h name v hshows (Fields.mem_of_get?_eq_some hget)

theorem Record.Shown.set {r : Record} (h : r.Shown P) {name : String} {v : Json}
    (hv : Line.shows name = true → P v) : (r.set name v).Shown P := by
  intro n w hshows hmem
  rcases Fields.eq_or_mem_of_mem_set hmem with heq | hold
  · cases heq
    exact hv hshows
  · exact h n w hshows hold

namespace Line

theorem forall_mem_addTrace {r : Record} {source entry : String} {entries : Fields Json}
    (hv : P (r.get source)) (h : ∀ f ∈ entries, P f.2) :
    ∀ f ∈ addTrace r source entry entries, P f.2 := by
  intro f hf
  rw [addTrace] at hf
  split at hf
  · rcases Fields.eq_or_mem_of_mem_set hf with rfl | hold
    · exact hv
    · exact h f hold
  · exact h f hf

theorem forall_mem_addReport {r : Record} {entries complete : Fields Json}
    (hreport : addReport r entries = .ok complete) (htext : ∀ s, P (.text s))
    (h : ∀ f ∈ entries, P f.2) : ∀ f ∈ complete, P f.2 := by
  intro f hf
  rw [addReport] at hreport
  split at hreport
  · cases hparts : reportText r with
    | ok text =>
      rw [hparts] at hreport
      cases hreport
      rcases Fields.eq_or_mem_of_mem_set hf with rfl | hold
      · exact htext text
      · exact h f hold
    | error reason =>
      rw [hparts] at hreport
      cases hreport
  · cases hreport
    exact h f hf

/-- What holds of texts, of the attributes shown and of the entries of the message holds of all
values in a line. -/
theorem forall_mem_fields {r : Record} {fs : Fields Json} (h : fields r = .ok fs)
    (hnull : P .null) (htext : ∀ s, P (.text s)) (hr : r.Shown P)
    (hmsg : ∀ table, r.get "msg" = .object table → ∀ f ∈ table, P f.2) : ∀ f ∈ fs, P f.2 := by
  obtain ⟨text, entries, time, complete, hcontents, -, hreport, rfl⟩ := fields_eq_ok_iff.1 h
  have hentries : ∀ f ∈ entries, P f.2 := fun f hf => hmsg entries (mem_contents hcontents hf) f hf
  have hcomplete := forall_mem_addReport hreport htext hentries
  have hstack : P (r.get "stack_info") := hr.get hnull (by decide)
  have htrace : P (r.get "exc_text") := hr.get hnull (by decide)
  rw [assemble]
  refine Fields.forall_mem_merge (Fields.forall_mem_merge ?_ ?_) ?_
  · intro f hf
    obtain ⟨name, hname, rfl⟩ := List.mem_map.1 hf
    have hshows : ∀ name ∈ requiredNames, shows name = true := by decide
    have hset : ((r.set "message" (.text text)).set "asctime" (.text time)).Shown P :=
      (hr.set fun _ => htext text).set fun _ => htext time
    exact hset.get hnull (hshows name hname)
  · intro f hf
    obtain ⟨g, hg, rfl⟩ := List.mem_map.1 hf
    exact forall_mem_addTrace hstack (forall_mem_addTrace htrace hcomplete) g hg
  · intro f hf
    obtain ⟨hmem, hskips⟩ := List.mem_filter.1 hf
    exact hr f.1 f.2 (by rw [shows, hskips, Bool.or_true]) hmem

end Line

theorem Call.shown_record {call : Call} {now : Moment} {r : Record} (hr : call.record now = .ok r)
    (hnull : P .null) (htext : ∀ s, P (.text s)) (hextras : ∀ f ∈ call.extras, P f.2) :
    r.Shown P := by
  obtain ⟨-, rfl⟩ := Record.addExtras_eq_ok_iff.1 hr
  have hextra : ∀ f ∈ call.extras, Line.shows f.1 = true → P f.2 := fun f hf _ => hextras f hf
  have hidden {name : String} {v : Json} (h : Line.shows name = false) :
      Line.shows name = true → P v := by
    rw [h]
    exact fun hshows => absurd hshows Bool.false_ne_true
  suffices hmake : (Record.make (.text call.logger) (.int call.severity)
      (.text (severityName call.severity)) call.message call.arguments call.report call.stack
      now).Shown P by
    intro name v hshows hmem
    exact Fields.forall_mem_merge (fun f hf hs => hmake f.1 f.2 hs hf) hextra (name, v) hmem hshows
  have hstamped : Line.shows "created" = false ∧ Line.shows "msecs" = false := by decide
  refine Record.Shown.set (Record.Shown.set ?_ (hidden hstamped.1)) (hidden hstamped.2)
  intro name v hshows hmem
  obtain ⟨n, -, heq⟩ := List.mem_map.1 hmem
  obtain ⟨rfl, rfl⟩ := Prod.mk.inj heq
  -- the standard attributes are those that are known of the call; the others hold nothing
  refine Record.Shown.get (r := ⟨_, now, true, true⟩) ?_ hnull hshows
  have hknown : ∀ name ∈ ["msg", "args", "levelno"], Line.shows name = false := by decide
  have hmaybe (text : Option String) : P ((text.map Json.text).getD .null) := by
    cases text with
    | none => exact hnull
    | some text => exact htext text
  intro name v hshows hmem
  simp only [List.mem_cons, Prod.mk.injEq, List.not_mem_nil, or_false] at hmem
  rcases hmem with ⟨-, rfl⟩ | ⟨rfl, -⟩ | ⟨rfl, -⟩ | ⟨-, rfl⟩ | ⟨rfl, -⟩ | ⟨-, rfl⟩ | ⟨-, rfl⟩
  · exact htext _
  · exact hidden (hknown "msg" (by decide)) hshows
  · exact hidden (hknown "args" (by decide)) hshows
  · exact htext _
  · exact hidden (hknown "levelno" (by decide)) hshows
  · exact hmaybe call.report
  · exact hmaybe call.stack

namespace Filter

theorem shown_complete {service : Json} {source : CorrelationSource} {current : Json} {r : Record}
    (hnull : P .null) (htext : ∀ s, P (.text s)) (hservice : P service)
    (hidentifier : P (source.identifier current)) (hr : r.Shown P) :
    (complete service source current r).Shown P := by
  have hcorrelate : (correlate service source current r).Shown P := by
    rw [correlate]
    refine (hr.set fun hshows => ?_).set fun _ => hservice
    split
    · exact hr.get hnull hshows
    · exact hidentifier
  intro name v hshows hmem
  obtain ⟨⟨n, w⟩, hold, heq⟩ := List.mem_map.1 hmem
  obtain ⟨rfl, rfl⟩ := Prod.mk.inj heq
  split
  · exact htext _
  · exact hcorrelate n w hshows hold

end Filter

theorem Line.forall_mem_fields_complete {call : Call} {now : Moment} {r : Record}
    (hr : call.record now = .ok r) {service : Json} {source : CorrelationSource} {current : Json}
    {fs : Fields Json} (h : fields (Filter.complete service source current r) = .ok fs)
    (hnull : P .null) (htext : ∀ s, P (.text s)) (hservice : P service)
    (hidentifier : P (source.identifier current))
    (hmessage : ∀ table, call.message = .object table → ∀ f ∈ table, P f.2)
    (hextras : ∀ f ∈ call.extras, P f.2) : ∀ f ∈ fs, P f.2 := by
  have hshown := Filter.shown_complete hnull htext hservice hidentifier
    (Call.shown_record hr hnull htext hextras)
  refine forall_mem_fields h hnull htext hshown fun table hmsg => ?_
  rw [Filter.get_msg_complete, Call.get_msg_record hr] at hmsg
  exact hmessage table hmsg

end Values

/-- A line is not too long unless something that was given is. -/
theorem Line.isTooLong_fields {call : Call} {now : Moment} {r : Record}
    (hr : call.record now = .ok r) {service : Json} {source : CorrelationSource} {current : Json}
    {fs : Fields Json} (h : fields (Filter.complete service source current r) = .ok fs)
    (hservice : service.isTooLong = false)
    (hidentifier : (source.identifier current).isTooLong = false)
    (hmessage : call.message.isTooLong = false)
    (hextras : (Json.object call.extras).isTooLong = false) :
    (Json.object fs).isTooLong = false := by
  have hfields (fs : Fields Json) :
      (Json.object fs).isTooLong = false ↔ ∀ f ∈ fs, f.2.isTooLong = false := by
    rw [Json.isTooLong_object, List.any_eq_false]
    simp only [Bool.not_eq_true]
  rw [hfields]
  refine forall_mem_fields_complete (P := (·.isTooLong = false)) hr h rfl (fun _ => rfl) hservice
    hidentifier (fun table htable => ?_) ((hfields _).1 hextras)
  rw [htable] at hmessage
  exact (hfields table).1 hmessage

end Log
end PayloadCipher
