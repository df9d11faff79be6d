import PayloadCipher.Proofs.Redaction

/-! Two calls that differ only in what their extras hold under sensitive names. They are refused
alike or leave the same lines behind: all that is read from a record before it is redacted stands
under other names, and after that the two records are one. -/

namespace PayloadCipher

namespace Log

def shownAs (names : List String) (name : String) (v : Json) : Json :=
  if names.contains name then redacted else v

theorem shownAs_shownAs (names : List String) (name : String) (v : Json) :
    shownAs names name (shownAs names name v) = shownAs names name v := by
  unfold shownAs
  split <;> rfl

namespace Filter

theorem redactNames_eq (names : List String) (r : Record) :
    redactNames names r = { r with
      attributes := r.attributes.map fun f => (f.1, shownAs names f.1 f.2)
      listsArguments := r.listsArguments && !names.contains "args"
      holdsReport := r.holdsReport && !names.contains "exc_info" } := rfl

theorem redactNames_set (names : List String) (r : Record) (name : String) (v : Json) :
    redactNames names (r.set name v) =
      (redactNames names r).set name (shownAs names name v) := by
  simp only [redactNames_eq, Record.set]
  rw [Fields.map_set (shownAs names), Bool.and_right_comm, Bool.and_right_comm r.holdsReport]

theorem redactNames_redactNames (names : List String) (r : Record) :
    redactNames names (redactNames names r) = redactNames names r := by
  simp [redactNames_eq, shownAs_shownAs]

/-- Redaction may come before the correlation filter if it spares the two attributes of that one. -/
theorem redactNames_correlate {names : List String} (hid : "correlation_id" ∉ names)
    (hservice : "service" ∉ names) (service : Json) (source : CorrelationSource) (current : Json)
    (r : Record) :
    redactNames names (correlate service source current r) =
      correlate service source current (redactNames names r) := by
  have hown : (redactNames names r).get "correlation_id" = r.get "correlation_id" := by
    simp [Record.get, get?_redactNames, hid]
  simp only [correlate, redactNames_set, hown]
  simp [shownAs, hid, hservice]

theorem complete_redactNames (service : Json) (source : CorrelationSource) (current : Json)
    (r : Record) :
    complete service source current (redactNames sensitiveNames r) =
      complete service source current r := by
  have hid : "correlation_id" ∉ sensitiveNames := by decide
  have hservice : "service" ∉ sensitiveNames := by decide
  rw [complete, ← redactNames_correlate hid hservice, redactNames_redactNames, complete]

end Filter

/-- The same names in the same order, and the same values but for those of sensitive names. -/
def SameButSecrets (extras others : Fields Json) : Prop :=
  let secret := ["plaintext", "ciphertext", "private_key", "public_key", "key_material"]
  List.Forall₂ (fun f g => f.1 = g.1 ∧ (f.1 ∉ secret → f.2 = g.2)) extras others

theorem shownAs_eq_of_same {name : String} {v w : Json} (h : name ∉ sensitiveNames → v = w) :
    shownAs sensitiveNames name v = shownAs sensitiveNames name w := by
  by_cases hname : name ∈ sensitiveNames
  · simp [shownAs, hname]
  · rw [h hname]

/-- Records that redaction makes one stay so, extra by extra, and a reserved name is refused in
both. -/
theorem Record.addExtras_same {extras others : Fields Json} (h : SameButSecrets extras others)
    {r s : Record}
    (hrs : Filter.redactNames sensitiveNames r = Filter.redactNames sensitiveNames s) :
    (r.addExtras extras).map (Filter.redactNames sensitiveNames) =
      (s.addExtras others).map (Filter.redactNames sensitiveNames) := by
  unfold SameButSecrets at h
  induction h generalizing r s with
  | nil => exact congrArg Except.ok hrs
  | @cons f g _ _ hfg _ ih =>
    obtain ⟨name, v⟩ := f
    obtain ⟨other, w⟩ := g
    obtain ⟨hname, hvalue⟩ := hfg
    obtain rfl : name = other := hname
    simp only [addExtras]
    split
    case isTrue => rfl
    case isFalse =>
      apply ih
      rw [Filter.redactNames_set, Filter.redactNames_set, hrs, shownAs_eq_of_same hvalue]

namespace Root

def Regular (root : Root) : Prop := root = initial ∨ root.Configured

theorem Regular.emit_redactNames {root : Root} (h : root.Regular) (current : Json)
    (severity : Int) (r : Record) :
    root.emit current severity (Filter.redactNames sensitiveNames r) =
      root.emit current severity r := by
  rcases h with rfl | ⟨level, service, source, rfl⟩
  · have hspared : ∀ name ∈ ["getMessage", "msg", "args", "exc_info", "stack_info"],
        name ∉ sensitiveNames := by decide
    simp only [emit, initial, Filter.bareText_redactNames hspared]
  · rw [emit_configured, emit_configured, Filter.complete_redactNames]

theorem Regular.log_same {root : Root} (h : root.Regular) (current : Json) (clock : Instant)
    (call : Call) {others : Fields Json} (hextras : SameButSecrets call.extras others) :
    root.log current clock call = root.log current clock { call with extras := others } := by
  have hemit : root.emit current call.severity =
      root.emit current call.severity ∘ Filter.redactNames sensitiveNames :=
    funext fun r => (h.emit_redactNames current call.severity r).symm
  -- both records are redacted first, which changes nothing, and then they are the same
  have hcompose (result : Except Fault Record) :
      result.bind (root.emit current call.severity) =
        (result.map (Filter.redactNames sensitiveNames)).bind (root.emit current call.severity) := by
    rw [hemit]
    cases result with
    | ok r => simp [Except.map, Except.bind, Filter.redactNames_redactNames]
    | error fault => rfl
  have hrecord (now : Moment) : (call.record now).bind (root.emit current call.severity) =
      (({ call with extras := others } : Call).record now).bind
        (root.emit current call.severity) := by
    rw [hcompose, Call.record, Record.addExtras_same hextras rfl, ← hcompose]
    rfl
  simp only [log]
  cases clock.moment with
  | ok now => simp only [hrecord now]
  | error reason => rfl

end Root
end Log

namespace Service

theorem Change.root_regular {s t : Service} (h : Change s t) (hs : s.root.Regular) :
    t.root.Regular := by
  cases h with
  | configure level service source => exact .inr ⟨level, service, source, rfl⟩
  | _ => exact hs

/-- In every state that a service can come to, two calls answer alike and leave the service in the
same state if their extras differ only in what they hold under sensitive names. -/
theorem secrets_do_not_flow {supply : Supply} {vars : Variables} {s : Service}
    (hreach : ({ supply := supply, environment := vars } : Service).LeadsTo s)
    {extras others : Fields Json} (hextras : Log.SameButSecrets extras others)
    (logger severity message : Json) (arguments : List Json) (report stack : Option String) :
    let op := Operation.log logger severity message arguments extras report stack
    let other := Operation.log logger severity message arguments others report stack
    answering op (perform op) s = answering other (perform other) s := by
  intro op other
  have hroot : s.root.Regular := hreach.keeps (fun _ _ => Change.root_regular) (.inl rfl)
  have hlog (call : Log.Call) (hcall : call.extras = extras) :
      log call s = log { call with extras := others } s := by
    rw [log, log, hroot.log_same s.correlation.current s.clock call (hcall ▸ hextras)]
  have hperform : perform op s = perform other s := by
    simp only [op, other, perform]
    cases Log.Root.loggerName logger with
    | error fault => rfl
    | ok name =>
      rw [Action.ofExcept_ok_bind, Action.ofExcept_ok_bind]
      cases Log.Root.severity? severity with
      | none => rfl
      | some level =>
        show Action.andThen _ _ s = Action.andThen _ _ s
        simp only [Action.andThen]
        rw [hlog _ rfl]
  simp only [answering, hperform, op, other]

theorem secrets_do_not_flow_retyped :
    let start : Service := { supply := constantSupply }
    let s := (perform (.configure (.text "INFO") (.text "envelope") .nowhere) start).2
    let extras : Fields Json := [("plaintext", .text "first"), ("count", .int 1)]
    let others : Fields Json := [("plaintext", .array [.int 2, .null]), ("count", .int 1)]
    let op (extras : Fields Json) :=
      Operation.log (.text "app") (.int 20) (.object [("plaintext", .int 3)]) [] extras none none
    start.LeadsTo s ∧ Log.SameButSecrets extras others ∧
      answering (op extras) (perform (op extras)) s = answering (op others) (perform (op others)) s ∧
      (answering (op extras) (perform (op extras)) s).1.lines =
        ["\x7b\"asctime\": \"1970-01-01 00:00:00,000\", \"level\": \"INFO\", " ++
          "\"logger\": \"app\", \"message\": \"\", \"correlation_id\": \"\", " ++
          "\"service\": \"envelope\", \"plaintext\": \"[REDACTED]\", \"count\": 1\x7d"] := by
  intro start s extras others op
  have hreach : start.LeadsTo s := perform_steps _ start
  have hextras : Log.SameButSecrets extras others :=
    .cons ⟨rfl, fun h => absurd (by decide) h⟩ (.cons ⟨rfl, fun _ => rfl⟩ .nil)
  exact ⟨hreach, hextras, secrets_do_not_flow hreach hextras _ _ _ _ _ _, by decide +kernel⟩

end Service
end PayloadCipher
