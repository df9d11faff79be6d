import PayloadCipher.Proofs.Secrecy

/-! What the filters do to a record, and to nothing but that. Redaction goes through its names one by
one, in an order that no one promises. Unless it meets an entry that cannot be set, it comes to the
same as masking the attributes in their places, and so do several redactions, one after the other.
The correlation filter sets its two attributes. -/

namespace PayloadCipher

namespace Log

namespace Record

/-- A record has each attribute once, and arguments and reports are held only in attributes that it
has. -/
structure WellFormed (r : Record) : Prop where
  distinct : (Fields.names r.attributes).Nodup
  listed : r.listsArguments = true → "args" ∈ Fields.names r.attributes
  reported : r.holdsReport = true → "exc_info" ∈ Fields.names r.attributes

theorem WellFormed.set {r : Record} (h : r.WellFormed) (name : String) (v : Json) :
    (r.set name v).WellFormed where
  distinct := Fields.nodup_names_set h.distinct name v
  listed hlists := Fields.mem_names_set.2 (.inr (h.listed (Bool.and_eq_true_iff.1 hlists).1))
  reported hholds := Fields.mem_names_set.2 (.inr (h.reported (Bool.and_eq_true_iff.1 hholds).1))

theorem WellFormed.setAll {r : Record} (h : r.WellFormed) (attributes : Fields Json) :
    (attributes.foldl (fun r f => r.set f.1 f.2) r).WellFormed := by
  induction attributes generalizing r with
  | nil => exact h
  | cons f rest ih => exact ih (h.set f.1 f.2)

theorem WellFormed.stamp {r : Record} (h : r.WellFormed) (now : Moment) :
    (r.stamp now).WellFormed :=
  have hset := (h.set "created" (.float now.seconds)).set "msecs" (.float now.millis)
  ⟨hset.distinct, hset.listed, hset.reported⟩

theorem wellFormed_make (logger severity label message : Json) (arguments : List Json)
    (report stack : Option String) (now : Moment) :
    (make logger severity label message arguments report stack now).WellFormed := by
  have hnames (value : String → Json) :
      Fields.names (standardNames.map fun name => (name, value name)) = standardNames := by
    rw [Fields.names, List.map_map]
    exact List.map_id standardNames
  rw [make]
  refine WellFormed.stamp ⟨?_, fun _ => ?_, fun _ => ?_⟩ now
  · rw [hnames]
    decide
  · rw [hnames]
    decide
  · rw [hnames]
    decide

theorem wellFormed_compose {logger severity message : Json} {arguments : List Json}
    {attributes : Fields Json} {now : Instant} {r : Record}
    (h : compose logger severity message arguments attributes now = .ok r) : r.WellFormed := by
  rw [compose] at h
  cases hlabel : severityLabel severity with
  | error fault =>
    rw [hlabel] at h
    cases h
  | ok label =>
    rw [hlabel] at h
    cases hnow : now.moment with
    | error reason =>
      rw [hnow] at h
      cases h
    | ok now =>
      rw [hnow] at h
      cases h
      have hmade := wellFormed_make logger severity label message arguments none none now
      exact (hmade.setAll attributes).stamp now

theorem WellFormed.addExtras {r s : Record} (h : r.WellFormed) {extras : Fields Json}
    (hs : r.addExtras extras = .ok s) : s.WellFormed := by
  obtain ⟨-, rfl⟩ := addExtras_eq_ok_iff.1 hs
  exact ⟨Fields.nodup_names_merge h.distinct extras,
    fun hlists => Fields.mem_names_merge.2 (.inl (h.listed hlists)),
    fun hholds => Fields.mem_names_merge.2 (.inl (h.reported hholds))⟩

def others (names : List String) (r : Record) : Fields Json :=
  r.attributes.filter fun f => !names.contains f.1

theorem others_set {names : List String} {name : String} (h : name ∈ names) (v : Json)
    (r : Record) : (r.set name v).others names = r.others names := by
  have hfilter := Fields.filter_set (fun n => !names.contains n) name v r.attributes
  rw [List.contains_iff_mem.2 h, Bool.not_true, if_neg Bool.false_ne_true] at hfilter
  exact hfilter

theorem set_of_get? {r : Record} {name : String} {v : Json} (h : r.get? name = some v)
    (hargs : (name != "args") = true) (hinfo : (name != "exc_info") = true) :
    r.set name v = r := by
  rw [Record.set, Fields.set_of_get? h, hargs, hinfo, Bool.and_true, Bool.and_true]

theorem isSome_get?_iff {r : Record} {name : String} :
    (r.get? name).isSome = true ↔ name ∈ Fields.names r.attributes := by
  rw [← not_iff_not, Bool.not_eq_true, Option.isSome_eq_false_iff, Option.isNone_iff_eq_none, get?,
    Fields.get?_eq_none_iff]

end Record

theorem Call.wellFormed_record {call : Call} {now : Moment} {r : Record}
    (h : call.record now = .ok r) : r.WellFormed :=
  (Record.wellFormed_make _ _ _ _ _ _ _ _).addExtras h

namespace Filter

theorem redactNames_append (names more : List String) (r : Record) :
    redactNames (names ++ more) r = redactNames more (redactNames names r) := by
  have hshown (name : String) (v : Json) :
      shownAs more name (shownAs names name v) = shownAs (names ++ more) name v := by
    by_cases hname : name ∈ names <;> by_cases hmore : name ∈ more <;>
      simp [shownAs, hname, hmore]
  simp only [redactNames_eq, List.map_map, Function.comp_def, hshown]
  simp [Bool.and_assoc]

theorem redactNames_congr {names others : List String}
    (h : ∀ name, name ∈ names ↔ name ∈ others) (r : Record) :
    redactNames names r = redactNames others r := by
  have hcontains (name : String) : names.contains name = others.contains name := by
    rw [Bool.eq_iff_iff, List.contains_iff_mem, List.contains_iff_mem, h]
  simp only [redactNames, hcontains]

theorem wellFormed_redactNames {r : Record} (h : r.WellFormed) (names : List String) :
    (redactNames names r).WellFormed where
  distinct := by
    rw [names_redactNames]
    exact h.distinct
  listed hlists := by
    rw [names_redactNames]
    exact h.listed (Bool.and_eq_true_iff.1 hlists).1
  reported hholds := by
    rw [names_redactNames]
    exact h.reported (Bool.and_eq_true_iff.1 hholds).1

theorem wellFormed_correlate {r : Record} (h : r.WellFormed) (service : Json)
    (source : CorrelationSource) (current : Json) :
    (correlate service source current r).WellFormed :=
  (h.set "correlation_id" _).set "service" service

/-- None of the names is that of an entry of the record that cannot be set. -/
def Clear (names : List String) (r : Record) : Prop :=
  ∀ name ∈ names, name ∈ fixedEntries → name ∉ Fields.names r.attributes

theorem obstacle?_eq_none_iff {names : List String} {r : Record} :
    obstacle? names r = none ↔ Clear names r := by
  simp only [obstacle?, List.find?_eq_none, Bool.and_eq_true, List.contains_iff_mem,
    Record.isSome_get?_iff, not_and, Clear]

theorem mem_of_obstacle?_eq_some {names : List String} {r : Record} {name : String}
    (h : obstacle? names r = some name) :
    name ∈ names ∧ name ∈ fixedEntries ∧ name ∈ Fields.names r.attributes := by
  have hfound := List.find?_some h
  rw [Bool.and_eq_true, List.contains_iff_mem, Record.isSome_get?_iff] at hfound
  exact ⟨List.mem_of_find?_eq_some h, hfound⟩

theorem obstacle?_congr {r s : Record} (h : Fields.names r.attributes = Fields.names s.attributes)
    (names : List String) : obstacle? names r = obstacle? names s := by
  have hhas (name : String) : (r.get? name).isSome = (s.get? name).isSome := by
    rw [Bool.eq_iff_iff, Record.isSome_get?_iff, Record.isSome_get?_iff, h]
  simp only [obstacle?, hhas]

/-- Redaction as a walk through the names: each of them is masked if the record has it, until one
cannot be set. -/
def redactEach : List String → Record → Except Fault Record
  | [], r => .ok r
  | name :: order, r =>
    if name ∈ Fields.names r.attributes then
      if name ∈ fixedEntries then .error (.fixedEntry name)
      else redactEach order (r.set name redacted)
    else redactEach order r

theorem redactNames_singleton {r : Record} (h : r.WellFormed) (name : String) :
    redactNames [name] r =
      if name ∈ Fields.names r.attributes then r.set name redacted else r := by
  have hcontains (own : String) : [name].contains own = (name == own) := by
    rw [Bool.eq_iff_iff, List.contains_iff_mem, List.mem_singleton, beq_iff_eq, eq_comm]
  split
  case isTrue hname =>
    rw [redactNames_eq, Record.set, Fields.set_eq_map h.distinct hname, hcontains, hcontains]
    simp [shownAs, bne]
  case isFalse hname =>
    have hself : ∀ f ∈ r.attributes, (f.1, shownAs [name] f.1 f.2) = id f := by
      intro f hf
      have hne : f.1 ≠ name := by
        rintro rfl
        exact hname (Fields.mem_names_of_mem hf)
      simp [shownAs, hne]
    have hkept {flag : Bool} {own : String}
        (hflag : flag = true → own ∈ Fields.names r.attributes) :
        (flag && !([name].contains own)) = flag := by
      cases flag with
      | false => rfl
      | true =>
        have hne : name ≠ own := by
          rintro rfl
          exact hname (hflag rfl)
        simpa [hcontains] using Ne.symm hne
    rw [redactNames_eq, List.map_congr_left hself, List.map_id, hkept h.listed, hkept h.reported]

theorem redactEach_eq (order : List String) {r : Record} (h : r.WellFormed) (current : Json) :
    redactEach order r = apply current r (redact order) := by
  induction order generalizing r with
  | nil =>
    have hnone : obstacle? [] r = none := rfl
    rw [redactEach, apply, hnone]
    exact congrArg Except.ok (redactNames_eq_self (by simp) (by simp) (by simp)).symm
  | cons name order ih =>
    have hstep := redactNames_singleton h name
    have hrest := ih (wellFormed_redactNames h [name])
    have hsame := obstacle?_congr (names_redactNames [name] r) order
    rw [apply, hsame] at hrest
    rw [redactEach, apply, obstacle?, List.find?_cons, ← obstacle?]
    by_cases hhas : name ∈ Fields.names r.attributes
    · rw [if_pos hhas, Record.isSome_get?_iff.2 hhas, Bool.and_true]
      rw [if_pos hhas] at hstep
      by_cases hfixed : name ∈ fixedEntries
      · rw [if_pos hfixed, List.contains_iff_mem.2 hfixed]
      · have hcontains : fixedEntries.contains name = false := by simpa using hfixed
        rw [if_neg hfixed, hcontains, ← hstep, hrest]
        dsimp only
        rw [← redactNames_append, List.singleton_append]
    · have hnone : (r.get? name).isSome = false := by
        rw [← Bool.not_eq_true, Record.isSome_get?_iff]
        exact hhas
      rw [if_neg hhas, hnone, Bool.and_false]
      rw [if_neg hhas] at hstep
      rw [hstep] at hrest
      rw [hrest]
      dsimp only
      rw [← List.singleton_append, redactNames_append, hstep]

section Correlate

variable (service : Json) (source : CorrelationSource) (current : Json) (r : Record)

theorem others_correlate :
    (correlate service source current r).others ["correlation_id", "service"] =
      r.others ["correlation_id", "service"] := by
  have hid : "correlation_id" ∈ ["correlation_id", "service"] := by simp
  have hservice : "service" ∈ ["correlation_id", "service"] := by simp
  rw [correlate, Record.others_set hservice, Record.others_set hid]

theorem listsArguments_correlate :
    (correlate service source current r).listsArguments = r.listsArguments := by
  simp [correlate, Record.set]

theorem holdsReport_correlate :
    (correlate service source current r).holdsReport = r.holdsReport := by
  simp [correlate, Record.set]

theorem chosenIdentifier_correlate :
    chosenIdentifier source current (correlate service source current r) =
      chosenIdentifier source current r := by
  have hown : (correlate service source current r).get "correlation_id" =
      chosenIdentifier source current r := by
    rw [Record.get, get?_correlation_id_correlate, Option.getD_some]
  rw [chosenIdentifier, hown, chosenIdentifier]
  split_ifs <;> rfl

theorem correlate_correlate :
    correlate service source current (correlate service source current r) =
      correlate service source current r := by
  have hid := get?_correlation_id_correlate service source current r
  have hservice := get?_service_correlate service source current r
  rw [← chosenIdentifier_correlate service] at hid
  calc correlate service source current (correlate service source current r)
      = ((correlate service source current r).set "correlation_id" (chosenIdentifier source current
          (correlate service source current r))).set "service" service := rfl
    _ = (correlate service source current r).set "service" service := by
      rw [Record.set_of_get? hid (by decide) (by decide)]
    _ = correlate service source current r := Record.set_of_get? hservice (by decide) (by decide)

end Correlate

theorem clear_correlate {names : List String} {r : Record} (service : Json)
    (source : CorrelationSource) (current : Json) :
    Clear names (correlate service source current r) ↔ Clear names r := by
  have hother : ∀ name ∈ fixedEntries, name ≠ "correlation_id" ∧ name ≠ "service" := by decide
  have hmem {name : String} (hfixed : name ∈ fixedEntries) :
      name ∈ Fields.names (correlate service source current r).attributes ↔
        name ∈ Fields.names r.attributes := by
    simp [correlate, Record.set, Fields.mem_names_set, hother name hfixed]
  exact forall₂_congr fun name _ => forall_congr' fun hfixed => not_congr (hmem hfixed)

/-- Each filter keeps to its own attributes. Redaction masks those of its names that the record has,
in their places, in whatever order the names come, and redactions add up to the one by all their
names; but it fails for an entry that cannot be set. The correlation filter sets the identifier and
the service and leaves the other attributes as they are. Neither filter does anything a second time,
and which one comes first does not count unless the redaction masks what the other one sets. -/
theorem filters_keep_to_their_own {r : Record} (h : r.WellFormed) (names : List String)
    (service : Json) (source : CorrelationSource) (current : Json) :
    let masked := redactNames names r
    let identified := correlate service source current r
    let owned := ["correlation_id", "service"]
    (Fields.names masked.attributes = Fields.names r.attributes ∧ masked.moment = r.moment ∧
      ("args" ∉ names → masked.listsArguments = r.listsArguments) ∧
      ("exc_info" ∉ names → masked.holdsReport = r.holdsReport) ∧
      ∀ name, masked.get? name =
        (r.get? name).map fun v => if name ∈ names then .text "[REDACTED]" else v) ∧
    (∀ order : List String, (∀ name, name ∈ order ↔ name ∈ names) →
      redactEach order r = apply current r (.redact order) ∧
      (Clear names r → redactEach order r = .ok masked) ∧
      (¬ Clear names r → ∃ name ∈ names, name ∈ ["__class__", "__dict__", "__weakref__"] ∧
        name ∈ Fields.names r.attributes ∧ redactEach order r = .error (.fixedEntry name))) ∧
    (∀ more union : List String, (∀ name, name ∈ union ↔ name ∈ names ∨ name ∈ more) →
      redactNames more masked = redactNames union r ∧
      (Clear union r ↔ Clear names r ∧ Clear more masked)) ∧
    (apply current r (.correlation service source) = .ok identified ∧
      identified.others owned = r.others owned ∧ identified.moment = r.moment ∧
      identified.listsArguments = r.listsArguments ∧ identified.holdsReport = r.holdsReport ∧
      identified.get? "correlation_id" = some (chosenIdentifier source current r) ∧
      identified.get? "service" = some service) ∧
    (redactNames names masked = masked ∧ (Clear names masked ↔ Clear names r)) ∧
    correlate service source current identified = identified ∧
    ("correlation_id" ∉ names → "service" ∉ names →
      redactNames names identified = correlate service source current masked ∧
      (Clear names identified ↔ Clear names r)) := by
  intro masked identified owned
  have hnames : Fields.names masked.attributes = Fields.names r.attributes :=
    names_redactNames names r
  have hclear (others : List String) : Clear others masked ↔ Clear others r := by
    simp only [Clear, hnames]
  refine ⟨⟨hnames, rfl, fun hargs => ?_, fun hinfo => ?_, fun name => ?_⟩,
    fun order horder => ⟨redactEach_eq order h current, fun hnone => ?_, fun hsome => ?_⟩,
    fun more union hunion => ⟨?_, ?_⟩,
    ⟨rfl, others_correlate service source current r, rfl,
      listsArguments_correlate service source current r,
      holdsReport_correlate service source current r,
      get?_correlation_id_correlate service source current r,
      get?_service_correlate service source current r⟩,
    ⟨redactNames_redactNames names r, hclear names⟩,
    correlate_correlate service source current r, fun hid hservice =>
      ⟨redactNames_correlate hid hservice service source current r,
        clear_correlate service source current⟩⟩
  · simp [masked, redactNames, hargs]
  · simp [masked, redactNames, hinfo]
  · simp only [masked, get?_redactNames, List.contains_iff_mem, redacted]
  · have horderClear : Clear order r := fun name hname => hnone name ((horder name).1 hname)
    rw [redactEach_eq order h current, apply, obstacle?_eq_none_iff.2 horderClear,
      redactNames_congr horder]
  · have horderSome : obstacle? order r ≠ none := fun hnone =>
      hsome fun name hname => obstacle?_eq_none_iff.1 hnone name ((horder name).2 hname)
    obtain ⟨name, hname⟩ := Option.ne_none_iff_exists'.1 horderSome
    obtain ⟨hmem, hfixed, hhas⟩ := mem_of_obstacle?_eq_some hname
    refine ⟨name, (horder name).1 hmem, hfixed, hhas, ?_⟩
    rw [redactEach_eq order h current, apply, hname]
  · have happend : ∀ name, name ∈ union ↔ name ∈ names ++ more := by
      intro name
      rw [hunion, List.mem_append]
    rw [redactNames_congr happend, redactNames_append]
  · rw [hclear]
    simp only [Clear, hunion, or_imp, forall_and]

theorem filters_keep_to_their_own_message :
    let attributes : Fields Json :=
      [("plaintext", .text "secret"), ("correlation_id", .text ""), ("count", .int 1)]
    let names := ["plaintext", "absent", "msg"]
    ∃ r, Record.compose (.text "app") (.int 20) (.text "event") [] attributes {} = .ok r ∧
      r.WellFormed ∧
      redactEach ["msg", "plaintext", "absent"] r = .ok (redactNames names r) ∧
      redactNames ["count"] (redactNames names r) =
        redactNames ["count", "msg", "absent", "plaintext"] r ∧
      redactNames names (correlate (.text "envelope") .current (.text "here") r) =
        correlate (.text "envelope") .current (.text "here") (redactNames names r) ∧
      (redactNames names r).get? "msg" = some (.text "[REDACTED]") ∧
      (redactNames names r).get? "absent" = none := by
  intro attributes names
  obtain ⟨r, hr⟩ : ∃ r, Record.compose (.text "app") (.int 20) (.text "event") [] attributes {} =
      .ok r := ⟨_, rfl⟩
  have hmsg : r.get? "msg" = some (.text "event") := by
    cases hr
    rfl
  have habsent : r.get? "absent" = none := by
    cases hr
    rfl
  have horder : ∀ name, name ∈ ["msg", "plaintext", "absent"] ↔ name ∈ names := by
    simp [names, or_comm, or_left_comm]
  have hunion : ∀ name, name ∈ ["count", "msg", "absent", "plaintext"] ↔
      name ∈ names ∨ name ∈ ["count"] := by
    simp [names, or_comm, or_left_comm]
  have hfree : ∀ name ∈ names, name ∉ fixedEntries := by decide
  have hclear : Clear names r := fun name hname hfixed => absurd hfixed (hfree name hname)
  have hformed := Record.wellFormed_compose hr
  obtain ⟨⟨-, -, -, -, hget⟩, hloop, hredactions, -, -, -, hcommute⟩ :=
    filters_keep_to_their_own hformed names (.text "envelope") .current (.text "here")
  refine ⟨r, hr, hformed, (hloop _ horder).2.1 hclear, (hredactions _ _ hunion).1,
    (hcommute (by decide) (by decide)).1, ?_, ?_⟩
  · rw [hget, hmsg]
    rfl
  · rw [hget, habsent]
    rfl

/-- Redaction fails for a record with an entry that cannot be set. -/
theorem fixed_entry_refused :
    ∃ r, Record.compose (.text "app") (.int 20) (.text "event") [] [("__weakref__", .int 1)] {} =
        .ok r ∧ r.get? "__weakref__" = some (.int 1) ∧
      apply (.text "") r (.redact ["__weakref__"]) = .error (.fixedEntry "__weakref__") ∧
      (Fault.fixedEntry "__weakref__").kind = .member :=
  ⟨_, rfl, rfl, rfl, rfl⟩

end Filter
end Log
end PayloadCipher
