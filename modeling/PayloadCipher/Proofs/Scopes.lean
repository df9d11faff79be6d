import PayloadCipher.Proofs.Change

/-! Correlation scopes in programs of any shape. A scope hands the identifier in force to its body, and
when it is left, be it at its end or by a fault that passes through it, what was in force before is
in force again. Tokens that are reset in reverse order restore the same way. -/

namespace PayloadCipher

/-- Programs of operations, with scopes around parts of them. What they do next may hang on anything
they see. A fault ends all that it comes out of, up to the handler of an `attempt`. -/
inductive Program where
  | done
  | raise (fault : Fault)
  | perform (op : Operation)
  | look (view : Service → Json) (next : Json → Program)
  | andThen (first second : Program)
  | scope (identifier : Json) (body : Json → Program)
  | attempt (body : Program) (handler : Fault → Program)

structure Passage where
  given : Json
  /-- Just before it was entered. -/
  before : Correlation
  /-- The identifier that its body was handed. -/
  handed : Json
  /-- When its body began. -/
  inside : Correlation
  /-- When it had been left. -/
  after : Correlation

/-- The identifier of a scope is the one it was given, or the next one from the supply if that is
null or empty. It is handed out and in force inside, and what was in force before is so again
afterwards. -/
structure Passage.Restoring (fresh : Nat → String) (p : Passage) : Prop where
  handed_eq : p.handed =
    if p.given.isTruthy then p.given else .text (fresh p.before.generated)
  current_inside : p.inside.current = p.handed
  generated_inside : p.inside.generated =
    p.before.generated + if p.given.isTruthy then 0 else 1
  current_after : p.after.current = p.before.current

theorem Correlation.current_bind (fresh : Nat → String) (identifier : Json) (c : Correlation) :
    (c.bind fresh identifier).2.current =
      if identifier.isTruthy then identifier else .text (fresh c.generated) := by
  unfold bind
  split <;> rfl

theorem Correlation.generated_bind (fresh : Nat → String) (identifier : Json) (c : Correlation) :
    (c.bind fresh identifier).2.generated =
      c.generated + if identifier.isTruthy then 0 else 1 := by
  unfold bind
  split <;> rfl

namespace Service

def entrance (identifier : Json) (s : Service) : Except Fault (Json × Service) :=
  (withCorrelation identifier (fun value t => (.ok (value, t), t)) s).1

def bound (identifier : Json) (s : Service) : Service :=
  { s with correlation := (s.correlation.bind s.supply.identifier identifier).2 }

theorem entrance_eq (identifier : Json) (s : Service) :
    entrance identifier s = .ok ((bound identifier s).correlation.current, bound identifier s) := rfl

theorem leadsTo_bound (identifier : Json) (s : Service) : s.LeadsTo (bound identifier s) :=
  .single (.correlation s _)

def passage (identifier : Json) (s : Service) (value : Json) (inside after : Service) : Passage :=
  ⟨identifier, s.correlation, value, inside.correlation, after.correlation⟩

theorem restoring_passage {identifier value : Json} {s inside after : Service}
    (hentrance : entrance identifier s = .ok (value, inside))
    (hafter : after.correlation.current = s.correlation.current) :
    (passage identifier s value inside after).Restoring s.supply.identifier := by
  rw [entrance_eq] at hentrance
  cases hentrance
  exact
    { handed_eq := Correlation.current_bind _ _ _
      current_inside := rfl
      generated_inside := Correlation.generated_bind _ _ _
      current_after := hafter }

theorem LeadsTo.supply_eq {s t : Service} (h : s.LeadsTo t) : t.supply = s.supply := by
  refine h.keeps (P := fun t => t.supply = s.supply) (fun u v change hu => ?_) rfl
  cases change <;> exact hu

end Service

namespace Operation
open Service

-- The scopes of an operation are those of the operations in it, the inner ones first.
mutual
def passages : Operation → Service → List Passage
  | .scope arguments steps fault, s =>
    match Correlation.argument scopeName arguments with
    | .ok identifier =>
      match entrance identifier s with
      | .ok (value, inside) =>
        passagesAll steps inside ++
          [passage identifier s value inside (perform (.scope arguments steps fault) s).2]
      | .error _ => []
    | .error _ => []
  | .session steps, s => passagesAll steps s
  | _, _ => []

def passagesAll : List Operation → Service → List Passage
  | [], _ => []
  | op :: ops, s => op.passages s ++ passagesAll ops (perform op s).2
end

theorem current_perform_scope (arguments : List Json) (steps : List Operation)
    (fault : Option Fault) (s : Service) :
    (perform (.scope arguments steps fault) s).2.correlation.current = s.correlation.current := by
  rw [perform]
  cases Correlation.argument scopeName arguments with
  | error fault => rfl
  | ok identifier =>
    rw [Action.ofExcept_ok_bind]
    generalize hbody : withCorrelation identifier _ = scope
    have hscope : (scope s).2.correlation.current = s.correlation.current := by
      rw [← hbody]
      exact current_withCorrelation identifier _ s
    cases hresult : scope s with
    | mk result t =>
      rw [hresult] at hscope
      cases result with
      | ok _ =>
        rw [Action.bind_of_ok hresult]
        exact hscope
      | error _ =>
        rw [Action.bind_of_error hresult]
        exact hscope

mutual
theorem restoring_of_mem_passages {supply : Supply} (op : Operation) (s : Service)
    (hs : s.supply = supply) : ∀ p ∈ op.passages s, p.Restoring supply.identifier := by
  cases op with
  | scope arguments steps fault =>
    intro p hp
    rw [passages] at hp
    split at hp
    case h_1 identifier _ =>
      have hinside : (bound identifier s).supply = supply :=
        (leadsTo_bound identifier s).supply_eq.trans hs
      rw [entrance_eq] at hp
      rcases List.mem_append.1 hp with hinner | hself
      · exact restoring_of_mem_passagesAll steps _ hinside p hinner
      · rw [List.mem_singleton.1 hself, ← hs]
        exact restoring_passage (entrance_eq identifier s)
          (current_perform_scope arguments steps fault s)
    case h_2 => cases hp
  | session steps =>
    rw [passages]
    exact restoring_of_mem_passagesAll steps s hs
  | _ => simp [passages]

theorem restoring_of_mem_passagesAll {supply : Supply} (ops : List Operation) (s : Service)
    (hs : s.supply = supply) : ∀ p ∈ passagesAll ops s, p.Restoring supply.identifier := by
  cases ops with
  | nil => simp [passagesAll]
  | cons op ops =>
    intro p hp
    rw [passagesAll, List.mem_append] at hp
    rcases hp with hfirst | hrest
    · exact restoring_of_mem_passages op s hs p hfirst
    · exact restoring_of_mem_passagesAll ops _ ((perform_steps op s).supply_eq.trans hs) p hrest
end

end Operation

namespace Program
open Service

def run : Program → Action Unit
  | done => pure ()
  | raise fault => Action.fail fault
  | perform op => do
    let _ ← Service.perform op
    return ()
  | look view next => fun s => run (next (view s)) s
  | andThen first second => do
    run first
    run second
  | scope identifier body => withCorrelation identifier fun value => run (body value)
  | attempt body handler => fun s =>
    match run body s with
    | (.ok _, t) => (.ok (), t)
    | (.error fault, t) => run (handler fault) t

def passages : Program → Service → List Passage
  | done, _ => []
  | raise _, _ => []
  | perform op, s => op.passages s
  | look view next, s => passages (next (view s)) s
  | andThen first second, s =>
    passages first s ++
      match run first s with
      | (.ok _, t) => passages second t
      | (.error _, _) => []
  | scope identifier body, s =>
    match entrance identifier s with
    | .ok (value, inside) =>
      passages (body value) inside ++
        [passage identifier s value inside (run (scope identifier body) s).2]
    | .error _ => []
  | attempt body handler, s =>
    passages body s ++
      match run body s with
      | (.ok _, _) => []
      | (.error fault, t) => passages (handler fault) t

theorem run_steps (p : Program) : (run p).Steps := by
  induction p with
  | done => exact .pure _
  | raise fault => exact .fail fault
  | perform op => exact .bind (perform_steps op) fun _ => .pure _
  | look view next ih => exact fun s => ih (view s) s
  | andThen first second hfirst hsecond => exact .bind hfirst fun _ => hsecond
  | scope identifier body ih => exact withCorrelation_steps identifier ih
  | attempt body handler hbody hhandler =>
    intro s
    have hs := hbody s
    simp only [run]
    split
    case h_1 hrun =>
      rw [hrun] at hs
      exact hs
    case h_2 fault t hrun =>
      rw [hrun] at hs
      exact hs.trans (hhandler fault t)

theorem restoring_of_mem_passages {supply : Supply} (p : Program) {s : Service}
    (hs : s.supply = supply) : ∀ e ∈ p.passages s, e.Restoring supply.identifier := by
  induction p generalizing s with
  | done => simp [passages]
  | raise fault => simp [passages]
  | perform op => exact Operation.restoring_of_mem_passages op s hs
  | look view next ih => exact ih (view s) hs
  | andThen first second hfirst hsecond =>
    intro e he
    rw [passages, List.mem_append] at he
    rcases he with he | he
    · exact hfirst hs e he
    · have hsupply := (run_steps first s).supply_eq.trans hs
      split at he
      case h_1 t hrun =>
        rw [hrun] at hsupply
        exact hsecond hsupply e he
      case h_2 => cases he
  | scope identifier body ih =>
    intro e he
    rw [passages, entrance_eq] at he
    rcases List.mem_append.1 he with he | he
    · exact ih _ ((leadsTo_bound identifier s).supply_eq.trans hs) e he
    · rw [List.mem_singleton.1 he, ← hs]
      exact restoring_passage (entrance_eq identifier s)
        (current_withCorrelation identifier _ s)
  | attempt body handler hbody hhandler =>
    intro e he
    rw [passages, List.mem_append] at he
    rcases he with he | he
    · exact hbody hs e he
    · have hsupply := (run_steps body s).supply_eq.trans hs
      split at he
      case h_1 => cases he
      case h_2 fault t hrun =>
        rw [hrun] at hsupply
        exact hhandler fault hsupply e he

end Program

namespace Service

theorem perform_bind (identifier : Option Json) (name : String) (s : Service) :
    perform (.bind identifier.toList name) s =
      (.ok (.view (bound (identifier.getD .null) s).correlation.current),
        { bound (identifier.getD .null) s with
          tokens := Fields.set name ⟨s.correlation.current, false⟩ s.tokens }) := by
  have hargument : Correlation.argument "bind_correlation_id" identifier.toList =
      .ok (identifier.getD .null) := by cases identifier <;> rfl
  have htoken (i : Json) : (s.correlation.bind s.supply.identifier i).1 =
      ⟨s.correlation.current, false⟩ := by
    unfold Correlation.bind
    split <;> rfl
  rw [perform, hargument, Action.ofExcept_ok_bind, ← htoken (identifier.getD .null)]
  rfl

theorem perform_reset {s : Service} {name : String} {previous : Json}
    (h : Fields.get? s.tokens name = some ⟨previous, false⟩) :
    perform (.reset name) s =
      (.ok (.view previous),
        { s with
          correlation := { s.correlation with current := previous }
          tokens := Fields.set name ⟨previous, true⟩ s.tokens }) := by
  have htoken : tokenOf name s = (.ok ⟨previous, false⟩, s) := by rw [tokenOf, h]
  rw [perform, Action.bind_of_ok htoken]
  rfl

/-- Identifiers that are bound one after the other, each under the name of its token, and the resets
of these tokens, the last one first. -/
def bracket (binds : List (Option Json × String)) : List Operation :=
  binds.map (fun b => .bind b.1.toList b.2) ++ binds.reverse.map fun b => .reset b.2

theorem bracket_cons (identifier : Option Json) (name : String)
    (binds : List (Option Json × String)) :
    bracket ((identifier, name) :: binds) =
      .bind identifier.toList name :: (bracket binds ++ [.reset name]) := by
  simp [bracket]

/-- Tokens of other names are not touched on the way, which is why the token of the first bind is
still there for the last reset. -/
theorem performAll_bracket {binds : List (Option Json × String)}
    (hnames : (binds.map Prod.snd).Nodup) (s : Service) :
    let result := performAll (bracket binds) s
    (∀ answer ∈ result.1, ∃ reply, answer.result = .ok reply) ∧
    result.2.correlation.current = s.correlation.current ∧
    ∀ name ∉ binds.map Prod.snd, Fields.get? result.2.tokens name = Fields.get? s.tokens name := by
  induction binds generalizing s with
  | nil => simp [bracket, performAll]
  | cons b binds ih =>
    obtain ⟨identifier, name⟩ := b
    rw [List.map_cons, List.nodup_cons] at hnames
    generalize ht : (perform (.bind identifier.toList name) s).2 = t
    have htokens : t.tokens = Fields.set name ⟨s.correlation.current, false⟩ s.tokens := by
      rw [← ht, perform_bind]
    obtain ⟨hinner, -, hothers⟩ := ih hnames.2 t
    generalize hu : performAll (bracket binds) t = inner at hinner hothers
    have htoken : Fields.get? inner.2.tokens name = some ⟨s.correlation.current, false⟩ := by
      rw [hothers name hnames.1, htokens, Fields.get?_set, if_pos rfl]
    simp only [bracket_cons, performAll_cons, performAll_append, ht, hu]
    refine ⟨?_, ?_, ?_⟩
    · intro answer hanswer
      rw [List.mem_cons, List.mem_append] at hanswer
      rcases hanswer with rfl | hmem | hlast
      · exact ⟨_, by rw [answering, perform_bind]; rfl⟩
      · exact hinner answer hmem
      · rw [performAll, List.mem_singleton] at hlast
        exact ⟨_, by rw [hlast, answering, perform_reset htoken]; rfl⟩
    · rw [perform_reset htoken, performAll]
    · intro other hother
      rw [List.map_cons, List.mem_cons, not_or] at hother
      rw [perform_reset htoken, performAll, Fields.get?_set, if_neg (Ne.symm hother.1),
        hothers other hother.2, htokens, Fields.get?_set, if_neg (Ne.symm hother.1)]

/-- However a scope is left, the identifier that was in force before it is in force again, in every
run of every program. Identifiers that are bound one after the other are undone by the resets of
their tokens in reverse order. -/
theorem scopes_restore (p : Program) (s : Service) :
    (∀ e ∈ p.passages s, e.Restoring s.supply.identifier) ∧
    ∀ binds : List (Option Json × String), (binds.map Prod.snd).Nodup →
      let result := performAll (bracket binds) s
      (∀ answer ∈ result.1, ∃ reply, answer.result = .ok reply) ∧
      result.2.correlation.current = s.correlation.current := by
  refine ⟨p.restoring_of_mem_passages rfl, fun binds hnames => ?_⟩
  obtain ⟨hanswers, hcurrent, -⟩ := performAll_bracket hnames s
  exact ⟨hanswers, hcurrent⟩

def numberedSupply : Supply :=
  { constantSupply with identifier := fun n => "id-" ++ Decimal.integerText n }

def interruptedProgram : Program :=
  .attempt
    (.scope (.text "outer") fun _ =>
      .andThen (.perform (.bind [.text "leaked"] "t"))
        (.scope .null fun value =>
          .andThen (.perform (.bind [value] "u")) (.raise .missingPrivateKey)))
    fun _ => .done

theorem scopes_restore_interrupted :
    let s : Service :=
      { supply := numberedSupply, correlation := { current := .text "first", generated := 4 } }
    let binds := [(some (.text "a"), "t"), (none, "u"), (some (.text ""), "v")]
    (interruptedProgram.passages s).map (fun e => (e.before.current, e.handed)) =
      [(.text "leaked", .text "id-4"), (.text "first", .text "outer")] ∧
    (∀ e ∈ interruptedProgram.passages s, e.after.current = e.before.current) ∧
    (binds.map Prod.snd).Nodup ∧
    (performAll (bracket binds) s).2.correlation = { current := .text "first", generated := 6 } := by
  intro s binds
  have hnames : (binds.map Prod.snd).Nodup := by decide
  obtain ⟨hscopes, hbinds⟩ := scopes_restore interruptedProgram s
  obtain ⟨-, hcurrent⟩ := hbinds binds hnames
  have hcount : (performAll (bracket binds) s).2.correlation.generated = 6 := by decide +kernel
  refine ⟨by decide +kernel, fun e he => (hscopes e he).current_after, hnames, ?_⟩
  rw [← hcount]
  exact congrArg (Correlation.mk · _) hcurrent

end Service
end PayloadCipher
