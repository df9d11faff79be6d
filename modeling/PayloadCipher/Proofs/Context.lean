import PayloadCipher.Proofs.Logged
import PayloadCipher.Proofs.Request
import PayloadCipher.Proofs.Scopes

/-! What is in force along a program, told from the program alone: the scopes that are open, the
binds in them that were not reset, and the service that logging was last set up for. Resets come in
the reverse order of the binds of their scope. The state of the service agrees with this account at
every step. -/

namespace PayloadCipher

/-- The identifier of a scope, and the binds in it that are active, the latest first, each with the
name of its token. -/
structure Frame where
  scope : Json := .text ""
  binds : List (String × Json) := []

namespace Frame

def latest (scope : Json) (binds : List (String × Json)) : Json :=
  (binds.map Prod.snd).headD scope

def inForce (f : Frame) : Json := latest f.scope f.binds

def names (f : Frame) : List String := f.binds.map Prod.fst

def Held (tokens : Fields Token) (scope : Json) : List (String × Json) → Prop
  | [] => True
  | (name, _) :: rest =>
    Fields.get? tokens name = some ⟨latest scope rest, false⟩ ∧ Held tokens scope rest

theorem Held.set {tokens : Fields Token} {scope : Json} {binds : List (String × Json)}
    (h : Held tokens scope binds) {name : String} (hname : name ∉ binds.map Prod.fst)
    (token : Token) : Held (Fields.set name token tokens) scope binds := by
  induction binds with
  | nil => trivial
  | cons b rest ih =>
    obtain ⟨n, identifier⟩ := b
    rw [List.map_cons, List.mem_cons, not_or] at hname
    refine ⟨?_, ih h.2 hname.2⟩
    rw [Fields.get?_set, if_neg hname.1]
    exact h.1

end Frame

/-- The innermost scope and those around it, and the service that lines are attributed to. -/
structure Context where
  frame : Frame := {}
  outer : List Frame := []
  service : Option Json := none

def Service.chosen (identifier : Json) (s : Service) : Json :=
  if identifier.isTruthy then identifier else .text (s.supply.identifier s.correlation.generated)

namespace Context

def names (c : Context) : List String := (c.frame :: c.outer).flatMap Frame.names

def bind (c : Context) (name : String) (identifier : Json) : Context :=
  { c with frame := { c.frame with binds := (name, identifier) :: c.frame.binds } }

def reset (c : Context) : Context :=
  { c with frame := { c.frame with binds := c.frame.binds.tail } }

def enter (c : Context) (identifier : Json) : Context :=
  { c with frame := { scope := identifier }, outer := c.frame :: c.outer }

def after (c : Context) (op : Operation) (s : Service) : Context :=
  match op with
  | .bind arguments name =>
    match Correlation.argument "bind_correlation_id" arguments with
    | .ok identifier => c.bind name (s.chosen identifier)
    | .error _ => c
  | .reset _ => c.reset
  | .start => { c with service := some (.text (s.cache.readBase s.environment).1.serviceName) }
  | .configure _ service source =>
    match (Service.perform op s).1 with
    | .ok _ => { c with service := if source = .current then some service else none }
    | .error _ => c
  | _ => c

theorem outer_after (c : Context) (op : Operation) (s : Service) :
    (c.after op s).outer = c.outer := by
  cases op with
  | bind arguments name =>
    rw [after]
    split <;> rfl
  | configure level service source =>
    rw [after]
    split <;> rfl
  | _ => rfl

/-- A bind takes a name for its token that no active bind uses, and a reset undoes the latest bind
of its scope. Scopes are parts of programs and not operations in them. -/
def admits (c : Context) : Operation → Bool
  | .log .. | .create .. | .validate | .start | .configure .. => true
  | .bind _ name => !c.names.contains name
  | .reset name => c.frame.names.head? == some name
  | _ => false

/-- The state of a service agrees with a context. -/
structure Tracks (c : Context) (s : Service) : Prop where
  current : s.correlation.current = c.frame.inForce
  held : ∀ f ∈ c.frame :: c.outer, Frame.Held s.tokens f.scope f.binds
  distinct : c.names.Nodup
  service : ∀ service, c.service = some service →
    ∃ level, s.root = Log.Root.configured level service .current

end Context

def Operation.Calls : Operation → Log.Call → Prop
  | .log _ _ message _ extras _ _ => fun call => call.message = message ∧ call.extras = extras
  | .create .. | .validate | .start => Service.OwnCall
  | _ => fun _ => False

namespace Service
open PayloadCipher.Action (Logs)

theorem perform_log_logs (logger severity message : Json) (arguments : List Json)
    (extras : Fields Json) (report stack : Option String) :
    (perform (.log logger severity message arguments extras report stack)).Logs
      (Operation.log logger severity message arguments extras report stack).Calls := by
  rw [perform]
  refine .bind (.ofExcept _) fun logger => ?_
  cases Log.Root.severity? severity with
  | some severity => exact .bind (.log ⟨rfl, rfl⟩) fun _ => .pure _
  | none => exact .pure _

theorem perform_create_logs (key : Argument) (algorithm : Json) (name : String) :
    (perform (.create key algorithm name)).Logs OwnCall := by
  rw [perform]
  have hname (v : Value) (serial : Option Nat) : (nameValue name v serial).Logs OwnCall :=
    fun _ => .of_written_eq rfl rfl rfl rfl rfl
  refine .bind (.still (resolve_still key)) fun _ => .bind (create_logs _ _) fun _ =>
    .bind (.ask _) fun _ => .ite ?_ ?_
  · exact .bind (.still (serialOf_still key)) fun _ => .bind (hname _ _) fun _ => .pure _
  · exact .bind (.pure _) fun _ => .bind (hname _ _) fun _ => .pure _

end Service

namespace Context.Tracks
open Service

variable {c : Context} {s t : Service}

theorem replace (h : c.Tracks s) {service : Option Json}
    (current : t.correlation.current = s.correlation.current) (tokens : t.tokens = s.tokens)
    (root : ∀ name, service = some name →
      ∃ level, t.root = Log.Root.configured level name .current) :
    { c with service := service }.Tracks t where
  current := current.trans h.current
  held := tokens ▸ h.held
  distinct := h.distinct
  service := root

theorem of_logged {calls : Log.Call → Prop} (h : c.Tracks s) (hlogged : s.Logged calls t) :
    c.Tracks t :=
  h.replace (by rw [hlogged.correlation]) hlogged.tokens (by rw [hlogged.root]; exact h.service)

theorem not_mem_names {f : Frame} (hf : f ∈ c.frame :: c.outer) {name : String}
    (hname : name ∉ c.names) : name ∉ f.names :=
  fun hmem => hname (List.mem_flatMap.2 ⟨f, hf, hmem⟩)

theorem bind (h : c.Tracks s) {name : String} (hname : name ∉ c.names) (identifier : Json) :
    (c.bind name (s.chosen identifier)).Tracks { bound identifier s with
      tokens := Fields.set name ⟨s.correlation.current, false⟩ s.tokens } where
  current := Correlation.current_bind _ _ _
  held := by
    have hold : ∀ f ∈ c.frame :: c.outer, Frame.Held
        (Fields.set name ⟨s.correlation.current, false⟩ s.tokens) f.scope f.binds :=
      fun f hf => (h.held f hf).set (not_mem_names hf hname) _
    rw [List.forall_mem_cons] at hold
    refine List.forall_mem_cons.2 ⟨⟨?_, hold.1⟩, hold.2⟩
    rw [Fields.get?_set, if_pos rfl, h.current]
    rfl
  distinct := List.nodup_cons.2 ⟨hname, h.distinct⟩
  service := h.service

theorem token_latest (h : c.Tracks s) {name : String} (hname : c.frame.names.head? = some name) :
    Fields.get? s.tokens name = some ⟨c.reset.frame.inForce, false⟩ := by
  obtain ⟨⟨scope, binds⟩, outer, service⟩ := c
  cases binds with
  | nil => cases hname
  | cons b rest =>
    obtain ⟨n, identifier⟩ := b
    obtain rfl : n = name := Option.some.inj hname
    exact (List.forall_mem_cons.1 h.held).1.1

theorem reset (h : c.Tracks s) {name : String} (hname : c.frame.names.head? = some name) :
    c.reset.Tracks (perform (.reset name) s).2 := by
  rw [perform_reset (h.token_latest hname)]
  obtain ⟨⟨scope, binds⟩, outer, service⟩ := c
  cases binds with
  | nil => cases hname
  | cons b rest =>
    obtain ⟨n, identifier⟩ := b
    obtain rfl : n = name := Option.some.inj hname
    have hheld := List.forall_mem_cons.1 h.held
    have hdistinct : n ∉ (Context.mk ⟨scope, rest⟩ outer service).names ∧
        (Context.mk ⟨scope, rest⟩ outer service).names.Nodup := List.nodup_cons.1 h.distinct
    exact
      { current := rfl
        held := List.forall_mem_cons.2
          ⟨hheld.1.2.set (not_mem_names List.mem_cons_self hdistinct.1) _, fun f hf =>
            (hheld.2 f hf).set (not_mem_names (List.mem_cons_of_mem _ hf) hdistinct.1) _⟩
        distinct := hdistinct.2
        service := h.service }

theorem enter (h : c.Tracks s) (identifier : Json) :
    (c.enter (s.chosen identifier)).Tracks (bound identifier s) where
  current := Correlation.current_bind _ _ _
  held := List.forall_mem_cons.2 ⟨trivial, h.held⟩
  distinct := h.distinct
  service := h.service

theorem leave (h : c.Tracks s) {inner : Context} (hinner : inner.Tracks t)
    (houter : inner.outer = c.frame :: c.outer) :
    { c with service := inner.service }.Tracks
      { t with correlation := { t.correlation with current := s.correlation.current } } where
  current := h.current
  held := by
    have hheld := hinner.held
    rw [houter] at hheld
    exact (List.forall_mem_cons.1 hheld).2
  distinct := h.distinct
  service := hinner.service

theorem exists_toList_of_argument {callee : String} {arguments : List Json} {identifier : Json}
    (h : Correlation.argument callee arguments = .ok identifier) :
    ∃ given : Option Json, arguments = given.toList ∧ identifier = given.getD .null := by
  match arguments with
  | [] =>
    cases h
    exact ⟨none, rfl, rfl⟩
  | [_] =>
    cases h
    exact ⟨some _, rfl, rfl⟩
  | _ :: _ :: _ => cases h

theorem after (h : c.Tracks s) {op : Operation} (hadmits : c.admits op = true) :
    (c.after op s).Tracks (perform op s).2 := by
  cases op with
  | log logger severity message arguments extras report stack =>
    exact h.of_logged (perform_log_logs _ _ _ _ _ _ _ s)
  | create key algorithm name => exact h.of_logged (perform_create_logs key algorithm name s)
  | validate =>
    rw [snd_perform_validate]
    exact h.of_logged (validateSettings_logs s)
  | start =>
    rw [snd_perform_start, start_apply]
    have hprepared : (c.after .start s).Tracks s.prepared :=
      h.replace rfl rfl fun name hname => by
        obtain rfl := Option.some.inj hname
        exact ⟨_, rfl⟩
    exact hprepared.of_logged (report_logs _ _ s.prepared)
  | configure level service source =>
    rw [Context.after, perform_configure]
    cases level.textFor "upper" with
    | error fault => exact h
    | ok name =>
      dsimp only
      cases Log.Level.parse? name with
      | none => exact h
      | some l =>
        refine h.replace rfl rfl fun name hname => ⟨l, ?_⟩
        split at hname
        case isTrue hsource => rw [hsource, Option.some.inj hname]
        case isFalse => cases hname
  | bind arguments name =>
    rw [admits, Bool.not_eq_true', List.contains_eq_mem, decide_eq_false_iff_not] at hadmits
    cases hargument : Correlation.argument "bind_correlation_id" arguments with
    | error fault =>
      rw [Context.after, hargument, perform, hargument, Action.ofExcept_error_bind]
      exact h
    | ok identifier =>
      obtain ⟨given, rfl, rfl⟩ := exists_toList_of_argument hargument
      rw [Context.after, hargument, perform_bind]
      exact h.bind hadmits _
  | reset name => exact h.reset (beq_iff_eq.1 hadmits)
  | _ => cases hadmits

end Context.Tracks

structure Step where
  op : Operation
  before : Service
  context : Context

namespace Step

def after (e : Step) : Context := e.context.after e.op e.before

def lines (e : Step) : List String :=
  (Service.perform e.op e.before).2.written.drop e.before.written.length

end Step

theorem Service.LeadsTo.written_extends {s t : Service} (h : s.LeadsTo t) :
    s.written <+: t.written := by
  refine h.keeps (P := fun t => s.written <+: t.written) (fun u v change hu => ?_) List.prefix_rfl
  cases change with
  | write lines => exact hu.trans (List.prefix_append u.written lines)
  | _ => exact hu

namespace Program
open Service

/-- The operations that a run performs, in their order, and the context at its end. A scope gives
the context of its binds back, whatever was bound inside. -/
def trace : Program → Service → Context → List Step × Context
  | done, _, c | raise _, _, c => ([], c)
  | perform op, s, c => ([⟨op, s, c⟩], c.after op s)
  | look view next, s, c => trace (next (view s)) s c
  | andThen first second, s, c =>
    match run first s with
    | (.ok _, t) =>
      let rest := trace second t (trace first s c).2
      ((trace first s c).1 ++ rest.1, rest.2)
    | (.error _, _) => trace first s c
  | scope identifier body, s, c =>
    let inner := trace (body (bound identifier s).correlation.current) (bound identifier s)
      (c.enter (s.chosen identifier))
    (inner.1, { c with service := inner.2.service })
  | attempt body handler, s, c =>
    match run body s with
    | (.ok _, _) => trace body s c
    | (.error fault, t) =>
      let rest := trace (handler fault) t (trace body s c).2
      ((trace body s c).1 ++ rest.1, rest.2)

def steps (p : Program) (s : Service) : List Step := (p.trace s {}).1

theorem run_andThen (first second : Program) (s : Service) :
    run (andThen first second) s =
      match run first s with
      | (.ok _, t) => run second t
      | (.error fault, t) => (.error fault, t) := by
  rw [run]
  cases hrun : run first s with
  | mk result t =>
    cases result with
    | ok _ => exact Action.bind_of_ok hrun
    | error fault => exact Action.bind_of_error hrun

theorem run_attempt (body : Program) (handler : Fault → Program) (s : Service) :
    run (attempt body handler) s =
      match run body s with
      | (.ok _, t) => (.ok (), t)
      | (.error fault, t) => run (handler fault) t := by
  cases hrun : run body s with
  | mk result t => cases result <;> simp only [run, hrun]

theorem snd_run_scope (identifier : Json) (body : Json → Program) (s : Service) :
    (run (scope identifier body) s).2 =
      let t := (run (body (bound identifier s).correlation.current) (bound identifier s)).2
      { t with correlation := { t.correlation with current := s.correlation.current } } := by
  rw [← Correlation.previous_bind s.supply.identifier identifier s.correlation]
  rfl

theorem snd_run_perform (op : Operation) (s : Service) :
    (run (perform op) s).2 = (Service.perform op s).2 := by
  rw [run, Action.snd_bind_pure]

theorem written_run (p : Program) (s : Service) (c : Context) :
    (run p s).2.written = s.written ++ (p.trace s c).1.flatMap Step.lines := by
  induction p generalizing s c with
  | done => simp [run, trace]
  | raise fault => simp [run, trace]
  | perform op =>
    have hprefix := (perform_steps op s).written_extends
    rw [snd_run_perform, trace, List.flatMap_singleton, Step.lines,
      List.prefix_iff_eq_append.1 hprefix]
  | look view next ih => exact ih (view s) s c
  | andThen first second hfirst hsecond =>
    have hs := hfirst s c
    rw [trace, run_andThen]
    cases hrun : run first s with
    | mk result t =>
      rw [hrun] at hs
      dsimp only at hs
      cases result with
      | ok _ => simp only [hsecond t (trace first s c).2, hs, List.flatMap_append, List.append_assoc]
      | error fault => exact hs
  | scope identifier body ih => exact ih _ (bound identifier s) _
  | attempt body handler hbody hhandler =>
    have hs := hbody s c
    rw [trace, run_attempt]
    cases hrun : run body s with
    | mk result t =>
      rw [hrun] at hs
      dsimp only at hs
      cases result with
      | ok _ => exact hs
      | error fault =>
        simp only [hhandler fault t (trace body s c).2, hs, List.flatMap_append, List.append_assoc]

theorem outer_trace (p : Program) (s : Service) (c : Context) :
    (p.trace s c).2.outer = c.outer := by
  induction p generalizing s c with
  | done => rfl
  | raise fault => rfl
  | perform op => exact Context.outer_after c op s
  | look view next ih => exact ih (view s) s c
  | andThen first second hfirst hsecond =>
    rw [trace]
    split
    · exact (hsecond _ _).trans (hfirst s c)
    · exact hfirst s c
  | scope identifier body ih => rfl
  | attempt body handler hbody hhandler =>
    rw [trace]
    split
    · exact hbody s c
    · exact (hhandler _ _ _).trans (hbody s c)

/-- Along a run of operations that the context admits, the state agrees with the context before
every operation, and at the end. -/
theorem tracks_trace (p : Program) {s : Service} {c : Context} (h : c.Tracks s)
    (hadmits : ∀ e ∈ (p.trace s c).1, e.context.admits e.op = true) :
    (∀ e ∈ (p.trace s c).1, e.context.Tracks e.before) ∧ (p.trace s c).2.Tracks (run p s).2 := by
  induction p generalizing s c with
  | done => exact ⟨by simp [trace], h⟩
  | raise fault => exact ⟨by simp [trace], h⟩
  | perform op =>
    rw [trace, List.forall_mem_singleton] at hadmits
    rw [trace, List.forall_mem_singleton, snd_run_perform]
    exact ⟨h, h.after hadmits⟩
  | look view next ih => exact ih (view s) h hadmits
  | andThen first second hfirst hsecond =>
    rw [trace] at hadmits ⊢
    rw [run_andThen]
    cases hrun : run first s with
    | mk result t =>
      rw [hrun] at hadmits
      cases result with
      | ok _ =>
        obtain ⟨hadmits, hrest⟩ := List.forall_mem_append.1 hadmits
        obtain ⟨hsteps, hmiddle⟩ := hfirst h hadmits
        rw [hrun] at hmiddle
        obtain ⟨hmore, hend⟩ := hsecond hmiddle hrest
        exact ⟨List.forall_mem_append.2 ⟨hsteps, hmore⟩, hend⟩
      | error fault =>
        have hs := hfirst h hadmits
        rw [hrun] at hs
        exact hs
  | scope identifier body ih =>
    obtain ⟨hsteps, hend⟩ := ih _ (h.enter identifier) hadmits
    refine ⟨hsteps, ?_⟩
    rw [snd_run_scope]
    exact h.leave hend (outer_trace _ _ _)
  | attempt body handler hbody hhandler =>
    rw [trace] at hadmits ⊢
    rw [run_attempt]
    cases hrun : run body s with
    | mk result t =>
      rw [hrun] at hadmits
      cases result with
      | ok _ =>
        have hs := hbody h hadmits
        rw [hrun] at hs
        exact hs
      | error fault =>
        obtain ⟨hadmits, hrest⟩ := List.forall_mem_append.1 hadmits
        obtain ⟨hsteps, hmiddle⟩ := hbody h hadmits
        rw [hrun] at hmiddle
        obtain ⟨hmore, hend⟩ := hhandler fault hmiddle hrest
        exact ⟨List.forall_mem_append.2 ⟨hsteps, hmore⟩, hend⟩

end Program
end PayloadCipher
