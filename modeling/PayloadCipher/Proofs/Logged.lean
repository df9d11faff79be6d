import PayloadCipher.Proofs.Startup

/-! What actions write. A line is written for one call, under the configuration, the identifier and
the clock of that moment. Creation and validation leave all three as they are, and the calls that
they make are of one form: a text, and extras among which there is no identifier. -/

namespace PayloadCipher

def Log.Call.identifier (call : Log.Call) : Json :=
  (Fields.get? call.extras.reverse "correlation_id").getD .null

/-- The second state has lines of calls of a kind beyond the first, and writes as the first does. -/
structure Service.Logged (calls : Log.Call → Prop) (s t : Service) : Prop where
  root : t.root = s.root
  correlation : t.correlation = s.correlation
  clock : t.clock = s.clock
  tokens : t.tokens = s.tokens
  lines : ∃ lines, t.written = s.written ++ lines ∧ ∀ line ∈ lines, ∃ call emitted, calls call ∧
    s.root.log s.correlation.current s.clock call = .ok emitted ∧ line ∈ emitted

namespace Service.Logged

variable {calls : Log.Call → Prop} {s t u : Service}

theorem of_written_eq (root : t.root = s.root) (correlation : t.correlation = s.correlation)
    (clock : t.clock = s.clock) (tokens : t.tokens = s.tokens) (written : t.written = s.written) :
    s.Logged calls t :=
  ⟨root, correlation, clock, tokens, [], by rw [written, List.append_nil], by simp⟩

theorem refl : s.Logged calls s := of_written_eq rfl rfl rfl rfl rfl

theorem trans (h : s.Logged calls t) (h' : t.Logged calls u) : s.Logged calls u where
  root := h'.root.trans h.root
  correlation := h'.correlation.trans h.correlation
  clock := h'.clock.trans h.clock
  tokens := h'.tokens.trans h.tokens
  lines := by
    obtain ⟨lines, hwritten, hlines⟩ := h.lines
    obtain ⟨more, hwritten', hmore⟩ := h'.lines
    refine ⟨lines ++ more, by rw [hwritten', hwritten, List.append_assoc], fun line hline => ?_⟩
    rcases List.mem_append.1 hline with hline | hline
    · exact hlines line hline
    · rw [h.root, h.correlation, h.clock] at hmore
      exact hmore line hline

end Service.Logged

/-- All that the action writes is for calls of a kind, whether it fails or not. -/
def Action.Logs {α : Type} (calls : Log.Call → Prop) (a : Action α) : Prop :=
  ∀ s : Service, s.Logged calls (a s).2

namespace Action.Logs
open Service

variable {α β : Type} {calls : Log.Call → Prop}

theorem still {a : Action α} (h : a.Still) : a.Logs calls := by
  intro s
  rw [h]
  exact .refl

theorem pure (a : α) : (Pure.pure a : Action α).Logs calls := still fun _ => rfl

theorem fail (fault : Fault) : (Action.fail fault : Action α).Logs calls := still fun _ => rfl

theorem ofExcept (result : Except Fault α) : (Action.ofExcept result).Logs calls :=
  still fun _ => rfl

theorem ask (view : Service → α) : (Action.ask view).Logs calls := still fun _ => rfl

theorem bind {a : Action α} {f : α → Action β} (ha : a.Logs calls) (hf : ∀ x, (f x).Logs calls) :
    (a >>= f).Logs calls :=
  bind_relates .trans ha hf

theorem bind_ofExcept {result : Except Fault α} {f : α → Action β}
    (h : ∀ a, result = .ok a → (f a).Logs calls) : (Action.ofExcept result >>= f).Logs calls := by
  cases result with
  | ok a => exact h a rfl
  | error fault => exact .still fun _ => rfl

theorem ite {c : Prop} [Decidable c] {a b : Action α} (ha : a.Logs calls) (hb : b.Logs calls) :
    (if c then a else b).Logs calls := by
  split
  · exact ha
  · exact hb

theorem log {call : Log.Call} (h : calls call) : (Service.log call).Logs calls := by
  intro s
  rw [Service.log]
  split
  case h_1 lines hlines =>
    exact ⟨rfl, rfl, rfl, rfl, lines, rfl, fun line hline => ⟨call, lines, h, hlines, hline⟩⟩
  case h_2 => exact .refl

end Action.Logs

namespace Service
open PayloadCipher.Action (Logs)

def OwnCall (call : Log.Call) : Prop :=
  call.identifier = .null ∧ ∃ text, call.message = .text text

theorem ownCall_outcomeCall (deployment : Deployment) (entries : List String) :
    OwnCall (outcomeCall deployment entries) := by
  rw [outcomeCall]
  split
  · exact ⟨rfl, _, rfl⟩
  · exact ⟨rfl, _, rfl⟩

theorem ownCall_announcement {product : Value} {extras : Fields Json}
    (h : announcementOf product = .ok extras) (logger : String) (severity : Int) (text : String) :
    OwnCall { logger, severity, message := .text text, extras } := by
  obtain ⟨algorithm, decryption, signature, -, -, -, rfl⟩ := announcementOf_eq_ok_iff.1 h
  refine ⟨?_, text, rfl⟩
  rw [told]
  cases decryption <;> cases signature <;> rfl

theorem announce_logs (product : Value) : (announce product).Logs OwnCall := by
  refine .bind (.ask _) fun enabled => .ite (.bind_ofExcept fun extras h => ?_) (.pure _)
  exact .log (ownCall_announcement h _ _ _)

theorem selectedAlgorithm_logs (algorithm : Json) : (selectedAlgorithm algorithm).Logs OwnCall :=
  .ite (.pure _) (.bind (fun _ => .of_written_eq rfl rfl rfl rfl rfl) fun _ => .pure _)

theorem create_logs (key : Value) (algorithm : Json) : (create key algorithm).Logs OwnCall :=
  .bind (selectedAlgorithm_logs algorithm) fun _ => .bind (.ask _) fun _ =>
    .bind (.ofExcept _) fun _ => .bind (fun _ => .of_written_eq rfl rfl rfl rfl rfl) fun product =>
      .bind (announce_logs product) fun _ => .pure _

theorem report_logs (base : BaseSettings) (entries : List String) :
    (report base entries).Logs OwnCall :=
  .bind (.log (ownCall_outcomeCall _ entries)) fun _ => .ite (.fail _) (.pure _)

theorem validateSettings_logs : validateSettings.Logs OwnCall :=
  .bind (fun _ => .of_written_eq rfl rfl rfl rfl rfl) fun _ =>
    .bind (fun _ => .of_written_eq rfl rfl rfl rfl rfl) fun _ =>
      .bind (.ask _) fun _ => report_logs _ _

end Service
end PayloadCipher
