import PayloadCipher.Proofs.Base64
import PayloadCipher.Proofs.Reading
import PayloadCipher.Proofs.Shape

/-! Lines cannot be forged and lose nothing. A line shows attributes of the record, entries of the
message and texts of its own. If there is no float among them, the line is printable ASCII, so that
no text in it ends the line or a string early, and it is read back as exactly its fields. -/

namespace PayloadCipher

theorem Base64.urlSafe_proper : urlSafe.Proper where
  length_symbols := by decide +kernel
  nodup := by decide +kernel
  sign_not_mem := by decide +kernel

namespace Log

theorem Line.isFloatFree_fields {call : Call} {now : Moment} {r : Record}
    (hr : call.record now = .ok r) {service : Json} {source : CorrelationSource} {current : Json}
    {fs : Fields Json} (h : fields (Filter.complete service source current r) = .ok fs)
    (hservice : service.isFloatFree = true)
    (hidentifier : (source.identifier current).isFloatFree = true)
    (hmessage : call.message.isFloatFree = true) (hextras : Json.holdNoFloat call.extras = true) :
    (Json.object fs).isFloatFree = true := by
  rw [Json.isFloatFree, Json.holdNoFloat_iff]
  refine forall_mem_fields_complete (P := (·.isFloatFree = true)) hr h rfl (fun _ => rfl) hservice
    hidentifier (fun table htable => ?_) (Json.holdNoFloat_iff.1 hextras)
  rw [htable, Json.isFloatFree, Json.holdNoFloat_iff] at hmessage
  exact hmessage

end Log

namespace Service

/-- Whatever is logged without floats, its line is printable ASCII throughout and is read back as
all that the call brings along, in order: the six fields of every line, the entries of the message
with its traces, and the extras, each name at its first place and with its last value. Texts, names
and integers come back as they were, and octets as base 64 texts that can be read in turn. -/
theorem lines_read_back {s : Service} {level : String} {service : Json}
    {source : Log.CorrelationSource}
    (hroot : Log.Root.configure level service source = .ok s.root) {call : Log.Call}
    (hservice : service.isFloatFree = true)
    (hidentifier : (source.identifier s.correlation.current).isFloatFree = true)
    (hmessage : call.message.isFloatFree = true)
    (hextras : Json.holdNoFloat call.extras = true) :
    (∃ lines, (log call s).2 = { s with written := s.written ++ lines } ∧
      ∀ line ∈ lines,
        (∀ c ∈ line.toList, 0x20 ≤ c.toNat ∧ c.toNat < 0x7f) ∧
        ∃ now time text fields, s.clock.moment = .ok now ∧ now.text = .ok time ∧
          call.lineText = .ok text ∧
          call.HasShape (call.lineHead text time
            (call.lineIdentifier source s.correlation.current) service) fields ∧
          Json.parse line = some (.object (Json.textualFields fields))) ∧
    ∀ b, Base64.decode? Base64.urlSafe (Base64.encode Base64.urlSafe b) = some b := by
  refine ⟨?_, Base64.decode?_encode Base64.urlSafe_proper⟩
  rw [Log.Root.configure] at hroot
  split at hroot
  case h_2 => cases hroot
  case h_1 l _ =>
    have hconfigured : s.root = Log.Root.configured l service source := (Except.ok.inj hroot).symm
    rw [log]
    cases hlog : s.root.log s.correlation.current s.clock call with
    | error fault => exact ⟨[], by simp, fun line hline => absurd hline List.not_mem_nil⟩
    | ok lines =>
      refine ⟨lines, rfl, fun line hline => ?_⟩
      rw [hconfigured] at hlog
      obtain ⟨now, r, time, text, fields, hnow, htime, hr, hfields, htext, rfl, hshape⟩ :=
        Log.Call.exists_shape_of_mem hlog hline
      have hfree := Log.Line.isFloatFree_fields hr hfields hservice hidentifier hmessage hextras
      refine ⟨?_, now, time, text, fields, hnow, htime, htext, hshape, ?_⟩
      · rw [Json.render, String.toList_ofList]
        exact Json.printable_write hfree
      · rw [Json.parse_render hfree, Json.textual]

def awkwardCall : Log.Call where
  logger := "app\n\"level\": \"x"
  severity := 30
  message := .object
    [("a\\\r\n", .array [.octets [0xff, 0xe0], .int (-12345678901234567890), .null]),
     ("😀", .text "\u007f\u0000\x7d, é 😀")]
  arguments := [.float .nan]
  extras := [("level", .object [("", .octets []), ("key", .bool true)]), ("plaintext", .int 5)]

theorem lines_read_back_awkward :
    let service := Json.text "env\"elope\n"
    let source := Log.CorrelationSource.constant (.octets [1, 2, 3, 4])
    let s : Service := { supply := constantSupply, root := Log.Root.configured .info service source }
    Log.Root.configure "info" service source = .ok s.root ∧
    awkwardCall.message.isFloatFree = true ∧ Json.holdNoFloat awkwardCall.extras = true ∧
      ∃ line fields, (log awkwardCall s).2.written = [line] ∧
        (∀ c ∈ line.toList, 0x20 ≤ c.toNat ∧ c.toNat < 0x7f) ∧
        Json.parse line = some (.object (Json.textualFields fields)) ∧
        Fields.names fields = ["asctime", "level", "logger", "message", "correlation_id", "service",
          "a\\\r\n", "😀", "plaintext"] ∧
        Fields.get? fields "a\\\r\n" =
          some (.array [.octets [0xff, 0xe0], .int (-12345678901234567890), .null]) ∧
        Fields.get? fields "level" =
          some (.object [("", .octets []), ("key", .bool true)]) := by
  intro service source s
  have hroot : Log.Root.configure "info" service source = .ok s.root := by
    have hlevel : Log.Level.parse? "info" = some .info := by decide +kernel
    rw [Log.Root.configure, hlevel]
  have hmessage : awkwardCall.message.isFloatFree = true := by decide +kernel
  have hextras : Json.holdNoFloat awkwardCall.extras = true := by decide +kernel
  obtain ⟨⟨lines, hlog, hread⟩, -⟩ := lines_read_back hroot rfl rfl hmessage hextras
  have hwritten : (log awkwardCall s).2.written = lines := congrArg Service.written hlog
  have hlength : (log awkwardCall s).2.written.length = 1 := by decide +kernel
  obtain ⟨line, hline⟩ := List.length_eq_one_iff.1 hlength
  obtain ⟨hprintable, _, _, _, fields, -, -, -, hshape, hparse⟩ :=
    hread line (hwritten ▸ hline ▸ List.mem_singleton_self line)
  refine ⟨hroot, hmessage, hextras, line, fields, hline, hprintable, hparse, ?_, ?_, ?_⟩
  · rw [hshape.names, Log.Call.names_lineHead]
    decide
  · rw [hshape.value]
    rfl
  · rw [hshape.value]
    rfl

end Service
end PayloadCipher
