import Mathlib.Data.List.DropRight
import PayloadCipher.Proofs.Request

/-! Settings as a snapshot of the variables. Along all requests the base settings and the cipher
settings stay what the first reading after the last clearing made of the variables, and each of the two
goes by its own readings and clearings only. -/

namespace PayloadCipher

namespace Request

section FirstUse

theorem takeWhile_append_singleton {uses : Request → Bool} {requests : List Request} {r : Request}
    (h : (requests ++ [r]).any uses = true) :
    (requests ++ [r]).takeWhile (!uses ·) = requests.takeWhile (!uses ·) := by
  induction requests with
  | nil =>
    have hr : uses r = true := by simpa using h
    simp [hr]
  | cons first rest ih =>
    rw [List.cons_append, List.any_cons] at h
    rw [List.cons_append, List.takeWhile_cons, List.takeWhile_cons]
    cases hfirst : uses first with
    | true => rfl
    | false =>
      rw [hfirst, Bool.false_or] at h
      rw [ih h]

variable (uses clears : Request → Bool) (requests : List Request)

/-- The requests since the last one that clears. -/
def sinceCleared : List Request := requests.rtakeWhile (!clears ·)

/-- The requests before the first use since the last clearing, or all of them if there was none. -/
def untilFirstUse : List Request :=
  requests.rdropWhile (!clears ·) ++ (sinceCleared clears requests).takeWhile (!uses ·)

variable {uses clears requests} {r : Request}

theorem sinceCleared_append_singleton :
    sinceCleared clears (requests ++ [r]) =
      if clears r then [] else sinceCleared clears requests ++ [r] := by
  rw [sinceCleared, List.rtakeWhile_concat]
  cases clears r <;> rfl

theorem untilFirstUse_of_unused (h : (sinceCleared clears requests).any uses = false) :
    untilFirstUse uses clears requests = requests := by
  have hall : (sinceCleared clears requests).takeWhile (!uses ·) = sinceCleared clears requests := by
    rw [List.takeWhile_eq_self_iff]
    simpa using h
  rw [untilFirstUse, hall]
  exact List.rdropWhile_append_rtakeWhile

theorem untilFirstUse_append_singleton (hr : clears r = false)
    (h : (sinceCleared clears requests ++ [r]).any uses = true) :
    untilFirstUse uses clears (requests ++ [r]) = untilFirstUse uses clears requests := by
  have hdrop : (requests ++ [r]).rdropWhile (!clears ·) = requests.rdropWhile (!clears ·) :=
    List.rdropWhile_concat_pos _ _ _ (by simp [hr])
  rw [untilFirstUse, hdrop, sinceCleared_append_singleton, hr, if_neg Bool.false_ne_true,
    takeWhile_append_singleton h, untilFirstUse]

end FirstUse
end Request

open Request Service

structure SettingsGroup (α : Type) where
  load : Variables → α
  kept : SettingsCache → Option α
  reads : Request → Bool
  clears : Request → Bool
  kept_onCache : ∀ r vars cache, kept (r.onCache vars cache) =
    if clears r then none
    else if reads r then some ((kept cache).getD (load vars)) else kept cache

namespace SettingsGroup

def base : SettingsGroup BaseSettings where
  load := .ofVariables
  kept := SettingsCache.base
  reads := readsBase
  clears := clearsBase
  kept_onCache _ _ _ := rfl

def cipher : SettingsGroup CipherSettings where
  load := .ofVariables
  kept := SettingsCache.cipher
  reads := readsCipher
  clears := clearsCipher
  kept_onCache _ _ _ := rfl

variable {α : Type} (g : SettingsGroup α)

def inForce (s : Service) : α := (g.kept s.cache).getD (g.load s.environment)

def snapshot (s : Service) (requests : List Request) : α :=
  g.load (reach s (untilFirstUse g.reads g.clears requests)).environment

theorem kept_perform (r : Request) (s : Service) :
    g.kept (perform r.operation s).2.cache =
      if g.clears r then none
      else if g.reads r then some (g.inForce s) else g.kept s.cache := by
  rw [(r.effect s).cache_eq, g.kept_onCache, inForce]

variable {s : Service}

/-- What is kept is what the requests tell: a snapshot if there was a use since the last clearing. -/
def Tracks (s : Service) (requests : List Request) : Prop :=
  g.kept (reach s requests).cache =
    if (sinceCleared g.clears requests).any g.reads then some (g.snapshot s requests) else none

variable {g}

theorem Tracks.inForce_eq {requests : List Request} (h : g.Tracks s requests) :
    g.inForce (reach s requests) = g.snapshot s requests := by
  rw [inForce, h]
  cases hused : (sinceCleared g.clears requests).any g.reads with
  | true => rfl
  | false =>
    rw [snapshot, untilFirstUse_of_unused hused]
    rfl

theorem Tracks.append_singleton {requests : List Request} (h : g.Tracks s requests) (r : Request) :
    g.Tracks s (requests ++ [r]) := by
  rw [Tracks, reach_append, reach_singleton, kept_perform, sinceCleared_append_singleton]
  cases hclears : g.clears r with
  | true => rfl
  | false =>
    rw [if_neg Bool.false_ne_true, if_neg Bool.false_ne_true]
    have hsame (hused : (sinceCleared g.clears requests ++ [r]).any g.reads = true) :
        g.snapshot s (requests ++ [r]) = g.snapshot s requests := by
      rw [snapshot, untilFirstUse_append_singleton hclears hused, snapshot]
    cases hreads : g.reads r with
    | true =>
      have hused : (sinceCleared g.clears requests ++ [r]).any g.reads = true := by simp [hreads]
      rw [if_pos rfl, if_pos hused, h.inForce_eq, hsame hused]
    | false =>
      have hany : (sinceCleared g.clears requests ++ [r]).any g.reads =
          (sinceCleared g.clears requests).any g.reads := by simp [hreads]
      rw [if_neg Bool.false_ne_true, h, hany]
      split
      case isTrue hused => rw [hsame (hany.trans hused)]
      case isFalse => rfl

theorem tracks (h : g.kept s.cache = none) (requests : List Request) : g.Tracks s requests := by
  induction requests using List.reverseRecOn with
  | nil => exact h
  | append_singleton requests r ih => exact ih.append_singleton r

theorem kept_perform_of_unconcerned {r : Request} (hreads : g.reads r = false)
    (hclears : g.clears r = false) : g.kept (perform r.operation s).2.cache = g.kept s.cache := by
  rw [kept_perform, hreads, hclears]
  rfl

theorem inForce_reach (h : g.kept s.cache = none) (requests : List Request) :
    g.inForce (reach s requests) = g.snapshot s requests :=
  (tracks h requests).inForce_eq

theorem kept_reach {settings : α} (h : g.kept s.cache = some settings) {later : List Request}
    (hlater : ∀ r ∈ later, g.clears r = false) :
    g.kept (reach s later).cache = some settings := by
  induction later using List.reverseRecOn with
  | nil => exact h
  | append_singleton later r ih =>
    rw [List.forall_mem_append] at hlater
    have hkept := ih hlater.1
    rw [reach_append, reach_singleton, kept_perform, hlater.2 r List.mem_cons_self, inForce, hkept]
    simp

theorem kept_reach_cons {r : Request} (hreads : g.reads r = true) (hclears : g.clears r = false)
    {later : List Request} (hlater : ∀ r ∈ later, g.clears r = false) :
    g.kept (reach s (r :: later)).cache = some (g.inForce s) := by
  have hfirst : g.kept (reach s [r]).cache = some (g.inForce s) := by
    rw [reach_singleton, kept_perform, hclears, hreads]
    rfl
  have happend : reach s (r :: later) = reach (reach s [r]) later := reach_append s [r] later
  rw [happend]
  exact kept_reach hfirst hlater

end SettingsGroup

namespace Service

theorem readBase_of_kept {s : Service} {settings : BaseSettings}
    (h : SettingsGroup.base.kept s.cache = some settings) :
    perform Request.readBase.operation s = (.ok (.base settings), s) := by
  have hbase : s.cache.base = some settings := h
  have hread : s.cache.readBase s.environment = (settings, s.cache) := by
    rw [SettingsCache.readBase, hbase, Option.getD_some, ← hbase]
  have hsettings : baseSettings s = (.ok settings, s) := by rw [baseSettings, hread]
  rw [operation, perform, Action.bind_of_ok hsettings]
  rfl

theorem create_of_kept {s : Service} {settings : CipherSettings}
    (h : SettingsGroup.cipher.kept s.cache = some settings) {algorithm : Json}
    (halgorithm : algorithm.isTruthy = false) (key : Value) :
    create key algorithm s = createSelected key (.text settings.algorithm) s := by
  rw [create_of_falsy halgorithm, SettingsCache.readCipher_of_some h]

/-- Settings are snapshots. After any requests, each of the two getters shows what the variables were
at its first use since its own last clearing, whichever request made that use. A start or a
validation reports on these settings, a creation without an algorithm uses them, and after a
start both stay the same until they are cleared. Only readings and clearings of a kind of settings
bear on it, and the settings do not count at all for a creation with an algorithm. -/
theorem settings_are_snapshots (s : Service) (requests : List Request) :
    let fresh : Service := { s with cache := {} }
    let t := reach fresh requests
    let base := BaseSettings.ofVariables
      (reach fresh (untilFirstUse readsBase clearsBase requests)).environment
    let cipher := CipherSettings.ofVariables
      (reach fresh (untilFirstUse readsCipher clearsCipher requests)).environment
    let filled : Service := { t with cache := { base := some base, cipher := some cipher } }
    let entries := (problemsOf base cipher t.registry).map Problem.entry
    perform Request.readBase.operation t =
      (.ok (.base base), { t with cache := { t.cache with base := some base } }) ∧
    perform Request.readCipher.operation t =
      (.ok (.cipher cipher), { t with cache := { t.cache with cipher := some cipher } }) ∧
    validateSettings t = report base entries filled ∧
    Service.start t = report base entries
      { filled with root := Log.Root.configured base.startLevel (.text base.serviceName) .current } ∧
    (∀ key, ∀ algorithm, algorithm.isTruthy = false →
      create key algorithm t = createSelected key (.text cipher.algorithm)
        { t with cache := { t.cache with cipher := some cipher } }) ∧
    (∀ later, let u := reach t (.start :: later)
      ((∀ r ∈ later, r.clearsBase = false) →
        perform Request.readBase.operation u = (.ok (.base base), u)) ∧
      ((∀ r ∈ later, r.clearsCipher = false) → ∀ key, ∀ algorithm, algorithm.isTruthy = false →
        create key algorithm u = createSelected key (.text cipher.algorithm) u)) ∧
    (∀ r : Request, r.readsBase = false → r.clearsBase = false →
      (perform r.operation t).2.cache.base = t.cache.base) ∧
    (∀ r : Request, r.readsCipher = false → r.clearsCipher = false →
      (perform r.operation t).2.cache.cipher = t.cache.cipher) ∧
    ∀ key a, a ≠ "" → ∀ cache vars,
      create key (.text a) (withSources cache vars t) =
        ((create key (.text a) t).1, withSources cache vars (create key (.text a) t).2) := by
  intro fresh t base cipher filled entries
  have hbase : SettingsGroup.base.inForce t = base := SettingsGroup.inForce_reach rfl requests
  have hcipher : SettingsGroup.cipher.inForce t = cipher := SettingsGroup.inForce_reach rfl requests
  -- from here on it does not count where the settings in force come from
  clear_value base cipher
  subst hbase hcipher
  refine ⟨rfl, rfl, validateSettings_apply t, start_apply t, fun key algorithm h => ?_,
    fun later => ⟨fun hlater => ?_, fun hlater key algorithm h => ?_⟩,
    fun r hreads hclears => ?_, fun r hreads hclears => ?_, fun key a ha cache vars => ?_⟩
  · exact create_of_falsy h key t
  · exact readBase_of_kept (SettingsGroup.kept_reach_cons rfl rfl hlater)
  · exact create_of_kept (SettingsGroup.kept_reach_cons rfl rfl hlater) h key
  · exact SettingsGroup.kept_perform_of_unconcerned (g := .base) hreads hclears
  · exact SettingsGroup.kept_perform_of_unconcerned (g := .cipher) hreads hclears
  · have hselected := createSelected_ignores cache vars key (.text a) t
    have ha : (Json.text a).isTruthy = true := by simpa [Json.isTruthy] using ha
    rw [create_of_truthy ha, create_of_truthy ha]
    exact hselected

theorem settings_are_snapshots_interleaved :
    let s : Service := { supply := constantSupply }
    let algorithmIs (name : String) : Request :=
      .giveVariable (.text "CIPHER_ALGORITHM") (.text name)
    let deploymentIs (name : String) : Request := .giveVariable (.text "ENVIRONMENT") (.text name)
    let requests : List Request :=
      [algorithmIs "a", .create .absent (some "x") "k", algorithmIs " b ",
       .create .absent none "k", algorithmIs "c", .readBase, deploymentIs "prod",
       .clearCache true false, deploymentIs "stage"]
    let later : List Request := [deploymentIs "prod", algorithmIs "d", .readCipher, .validate]
    let t := reach { s with cache := {} } requests
    let u := reach t (.start :: later)
    let base : BaseSettings := { deployment := .staging }
    perform Request.readBase.operation t =
      (.ok (.base base), { t with cache := { t.cache with base := some base } }) ∧
    perform Request.readCipher.operation t =
      (.ok (.cipher ⟨"b"⟩), { t with cache := { t.cache with cipher := some ⟨"b"⟩ } }) ∧
    perform Request.readBase.operation u = (.ok (.base base), u) ∧
    create .absent .null u = createSelected .absent (.text "b") u ∧
    (perform Request.readBase.operation t).2.cache.cipher = t.cache.cipher ∧
    (perform Request.readCipher.operation t).2.cache.base = t.cache.base ∧
    create .absent (.text "x") (withSources {} {} t) =
      ((create .absent (.text "x") t).1, withSources {} {} (create .absent (.text "x") t).2) := by
  intro s algorithmIs deploymentIs requests later t u base
  obtain ⟨hreadBase, hreadCipher, -, -, -, hlater, hotherBase, hotherCipher, hgiven⟩ :=
    settings_are_snapshots s requests
  have ht : reach { s with cache := {} } requests = t := rfl
  have hbase : BaseSettings.ofVariables (reach { s with cache := {} }
      (untilFirstUse readsBase clearsBase requests)).environment = base := by decide +kernel
  have hcipher : CipherSettings.ofVariables (reach { s with cache := {} }
      (untilFirstUse readsCipher clearsCipher requests)).environment = ⟨"b"⟩ := by decide +kernel
  rw [ht, hbase] at hreadBase
  rw [ht, hcipher] at hreadCipher
  rw [ht, hbase, hcipher] at hlater
  rw [ht] at hotherBase hotherCipher hgiven
  have hclearsBase : ∀ r ∈ later, r.clearsBase = false := by
    simp [later, deploymentIs, algorithmIs, clearsBase]
  have hclearsCipher : ∀ r ∈ later, r.clearsCipher = false := by
    simp [later, deploymentIs, algorithmIs, clearsCipher]
  exact ⟨hreadBase, hreadCipher, (hlater later).1 hclearsBase,
    (hlater later).2 hclearsCipher .absent .null rfl, hotherCipher .readBase rfl rfl,
    hotherBase .readCipher rfl rfl, hgiven .absent "x" (by decide) {} {}⟩

end Service
end PayloadCipher
