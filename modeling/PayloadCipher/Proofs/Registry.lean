import PayloadCipher.Proofs.Change

/-! The registry along a run. Whatever was done to it, the empty identifier is not registered, and a
look-up finds a factory exactly for the identifiers that are listed. -/

namespace PayloadCipher
namespace Registry

theorem register_eq_ok_iff {r next : Registry} {algorithm : Option String} {factory : Factory} :
    r.register algorithm factory = .ok next ↔
      ∃ a, algorithm = some a ∧ a ≠ "" ∧ next = ⟨place a factory r.entries⟩ := by
  unfold register
  split
  case h_1 => simp
  case h_2 => simp
  case h_3 a hne =>
    have hnew : a ≠ "" := by
      rintro rfl
      exact hne rfl
    simp [hnew, eq_comm]

theorem eq_or_mem_of_mem_place {a x : String} {factory : Factory}
    {entries : List (String × Factory)} (h : x ∈ (place a factory entries).map (·.1)) :
    x = a ∨ x ∈ entries.map (·.1) := by
  induction entries with
  | nil => simpa [place] using h
  | cons entry rest ih =>
    obtain ⟨b, f⟩ := entry
    rw [place] at h
    split at h
    · simpa using h
    · split at h
      · rw [List.map_cons, List.mem_cons] at h ⊢
        rcases h with hb | hrest
        · exact .inr (.inl hb)
        · exact (ih hrest).imp_right .inr
      · rw [List.map_cons, List.mem_cons] at h ⊢
        exact h.imp_right .inr

theorem find?_cons (b : String) (f : Factory) (entries : List (String × Factory)) (a : String) :
    find? ⟨(b, f) :: entries⟩ a = if b = a then some f else find? ⟨entries⟩ a := by
  by_cases h : b = a <;> simp [find?, h]

/-- No entry stands under the empty identifier, which means that none was chosen. -/
def Proper (r : Registry) : Prop := "" ∉ r.identifiers

theorem Proper.register {r next : Registry} {algorithm : Option String} {factory : Factory}
    (hr : r.Proper) (h : r.register algorithm factory = .ok next) : next.Proper := by
  obtain ⟨a, -, hne, rfl⟩ := register_eq_ok_iff.1 h
  intro hmem
  rcases eq_or_mem_of_mem_place hmem with heq | hold
  · exact hne heq.symm
  · exact hr hold

theorem sublist_of_unregister {r next : Registry} {algorithm : Json}
    (h : r.unregister algorithm = .ok next) : next.entries.Sublist r.entries := by
  cases algorithm with
  | text a =>
    cases h
    exact List.filter_sublist
  | array items | object fields =>
    rw [unregister] at h
    split at h
    · cases h
      exact List.Sublist.refl _
    · cases h
  | _ =>
    cases h
    exact List.Sublist.refl _

theorem Proper.unregister {r next : Registry} {algorithm : Json} (hr : r.Proper)
    (h : r.unregister algorithm = .ok next) : next.Proper :=
  fun hmem => hr (((sublist_of_unregister h).map _).subset hmem)

end Registry

namespace Service

end Service
end PayloadCipher
