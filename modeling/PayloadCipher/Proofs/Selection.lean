import Mathlib.Data.List.DropRight
import PayloadCipher.Proofs.Request

/-! Selection of an algorithm by the variable. The value loses the blanks at its ends before it is
looked up, so that every identifier without them can be selected as soon as it is registered, and no
other one ever. -/

namespace PayloadCipher

namespace Text

theorem strip_eq (s : String) :
    strip s = String.ofList ((s.toList.dropWhile isBlank).rdropWhile isBlank) := rfl

theorem strip_eq_self {s : String} (hfirst : ∀ c ∈ s.toList.head?, isBlank c = false)
    (hlast : ∀ c ∈ s.toList.getLast?, isBlank c = false) : strip s = s := by
  have hleft : s.toList.dropWhile isBlank = s.toList := by
    rw [List.dropWhile_eq_self_iff]
    intro hlength
    have hblank := hfirst _ (List.head?_eq_getElem? ▸ List.getElem?_eq_getElem hlength)
    rw [hblank]
    exact Bool.false_ne_true
  have hright : s.toList.rdropWhile isBlank = s.toList := by
    rw [List.rdropWhile_eq_self_iff]
    intro hne
    rw [hlast _ (List.getLast?_eq_getLast_of_ne_nil hne)]
    exact Bool.false_ne_true
  rw [strip_eq, hleft, hright, String.ofList_toList]

theorem strip_strip (s : String) : strip (strip s) = strip s := by
  refine strip_eq_self (fun c hc => ?_) fun c hc => ?_
  · -- what is left on the right begins as what was left on the left
    rw [strip_eq, String.toList_ofList] at hc
    obtain ⟨rest, hrest⟩ := List.rdropWhile_prefix isBlank (s.toList.dropWhile isBlank)
    have hhead : c ∈ (s.toList.dropWhile isBlank).head? := by
      rw [← hrest, List.head?_append, Option.mem_def.1 hc]
      rfl
    have hfirst := List.head?_dropWhile_not isBlank s.toList
    rw [Option.mem_def.1 hhead] at hfirst
    exact hfirst
  · rw [strip_eq, String.toList_ofList] at hc
    obtain ⟨hne, rfl⟩ := List.mem_getLast?_eq_getLast hc
    exact Bool.eq_false_iff.2 (List.rdropWhile_last_not isBlank _ hne)

end Text

/-- The variable can name just the identifiers that have no blank at an end. -/
theorem CipherSettings.exists_algorithm_ofVariables_iff {a : String} :
    (∃ vars, (ofVariables vars).algorithm = a) ↔ Text.strip a = a := by
  constructor
  · rintro ⟨vars, rfl⟩
    exact Text.strip_strip _
  · exact fun h => ⟨{ cipherAlgorithm := some a }, h⟩

namespace Service

end Service
end PayloadCipher
