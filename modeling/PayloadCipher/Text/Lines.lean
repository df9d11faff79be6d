/-! The lines of a text, parted by line feeds and by nothing else. A line feed at the end of a text
is followed by an empty line. -/

namespace PayloadCipher.Text

def splitLines : List Char → List Char → List (List Char) → List (List Char)
  | [], current, done => (current.reverse :: done).reverse
  | c :: cs, current, done =>
    if c = '\n' then splitLines cs [] (current.reverse :: done)
    else splitLines cs (c :: current) done

def lines (s : String) : List String := (splitLines s.toList [] []).map String.ofList

theorem splitLines_of_not_mem {cs : List Char} (h : '\n' ∉ cs) (current : List Char)
    (done : List (List Char)) :
    splitLines cs current done = ((current.reverse ++ cs) :: done).reverse := by
  induction cs generalizing current with
  | nil => simp [splitLines]
  | cons c cs ih =>
    have hc : c ≠ '\n' := fun e => h (by simp [e])
    simp [splitLines, hc, ih fun m => h (List.mem_cons_of_mem c m)]

theorem lines_of_not_mem {s : String} (h : '\n' ∉ s.toList) : lines s = [s] := by
  simp [lines, splitLines_of_not_mem h]

end PayloadCipher.Text
