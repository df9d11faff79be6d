import PayloadCipher.Text.CaseTable

/-! Upper and lower case of texts. A character may become several, as the sharp s does; no
character depends on its neighbours, so a capital sigma always takes its medial form. -/

namespace PayloadCipher.Text

def mapCode (runs : List CaseRun) (expansions : List (Nat × List Nat)) (c : Nat) : List Char :=
  match expansions.lookup c with
  | some codes => codes.map Char.ofNat
  | none =>
    match runs.find? (·.covers c) with
    | some r => [Char.ofNat (Int.toNat (c + r.shift))]
    | none => [Char.ofNat c]

def upperChar (c : Char) : List Char :=
  if c.toNat < 128 then [c.toUpper] else mapCode upperRuns upperExpansions c.toNat

def lowerChar (c : Char) : List Char :=
  if c.toNat < 128 then [c.toLower] else mapCode lowerRuns lowerExpansions c.toNat

def upper (s : String) : String := String.ofList (s.toList.flatMap upperChar)

def lower (s : String) : String := String.ofList (s.toList.flatMap lowerChar)

end PayloadCipher.Text
