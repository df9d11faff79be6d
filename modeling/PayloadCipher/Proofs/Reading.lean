import PayloadCipher.Proofs.Escapes

/-! Values without floats are read back from their written form. Fields come back in their order,
texts and integers as they were, and octet strings as their base 64 text. The written form is one
line of printable ASCII, whatever the texts and the names in it are. -/

namespace PayloadCipher.Json

mutual
def isFloatFree : Json → Bool
  | float _ => false
  | array items => areFloatFree items
  | object fields => holdNoFloat fields
  | _ => true

def areFloatFree : List Json → Bool
  | [] => true
  | v :: items => isFloatFree v && areFloatFree items

def holdNoFloat : List (String × Json) → Bool
  | [] => true
  | (_, v) :: fields => isFloatFree v && holdNoFloat fields
end

theorem holdNoFloat_iff {fields : List (String × Json)} :
    holdNoFloat fields = true ↔ ∀ f ∈ fields, f.2.isFloatFree = true := by
  induction fields with
  | nil => simp [holdNoFloat]
  | cons f fields ih => simp [holdNoFloat, ih]

mutual
def textual : Json → Json
  | octets b => text (String.ofList (Base64.encode Base64.urlSafe b))
  | array items => array (textualItems items)
  | object fields => object (textualFields fields)
  | v => v

def textualItems : List Json → List Json
  | [] => []
  | v :: items => textual v :: textualItems items

def textualFields : List (String × Json) → List (String × Json)
  | [] => []
  | (name, v) :: fields => (name, textual v) :: textualFields fields
end

/-- What may stand behind a value: nothing, or what parts or closes items and fields. -/
def Follows (rest : List Char) : Prop := ∀ c ∈ rest.head?, c ∈ [',', ']', '\x7d']

theorem head?_toDigits {n : Nat} (h : 0 < n) : (Nat.toDigits 10 n).head? ≠ some '0' := by
  induction n using Nat.strongRecOn with
  | ind n ih =>
    rw [Nat.toDigits_eq_if (by decide)]
    split
    case isTrue hn =>
      rw [List.head?_cons, ne_eq, Option.some.injEq, Nat.digitChar_eq_zero]
      omega
    case isFalse hn =>
      have hfirst := ih (n / 10) (by omega) (by omega)
      rwa [List.head?_append_of_ne_nil _ Nat.toDigits_ne_nil]

theorem isDigit_of_mem_writeNat {n : Nat} {c : Char} (h : c ∈ Decimal.writeNat n) :
    isDigit c = true := by
  have hc := Nat.isDigit_of_mem_toDigits (by decide) (by decide) h
  rw [Char.isDigit, Bool.and_eq_true, decide_eq_true_eq, decide_eq_true_eq] at hc
  rw [isDigit, Bool.and_eq_true, decide_eq_true_eq, decide_eq_true_eq]
  exact hc

theorem digitsValue_writeNat (n : Nat) : digitsValue (Decimal.writeNat n) = n := by
  have hvalue : digitsValue (Decimal.writeNat n) = Nat.ofDigitChars 10 (Nat.toDigits 10 n) 0 := by
    rw [digitsValue, Decimal.writeNat, Nat.ofDigitChars_eq_foldl]
    simp only [Nat.mul_comm]
    rfl
  rw [hvalue, Nat.ofDigitChars_ten_toDigits]

section Follows

variable {rest : List Char} (hrest : Follows rest)
include hrest

theorem Follows.takeWhile_isDigit : rest.takeWhile isDigit = [] := by
  cases rest with
  | nil => rfl
  | cons c rest =>
    have hc : ∀ c ∈ [',', ']', '\x7d'], isDigit c = false := by simp [isDigit]
    rw [List.takeWhile_cons, hc c (hrest c rfl)]
    rfl

theorem readDigits?_writeNat (n : Nat) :
    readDigits? (Decimal.writeNat n ++ rest) = some (Decimal.writeNat n, rest) := by
  have hdigits : ∀ c ∈ Decimal.writeNat n, isDigit c = true := fun _ => isDigit_of_mem_writeNat
  have hlead : ¬ ((Decimal.writeNat n).head? = some '0' ∧ (Decimal.writeNat n).length ≠ 1) := by
    rcases Nat.eq_zero_or_pos n with rfl | hn
    · decide
    · exact fun h => head?_toDigits hn h.1
  have hdrop : rest.dropWhile isDigit = rest := by
    have hsplit := List.takeWhile_append_dropWhile (p := isDigit) (l := rest)
    rwa [hrest.takeWhile_isDigit, List.nil_append] at hsplit
  rw [readDigits?, List.takeWhile_append_of_pos hdigits, hrest.takeWhile_isDigit, List.append_nil,
    List.dropWhile_append_of_pos hdigits, hdrop]
  split
  case h_1 hnil => exact absurd hnil Nat.toDigits_ne_nil
  case h_2 => rw [if_neg hlead]

theorem Follows.readFraction? : readFraction? rest = some ([], rest) := by
  cases rest with
  | nil => rfl
  | cons c rest =>
    have hc : ∀ c ∈ [',', ']', '\x7d'], c ≠ '.' := by simp
    rw [Json.readFraction?]
    exact fun _ heq => hc c (hrest c rfl) (List.cons.inj heq).1

theorem Follows.readExponent? : readExponent? rest = some (none, rest) := by
  cases rest with
  | nil => rfl
  | cons c rest =>
    have hc : ∀ c ∈ [',', ']', '\x7d'], ¬ (c = 'e' ∨ c = 'E') := by simp
    simp only [Json.readExponent?, if_neg (hc c (hrest c rfl))]

theorem readMagnitude?_writeNat (negative : Bool) (n : Nat) :
    readMagnitude? negative (Decimal.writeNat n ++ rest) =
      some (int (if negative then -n else n), rest) := by
  rw [readMagnitude?, readDigits?_writeNat hrest]
  simp only [Option.bind_eq_bind, Option.bind_some, hrest.readFraction?, hrest.readExponent?,
    digitsValue_writeNat, and_self, if_true]

end Follows

theorem writeNat_eq_cons (n : Nat) :
    ∃ c cs, Decimal.writeNat n = c :: cs ∧ isDigit c = true := by
  obtain ⟨c, cs, hcons⟩ := List.exists_cons_of_ne_nil (l := Decimal.writeNat n)
    Nat.toDigits_ne_nil
  exact ⟨c, cs, hcons, isDigit_of_mem_writeNat (hcons ▸ List.mem_cons_self)⟩

theorem readNumber?_writeInt (i : Int) {rest : List Char} (hrest : Follows rest) :
    readNumber? (Decimal.writeInt i ++ rest) = some (int i, rest) := by
  obtain ⟨c, cs, hcons, hdigit⟩ := writeNat_eq_cons i.natAbs
  rw [Decimal.writeInt]
  split
  case isTrue hneg =>
    have hinfinity : dropWord? "Infinity".toList (Decimal.writeNat i.natAbs ++ rest) = none := by
      have hne : 'I' ≠ c := by
        rintro rfl
        cases hdigit
      rw [hcons]
      simp [dropWord?, hne]
    have hvalue : -(i.natAbs : Int) = i := by omega
    rw [List.cons_append, readNumber?, hinfinity]
    dsimp only
    rw [readMagnitude?_writeNat hrest, if_pos rfl, hvalue]
  case isFalse hpos =>
    have hne : c ≠ '-' := by
      rintro rfl
      cases hdigit
    have hvalue : (i.natAbs : Int) = i := by omega
    rw [readNumber?, readMagnitude?_writeNat hrest, if_neg Bool.false_ne_true, hvalue]
    rw [hcons]
    exact fun _ heq => hne (List.cons.inj heq).1

theorem readWord?_eq_none {c : Char} (h : c ∉ ['n', 't', 'f', 'N', 'I']) (cs : List Char) :
    readWord? (c :: cs) = none := by
  simp only [List.mem_cons, List.not_mem_nil, or_false, not_or] at h
  obtain ⟨hn, ht, hf, hN, hI⟩ := h
  simp [readWord?, words, dropWord?, Ne.symm hn, Ne.symm ht, Ne.symm hf, Ne.symm hN, Ne.symm hI]

theorem writeInt_eq_cons (i : Int) :
    ∃ c cs, Decimal.writeInt i = c :: cs ∧ (c = '-' ∨ isDigit c = true) := by
  rw [Decimal.writeInt]
  split
  · exact ⟨'-', _, rfl, .inl rfl⟩
  · obtain ⟨c, cs, hcons, hdigit⟩ := writeNat_eq_cons i.natAbs
    exact ⟨c, cs, hcons, .inr hdigit⟩

theorem lead_of_numeral {c : Char} (h : c = '-' ∨ isDigit c = true) :
    isSpace c = false ∧ c ∉ ['"', '[', ']', '\x7b'] ∧ c ∉ ['n', 't', 'f', 'N', 'I'] := by
  rcases h with rfl | hdigit
  · decide
  · have hmarks : ∀ m ∈ [' ', '\n', '\r', '\t', '"', '[', ']', '\x7b', 'n', 't', 'f', 'N', 'I'],
        isDigit m = false := by simp [isDigit]
    have hne : ∀ m ∈ [' ', '\n', '\r', '\t', '"', '[', ']', '\x7b', 'n', 't', 'f', 'N', 'I'],
        c ≠ m := by
      rintro m hm rfl
      rw [hmarks c hm] at hdigit
      cases hdigit
    simp only [List.forall_mem_cons, List.not_mem_nil, false_implies, implies_true, and_true] at hne
    simp [isSpace, hne]

theorem write_eq_cons {v : Json} (h : v.isFloatFree = true) :
    ∃ c cs, write v = c :: cs ∧ isSpace c = false ∧ c ≠ ']' := by
  cases v with
  | float x => cases h
  | bool b => cases b <;> exact ⟨_, _, rfl, by decide, by decide⟩
  | int i =>
    obtain ⟨c, cs, hcons, hlead⟩ := writeInt_eq_cons i
    obtain ⟨hspace, hmark, -⟩ := lead_of_numeral hlead
    refine ⟨c, cs, hcons, hspace, ?_⟩
    rintro rfl
    exact hmark (by decide)
  | array items => cases items <;> exact ⟨_, _, rfl, by decide, by decide⟩
  | object fields => cases fields <;> exact ⟨_, _, rfl, by decide, by decide⟩
  | _ => exact ⟨_, _, rfl, by decide, by decide⟩

theorem skipSpace_cons {c : Char} (h : isSpace c = false) (cs : List Char) :
    skipSpace (c :: cs) = c :: cs := by
  rw [skipSpace, List.dropWhile_cons, h]
  rfl

theorem skipSpace_write {v : Json} (h : v.isFloatFree = true) (rest : List Char) :
    skipSpace (write v ++ rest) = write v ++ rest := by
  obtain ⟨c, cs, hcons, hspace, -⟩ := write_eq_cons h
  rw [hcons, List.cons_append, skipSpace_cons hspace]

/-- What begins neither with a mark nor as a word does is a number. -/
theorem readValue_of_lead {c : Char} (hspace : isSpace c = false)
    (hmark : c ∉ ['"', '[', ']', '\x7b']) (hword : c ∉ ['n', 't', 'f', 'N', 'I']) (fuel : Nat)
    (cs : List Char) : readValue (fuel + 1) (c :: cs) = readNumber? (c :: cs) := by
  simp only [List.mem_cons, List.not_mem_nil, or_false, not_or] at hmark
  simp [readValue, skipSpace_cons hspace, hmark, readWord?_eq_none hword]

theorem readValue_writeInt (i : Int) (fuel : Nat) {rest : List Char} (hrest : Follows rest) :
    readValue (fuel + 1) (Decimal.writeInt i ++ rest) = some (int i, rest) := by
  have hnumber := readNumber?_writeInt i hrest
  obtain ⟨c, cs, hcons, hlead⟩ := writeInt_eq_cons i
  obtain ⟨hspace, hmark, hword⟩ := lead_of_numeral hlead
  rw [hcons, List.cons_append] at hnumber ⊢
  rw [readValue_of_lead hspace hmark hword, hnumber]

section Steps

variable {fuel : Nat} {cs middle rest : List Char}

theorem readValue_blank : readValue fuel (' ' :: cs) = readValue fuel cs := by
  cases fuel <;> rfl

theorem readField_blank : readField fuel (' ' :: cs) = readField fuel cs := by
  cases fuel <;> rfl

theorem readValue_writeText (cs rest : List Char) :
    readValue (fuel + 1) (writeText cs ++ rest) = some (text (String.ofList cs), rest) := by
  simp only [writeText, List.cons_append, List.append_assoc, List.nil_append, readValue,
    skipSpace_cons (c := '"') (by decide), readText?_flatMap, Option.map_some]

theorem readField_write (name : String) {v : Json} (hv : readValue fuel cs = some (v, rest)) :
    readField (fuel + 1) (writeText name.toList ++ ':' :: ' ' :: cs) = some ((name, v), rest) := by
  simp only [writeText, List.cons_append, List.append_assoc, List.nil_append, readField,
    skipSpace_cons (c := '"') (by decide), readText?_flatMap, skipSpace_cons (c := ':') (by decide),
    readValue_blank, hv, Option.map_some, String.ofList_toList]

theorem readValue_array {v : Json} {items : List Json} (hskip : skipSpace cs = cs)
    (hlead : ∀ tail, cs ≠ ']' :: tail) (hv : readValue fuel cs = some (v, middle))
    (hitems : readItems fuel middle = some (items, rest)) :
    readValue (fuel + 1) ('[' :: cs) = some (array (v :: items), rest) := by
  simp only [readValue, skipSpace_cons (c := '[') (by decide), hskip, hv, hitems, Option.map_some]

theorem readItems_comma {v : Json} {items : List Json}
    (hv : readValue fuel cs = some (v, middle))
    (hitems : readItems fuel middle = some (items, rest)) :
    readItems (fuel + 1) (',' :: ' ' :: cs) = some (v :: items, rest) := by
  simp only [readItems, skipSpace_cons (c := ',') (by decide), readValue_blank, hv, hitems,
    Option.map_some]

theorem readValue_object {f : String × Json} {fields : List (String × Json)}
    (hskip : skipSpace cs = cs) (hlead : ∀ tail, cs ≠ '\x7d' :: tail)
    (hf : readField fuel cs = some (f, middle))
    (hfields : readFields fuel middle = some (fields, rest)) :
    readValue (fuel + 1) ('\x7b' :: cs) = some (object (f :: fields), rest) := by
  simp only [readValue, skipSpace_cons (c := '\x7b') (by decide), hskip, hf, hfields,
    Option.map_some]

theorem readFields_comma {f : String × Json} {fields : List (String × Json)}
    (hf : readField fuel cs = some (f, middle))
    (hfields : readFields fuel middle = some (fields, rest)) :
    readFields (fuel + 1) (',' :: ' ' :: cs) = some (f :: fields, rest) := by
  simp only [readFields, skipSpace_cons (c := ',') (by decide), readField_blank, hf, hfields,
    Option.map_some]

end Steps

theorem follows_writeItems (items : List Json) (rest : List Char) :
    Follows (writeItems items ++ rest) := by
  cases items <;> · rintro c ⟨⟩; decide

theorem follows_writeFields (fields : List (String × Json)) (rest : List Char) :
    Follows (writeFields fields ++ rest) := by
  cases fields with
  | nil => rintro c ⟨⟩; decide
  | cons f fields => rintro c ⟨⟩; decide

-- Each call of the reader has as much fuel as there are characters for it to read.
mutual
theorem readValue_write : ∀ (v : Json) (fuel : Nat) (rest : List Char), v.isFloatFree = true →
    (write v).length ≤ fuel → Follows rest →
    readValue fuel (write v ++ rest) = some (textual v, rest)
  | v, 0, _, hfree, hfuel, _ => by
    obtain ⟨c, cs, hcons, -⟩ := write_eq_cons hfree
    rw [hcons] at hfuel
    cases hfuel
  | null, fuel + 1, rest, _, _, _ => rfl
  | bool true, fuel + 1, rest, _, _, _ => rfl
  | bool false, fuel + 1, rest, _, _, _ => rfl
  | int i, fuel + 1, rest, _, _, hrest => readValue_writeInt i fuel hrest
  | text s, fuel + 1, rest, _, _, _ => by
    rw [write, readValue_writeText, String.ofList_toList]
    rfl
  | octets b, fuel + 1, rest, _, _, _ => by
    rw [write, readValue_writeText, textual]
  | array [], fuel + 1, rest, _, _, _ => rfl
  | array (v :: items), fuel + 1, rest, hfree, hfuel, _ => by
    rw [isFloatFree, areFloatFree, Bool.and_eq_true] at hfree
    rw [write, List.length_cons, List.length_append] at hfuel
    have hv := readValue_write v fuel _ hfree.1 (by omega) (follows_writeItems items rest)
    have hitems := readItems_write items fuel rest hfree.2 (by omega)
    have hskip := skipSpace_write hfree.1 (writeItems items ++ rest)
    obtain ⟨c, cs, hcons, -, hlead⟩ := write_eq_cons hfree.1
    rw [write, List.cons_append, List.append_assoc]
    refine readValue_array hskip (fun tail heq => ?_) hv hitems
    rw [hcons] at heq
    exact hlead (List.cons.inj heq).1
  | object [], fuel + 1, rest, _, _, _ => rfl
  | object ((name, v) :: fields), 1, rest, _, hfuel, _ => by simp [write] at hfuel
  | object ((name, v) :: fields), fuel + 2, rest, hfree, hfuel, _ => by
    rw [isFloatFree, holdNoFloat, Bool.and_eq_true] at hfree
    simp only [write, List.length_cons, List.length_append] at hfuel
    have hv := readValue_write v fuel _ hfree.1 (by omega) (follows_writeFields fields rest)
    have hfields := readFields_write fields (fuel + 1) rest hfree.2 (by omega)
    rw [write, List.cons_append, List.append_assoc, List.cons_append, List.cons_append,
      List.append_assoc]
    refine readValue_object ?_ (fun tail heq => ?_) (readField_write name hv) hfields
    · rw [writeText, List.cons_append, skipSpace_cons (by decide)]
    · cases heq

theorem readItems_write : ∀ (items : List Json) (fuel : Nat) (rest : List Char),
    areFloatFree items = true → (writeItems items).length ≤ fuel →
    readItems fuel (writeItems items ++ rest) = some (textualItems items, rest)
  | [], 0, _, _, hfuel => by cases hfuel
  | [], fuel + 1, rest, _, _ => rfl
  | v :: items, 0, _, _, hfuel => by cases hfuel
  | v :: items, fuel + 1, rest, hfree, hfuel => by
    rw [areFloatFree, Bool.and_eq_true] at hfree
    rw [writeItems, List.length_cons, List.length_cons, List.length_append] at hfuel
    rw [writeItems, List.cons_append, List.cons_append, List.append_assoc]
    exact readItems_comma
      (readValue_write v fuel _ hfree.1 (by omega) (follows_writeItems items rest))
      (readItems_write items fuel rest hfree.2 (by omega))

theorem readFields_write : ∀ (fields : List (String × Json)) (fuel : Nat) (rest : List Char),
    holdNoFloat fields = true → (writeFields fields).length ≤ fuel →
    readFields fuel (writeFields fields ++ rest) = some (textualFields fields, rest)
  | [], 0, _, _, hfuel => by cases hfuel
  | [], fuel + 1, rest, _, _ => rfl
  | (name, v) :: fields, 0, _, _, hfuel => by cases hfuel
  | (name, v) :: fields, 1, rest, _, hfuel => by simp [writeFields] at hfuel
  | (name, v) :: fields, fuel + 2, rest, hfree, hfuel => by
    rw [holdNoFloat, Bool.and_eq_true] at hfree
    simp only [writeFields, List.length_cons, List.length_append] at hfuel
    have hv := readValue_write v fuel _ hfree.1 (by omega) (follows_writeFields fields rest)
    rw [writeFields, List.cons_append, List.cons_append, List.append_assoc, List.cons_append,
      List.cons_append, List.append_assoc]
    exact readFields_comma (readField_write name hv)
      (readFields_write fields (fuel + 1) rest hfree.2 (by omega))
end

/-- A value without floats is read back from its written form, up to the octet strings in it. -/
theorem parse_render {v : Json} (h : v.isFloatFree = true) : parse v.render = some v.textual := by
  have hread := readValue_write v (2 * (write v).length + 2) [] h (by omega) (by rintro c ⟨⟩)
  rw [List.append_nil] at hread
  simp [parse, render, hread, skipSpace]

theorem printable_writeInt {i : Int} {c : Char} (h : c ∈ Decimal.writeInt i) :
    32 ≤ c.toNat ∧ c.toNat < 127 := by
  have hdigit {n : Nat} (h : c ∈ Decimal.writeNat n) : 32 ≤ c.toNat ∧ c.toNat < 127 := by
    have hc := isDigit_of_mem_writeNat h
    rw [isDigit, Bool.and_eq_true, decide_eq_true_eq, decide_eq_true_eq] at hc
    omega
  rw [Decimal.writeInt] at h
  split at h
  · rcases List.mem_cons.1 h with rfl | h
    · decide
    · exact hdigit h
  · exact hdigit h

mutual
theorem printable_write : ∀ {v : Json}, v.isFloatFree = true → ∀ c ∈ write v,
    32 ≤ c.toNat ∧ c.toNat < 127
  | null, _ => by simp [write]
  | bool true, _ => by simp [write]
  | bool false, _ => by simp [write]
  | int i, _ => fun c => printable_writeInt
  | text s, _ => fun c => printable_writeText
  | octets b, _ => fun c => printable_writeText
  | array [], _ => by simp [write]
  | array (v :: items), h => by
    rw [isFloatFree, areFloatFree, Bool.and_eq_true] at h
    have hv := printable_write h.1
    have hitems := printable_writeItems h.2
    simp only [write, List.forall_mem_cons, List.forall_mem_append]
    exact ⟨by decide, hv, hitems⟩
  | object [], _ => by simp [write]
  | object ((name, v) :: fields), h => by
    rw [isFloatFree, holdNoFloat, Bool.and_eq_true] at h
    have hv := printable_write h.1
    have hfields := printable_writeFields h.2
    simp only [write, List.forall_mem_cons, List.forall_mem_append]
    exact ⟨by decide, fun c => printable_writeText, by decide, by decide, hv, hfields⟩

theorem printable_writeItems : ∀ {items : List Json}, areFloatFree items = true →
    ∀ c ∈ writeItems items, 32 ≤ c.toNat ∧ c.toNat < 127
  | [], _ => by simp [writeItems]
  | v :: items, h => by
    rw [areFloatFree, Bool.and_eq_true] at h
    have hv := printable_write h.1
    have hitems := printable_writeItems h.2
    simp only [writeItems, List.forall_mem_cons, List.forall_mem_append]
    exact ⟨by decide, by decide, hv, hitems⟩

theorem printable_writeFields : ∀ {fields : List (String × Json)}, holdNoFloat fields = true →
    ∀ c ∈ writeFields fields, 32 ≤ c.toNat ∧ c.toNat < 127
  | [], _ => by simp [writeFields]
  | (name, v) :: fields, h => by
    rw [holdNoFloat, Bool.and_eq_true] at h
    have hv := printable_write h.1
    have hfields := printable_writeFields h.2
    simp only [writeFields, List.forall_mem_cons, List.forall_mem_append]
    exact ⟨by decide, by decide, fun c => printable_writeText, by decide, by decide, hv, hfields⟩
end

end PayloadCipher.Json
