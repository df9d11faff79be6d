import PayloadCipher.Bytes
import PayloadCipher.Decimal.Binary64
import PayloadCipher.Decimal.Integer

/-! Values of log records and lines: JSON with unbounded integers, octet strings as a leaf of
their own, and objects whose fields keep their order. -/

namespace PayloadCipher

inductive Json where
  | null
  | bool (b : Bool)
  | int (i : Int)
  | float (x : Decimal.Binary64)
  | text (s : String)
  | octets (b : Bytes)
  | array (items : List Json)
  | object (fields : List (String × Json))
deriving Inhabited, Repr

namespace Json

mutual
def same : Json → Json → Bool
  | null, null => true
  | bool a, bool b => a == b
  | int a, int b => a == b
  | float a, float b => decide (a = b)
  | text a, text b => a == b
  | octets a, octets b => a == b
  | array a, array b => sameItems a b
  | object a, object b => sameFields a b
  | _, _ => false

def sameItems : List Json → List Json → Bool
  | [], [] => true
  | a :: as, b :: bs => same a b && sameItems as bs
  | _, _ => false

def sameFields : List (String × Json) → List (String × Json) → Bool
  | [], [] => true
  | (n, a) :: as, (m, b) :: bs => n == m && same a b && sameFields as bs
  | _, _ => false
end

mutual
theorem same_iff : ∀ a b : Json, same a b = true ↔ a = b
  | null, b | bool _, b | int _, b | float _, b | text _, b | octets _, b => by
    cases b <;> simp [same]
  | array as, b => by
    cases b <;> simp [same, sameItems_iff as]
  | object as, b => by
    cases b <;> simp [same, sameFields_iff as]

theorem sameItems_iff : ∀ as bs : List Json, sameItems as bs = true ↔ as = bs
  | [], bs => by cases bs <;> simp [sameItems]
  | a :: as, bs => by
    cases bs <;> simp [sameItems, same_iff a, sameItems_iff as]

theorem sameFields_iff : ∀ as bs : List (String × Json), sameFields as bs = true ↔ as = bs
  | [], bs => by cases bs <;> simp [sameFields]
  | (_, a) :: as, bs => by
    cases bs with
    | nil => simp [sameFields]
    | cons f bs => obtain ⟨m, b⟩ := f; simp [sameFields, same_iff a, sameFields_iff as]
end

instance : DecidableEq Json := fun a b => decidable_of_iff _ (same_iff a b)

def typeName : Json → String
  | null => "NoneType"
  | bool _ => "bool"
  | int _ => "int"
  | float _ => "float"
  | text _ => "str"
  | octets _ => "bytes"
  | array _ => "list"
  | object _ => "dict"

/-- Null, false, zero and everything empty count as absent. -/
def isTruthy : Json → Bool
  | null => false
  | bool b => b
  | int i => i != 0
  | float x => !x.isZero
  | text s => s != ""
  | octets b => !b.isEmpty
  | array items => !items.isEmpty
  | object fields => !fields.isEmpty

def number? : Json → Option (Int ⊕ Decimal.Binary64)
  | bool b => some (.inl (if b then 1 else 0))
  | int i => some (.inl i)
  | float x => some (.inr x)
  | _ => none

mutual
def isTooLong : Json → Bool
  | int i => Decimal.isTooLong i
  | array items => anyTooLong items
  | object fields => anyFieldTooLong fields
  | _ => false

def anyTooLong : List Json → Bool
  | [] => false
  | v :: items => isTooLong v || anyTooLong items

def anyFieldTooLong : List (String × Json) → Bool
  | [] => false
  | (_, v) :: fields => isTooLong v || anyFieldTooLong fields
end

@[simp] theorem isTooLong_null : null.isTooLong = false := rfl

@[simp] theorem isTooLong_bool (b : Bool) : (bool b).isTooLong = false := rfl

@[simp] theorem isTooLong_text (s : String) : (text s).isTooLong = false := rfl

@[simp] theorem isTooLong_int (i : Int) : (int i).isTooLong = Decimal.isTooLong i := rfl

@[simp] theorem isTooLong_array (items : List Json) :
    (array items).isTooLong = items.any isTooLong := by
  rw [isTooLong]
  induction items with
  | nil => rfl
  | cons v items ih => rw [anyTooLong, ih, List.any_cons]

@[simp] theorem isTooLong_object (fields : List (String × Json)) :
    (object fields).isTooLong = fields.any fun f => f.2.isTooLong := by
  rw [isTooLong]
  induction fields with
  | nil => rfl
  | cons f fields ih => rw [anyFieldTooLong, ih, List.any_cons]

end Json
end PayloadCipher
