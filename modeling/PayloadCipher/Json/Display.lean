import PayloadCipher.Decimal.Integer
import PayloadCipher.Decimal.Shortest
import PayloadCipher.Json
import PayloadCipher.Text.Quoted

/-! Values as plain text, as they appear inside a message. A text stands for itself; inside a list
or a table it is quoted. -/

namespace PayloadCipher.Json

mutual
def inspect : Json → String
  | null => "None"
  | bool b => if b then "True" else "False"
  | int i => Decimal.integerText i
  | float x => String.ofList (Decimal.Layout.plain.write x)
  | text s => Text.quoted s
  | octets b => Text.quotedOctets b
  | array items => "[" ++ ", ".intercalate (inspectItems items) ++ "]"
  | object fields => "\x7b" ++ ", ".intercalate (inspectFields fields) ++ "\x7d"

def inspectItems : List Json → List String
  | [] => []
  | v :: items => inspect v :: inspectItems items

def inspectFields : List (String × Json) → List String
  | [] => []
  | (name, v) :: fields => (Text.quoted name ++ ": " ++ inspect v) :: inspectFields fields
end

def display : Json → String
  | text s => s
  | v => inspect v

end PayloadCipher.Json
