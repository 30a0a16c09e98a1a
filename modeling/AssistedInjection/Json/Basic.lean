/-!
JSON values. The members of an object keep their order, and a key may occur more than once.
-/

namespace AssistedInjection

namespace Json

/-- A number: whole where its text is whole and of moderate size, else floating. -/
inductive Number where
  | integer (n : Int)
  | floating (x : Float)

end Json

/-- A JSON value. -/
inductive Json where
  | null
  | boolean (b : Bool)
  | number (n : Json.Number)
  | string (s : String)
  | list (items : List Json)
  | object (members : List (String × Json))
deriving Inhabited

namespace Json

/-- A whole number. -/
def ofInt (n : Int) : Json := .number (.integer n)

/-- A whole number that is not negative. -/
def ofNat (n : Nat) : Json := ofInt n

/-- A value that may be absent; absence is written as null. -/
def ofOption {α : Type} (f : α → Json) : Option α → Json
  | none => .null
  | some a => f a

/-- The values of a key, in order. -/
def valuesOf (key : String) (members : List (String × Json)) : List Json :=
  (members.filter (·.1 == key)).map (·.2)

end Json

end AssistedInjection
