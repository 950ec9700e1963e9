import QueryBuilder.Number.Binary

/-!
# TOML values
-/

namespace QueryBuilder.Toml
set_option autoImplicit false

/-- A value of a TOML document. The entries of a table are in the order of the document. -/
inductive Value where
  | string (s : String)
  | integer (n : Int)
  | float (x : Double)
  /-- A numeral beyond the largest finite floating-point number. -/
  | floatOverflow
  | boolean (b : Bool)
  /-- A date, a time or both, as it is written. -/
  | moment (text : String)
  | array (items : List Value)
  | table (entries : List (String × Value))

instance : Inhabited Value := ⟨.boolean false⟩

/-- Keys with their values, in the order of the document. -/
abbrev Table := List (String × Value)

end QueryBuilder.Toml
