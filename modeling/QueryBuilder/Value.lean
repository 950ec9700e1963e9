import QueryBuilder.Calendar
import QueryBuilder.Number.Decimal
import QueryBuilder.Number.Shortest

/-!
# Values

A value is a literal of a query or a cell of a row. `Value.same` is the comparison of the
library: values of different kinds differ, decimals and floating-point numbers are compared
as numbers, so NaN differs from itself. `Value.text` is the text that a driver binds where
it binds text.
-/

namespace QueryBuilder
set_option autoImplicit false

open Number

/-- A literal, or a cell of a row. -/
inductive Value where
  | null
  | bool (b : Bool)
  | int16 (n : Int16)
  | int32 (n : Int32)
  | int64 (n : Int64)
  | single (x : Single)
  | double (x : Double)
  | string (s : String)
  | bytes (b : List UInt8)
  | timestamp (t : Timestamp)
  | decimal (d : Decimal)
  deriving DecidableEq

instance : Inhabited Value := ⟨.null⟩

namespace Value

def isNull : Value → Bool
  | null => true
  | _ => false

/-- The number that an integer value holds. -/
def integer? : Value → Option Int
  | int16 n => some n.toInt
  | int32 n => some n.toInt
  | int64 n => some n.toInt
  | _ => none

/-- Values of one kind with the same content; numbers are compared as numbers. -/
def same : Value → Value → Bool
  | null, null => true
  | bool b, bool b' => b == b'
  | int16 n, int16 n' => n == n'
  | int32 n, int32 n' => n == n'
  | int64 n, int64 n' => n == n'
  | single x, single x' => x.datum.sameNumber x'.datum
  | double x, double x' => x.datum.sameNumber x'.datum
  | string s, string s' => s == s'
  | bytes b, bytes b' => b == b'
  | timestamp t, timestamp t' => t == t'
  | decimal d, decimal d' => d.sameNumber d'
  | _, _ => false

/-- A byte as two lower-case hexadecimal digits. -/
def byteText (b : UInt8) : List Char := [Nat.digitChar (b.toNat / 16), Nat.digitChar (b.toNat % 16)]

/-- The text of a value, as a list of characters. -/
def chars : Value → List Char
  | null => "NULL".toList
  | bool true => "true".toList
  | bool false => "false".toList
  | int16 n => integerText n.toInt
  | int32 n => integerText n.toInt
  | int64 n => integerText n.toInt
  | single x => x.datum.text .single
  | double x => x.datum.text .double
  | string s => s.toList
  | bytes b => b.flatMap byteText
  | timestamp t => t.text
  | decimal d => d.text

/-- The text of a value. -/
def text (v : Value) : String := String.ofList v.chars

@[simp] theorem toList_text (v : Value) : v.text.toList = v.chars := String.toList_ofList

@[simp] theorem isNull_iff {v : Value} : v.isNull = true ↔ v = null := by
  cases v <;> simp [isNull]

@[simp] theorem isNull_eq_false_iff {v : Value} : v.isNull = false ↔ v ≠ null := by
  cases v <;> simp [isNull]

end Value

end QueryBuilder
