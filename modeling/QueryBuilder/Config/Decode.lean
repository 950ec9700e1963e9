import QueryBuilder.Config.Basic
import QueryBuilder.Number.Shortest
import QueryBuilder.Text.Quoted
import QueryBuilder.Toml.Document

/-!
# Configuration from TOML

The only key of a configuration is `db`: a table of texts under `driver`, `url` and
`database`, or an array of the three in this order. Keys are visited in the order of their
characters and the first problem is reported, so the order in which a document has them does
not count.
-/

namespace QueryBuilder
set_option autoImplicit false

/-- What a configuration has in the place of a value. -/
inductive Expected where
  | text
  | database
  deriving DecidableEq

/-- Why a TOML table is no configuration. -/
inductive DecodeError where
  | unknownKey (key : String) (known : List String)
  | wrongType (found : Toml.Value) (expected : Expected)
  /-- An array that ends after `length` of the three texts. -/
  | tooShort (length : Nat)
  /-- A number that no number type holds. -/
  | numberOverflow

namespace Toml.Value

/-- The key under which a date or a time appears when it is read as a table. -/
def momentKey : String := "$__toml_private_datetime"

/-- Whether the value is a number that no number type holds. -/
def overflows : Value → Bool
  | integer n => n < -(Nat.pow 2 127 : Int) || (Nat.pow 2 128 : Int) ≤ n
  | floatOverflow => true
  | _ => false

open Number in
/-- A floating-point number in a message: whole ones have a digit after the point. -/
def floatText (x : Double) : List Char :=
  let text := x.datum.text .double
  match x.datum with
  | .finite .. => if text.contains '.' then text else text ++ ".0".toList
  | _ => text

open Number in
/-- A value in a message. -/
def description : Value → String
  | string s => "string " ++ Text.quoted s
  | integer n =>
    "integer `" ++ String.ofList (integerText n) ++ "`" ++
      if -(Nat.pow 2 63 : Int) ≤ n && n < Nat.pow 2 64 then ""
      else if n < Nat.pow 2 127 then " as i128" else " as u128"
  | float x => "floating point `" ++ String.ofList (floatText x) ++ "`"
  | floatOverflow => "floating point"
  | boolean b => "boolean `" ++ (if b then "true" else "false") ++ "`"
  | moment _ => "map"
  | array _ => "sequence"
  | table _ => "map"

end Toml.Value

/-- A list of keys in a message. -/
def knownKeysText : List String → String
  | [key] => "`" ++ key ++ "`"
  | keys => "one of " ++ ", ".intercalate (keys.map fun key => "`" ++ key ++ "`")

/-- What is expected, in a message. -/
def Expected.phrase : Expected → String
  | .text => "a string"
  | .database => "struct DbConfig"

/-- The message of an error; a number that overflows has none. -/
def DecodeError.message? : DecodeError → Option String
  | unknownKey key known => some ("unknown field `" ++ key ++ "`, expected " ++ knownKeysText known)
  | wrongType found expected =>
    some ("invalid type: " ++ found.description ++ ", expected " ++ expected.phrase)
  | tooShort length =>
    some ("invalid length " ++ String.ofList (Number.digits length) ++
      ", expected struct DbConfig with 3 elements")
  | numberOverflow => none

/-- The error of a value in the wrong place. -/
def DecodeError.mismatch (found : Toml.Value) (expected : Expected) : DecodeError :=
  if found.overflows then .numberOverflow else .wrongType found expected

/-- The entries in the order of their keys. -/
def Toml.sortedByKey (t : Toml.Table) : Toml.Table := t.mergeSort fun a b => a.1 ≤ b.1

/-- A text. -/
def decodeText : Toml.Value → Except DecodeError String
  | .string s => .ok s
  | v => .error (.mismatch v .text)

namespace DbConfig

/-- Sets what a key stands for. -/
def setKey (c : DbConfig) (key : String) (v : Toml.Value) : Except DecodeError DbConfig :=
  if key = "driver" then do return { c with driver := ← decodeText v }
  else if key = "url" then do return { c with url := some (← decodeText v) }
  else if key = "database" then do return { c with database := some (← decodeText v) }
  else .error (.unknownKey key ["driver", "url", "database"])

/-- Reads a table; what it does not set is as in the standard configuration. -/
def ofTable (t : Toml.Table) : Except DecodeError DbConfig :=
  (Toml.sortedByKey t).foldlM (fun c entry => c.setKey entry.1 entry.2) .standard

/-- Reads an array of a driver, a URL and a database; what follows is ignored. -/
def ofArray : List Toml.Value → Except DecodeError DbConfig
  | [] => .error (.tooShort 1)
  | driver :: items => do
    let driver ← decodeText driver
    let url :: items := items | throw (.tooShort 1)
    let url ← decodeText url
    let database :: _ := items | throw (.tooShort 2)
    let database ← decodeText database
    return ⟨driver, some url, some database⟩

/-- Reads the value of the key `db`. -/
def ofValue : Toml.Value → Except DecodeError DbConfig
  | .table t => ofTable t
  | .moment text => ofTable [(Toml.Value.momentKey, .string text)]
  | .array items => ofArray items
  | v => .error (.mismatch v .database)

end DbConfig

/-- Reads the table of a document. -/
def Config.ofTable (t : Toml.Table) : Except DecodeError Config :=
  (Toml.sortedByKey t).foldlM
    (fun _ entry =>
      if entry.1 = "db" then do return ⟨← DbConfig.ofValue entry.2⟩
      else .error (.unknownKey entry.1 ["db"]))
    .standard

end QueryBuilder
