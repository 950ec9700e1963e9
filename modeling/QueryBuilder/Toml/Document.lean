import QueryBuilder.Toml.Node
import QueryBuilder.Toml.Scalar

/-!
# TOML documents

The grammar over tokens. A document is a list of lines: a header of a table, a header of an
element of an array of tables, or a key with a value. Arrays and inline tables may be nested
`nestingLimit` deep. `read?` gives the table of a document, or `none` if the text is no
document.
-/

namespace QueryBuilder.Toml
set_option autoImplicit false

/-- How deep arrays and inline tables may be nested. -/
def nestingLimit : Nat := 80

/-- Characters of a key without quotes. -/
def isBareKey (c : Char) : Bool := c.isAlphanum || c == '_' || c == '-'

/-- The part of a dotted key that a token gives. -/
def Token.keyPart? : Token → Option String
  | .word text => if text.all isBareKey then some (String.ofList text) else none
  | .string content false => some content
  | _ => none

/-- A dotted key and the blanks around it, from a place where a part is due or where a dot or
the end of the key is. -/
def keyFrom? (due : Bool) : List Token → Option (List String × List Token)
  | [] => if due then none else some ([], [])
  | .blank _ :: rest => keyFrom? due rest
  | t :: rest =>
    if due then do
      let part ← t.keyPart?
      let (parts, rest) ← keyFrom? false rest
      return (part :: parts, rest)
    else if t = .dot then keyFrom? true rest
    else some ([], t :: rest)

/-- A dotted key and what follows it. -/
def key? (ts : List Token) : Option (List String × List Token) := keyFrom? true ts

/-- Drops blanks. -/
def skipBlanks : List Token → List Token
  | .blank _ :: rest => skipBlanks rest
  | ts => ts

/-- Drops blanks and line ends. -/
def skipLayout : List Token → List Token
  | .blank _ :: rest => skipLayout rest
  | .newline :: rest => skipLayout rest
  | ts => ts

/-- The text of the words and dots at the front. -/
def plainText : List Token → List Char × List Token
  | .word text :: rest => let (more, rest) := plainText rest; (text ++ more, rest)
  | .dot :: rest => let (more, rest) := plainText rest; ('.' :: more, rest)
  | ts => ([], ts)

/-- A value that is written without quotes. One blank may stand between a date and a time. -/
def plainValue? (ts : List Token) : Option (Value × List Token) :=
  let (text, rest) := plainText ts
  let (text, rest) :=
    match afterDate? text, rest with
    | some [], .blank [' '] :: .word (c :: w) :: more =>
      if isDigit c then
        let (time, rest) := plainText (.word (c :: w) :: more)
        (text ++ ' ' :: time, rest)
      else (text, rest)
    | _, _ => (text, rest)
  (scalar? text).map (·, rest)

/-- At most `n` items of an array after its opening bracket. -/
def items? (item : List Token → Option (Value × List Token)) :
    Nat → List Token → Option (List Value × List Token)
  | 0, _ => none
  | n + 1, ts =>
    match skipLayout ts with
    | .closeBracket :: rest => some ([], rest)
    | ts => do
      let (v, rest) ← item ts
      match skipLayout rest with
      | .closeBracket :: rest => some ([v], rest)
      | .comma :: rest => do
        let (vs, rest) ← items? item n rest
        return (v :: vs, rest)
      | _ => none

/-- At most `n` entries of an inline table after its opening brace, added to `es`. -/
def inlineEntries? (item : List Token → Option (Value × List Token)) :
    Nat → Entries → List Token → Option (Entries × List Token)
  | 0, _, _ => none
  | n + 1, es, ts =>
    match skipLayout ts with
    | .closeBrace :: rest => some (es, rest)
    | ts => do
      let (path, rest) ← key? ts
      let .equals :: rest := rest | none
      let (v, rest) ← item (skipBlanks rest)
      let es ← es.enter? v path
      match skipLayout rest with
      | .closeBrace :: rest => some (es, rest)
      | .comma :: rest => inlineEntries? item n es rest
      | _ => none

/-- A value in which arrays and inline tables are nested at most `depth` deep. -/
def value? : Nat → List Token → Option (Value × List Token)
  | _, .string content _ :: rest => some (.string content, rest)
  | depth + 1, .openBracket :: rest =>
    (items? (value? depth) (rest.length + 1) rest).map fun p => (.array p.1, p.2)
  | depth + 1, .openBrace :: rest =>
    (inlineEntries? (value? depth) (rest.length + 1) [] rest).map fun p =>
      (.table (closeEntries p.1), p.2)
  | _, ts => plainValue? ts

/-- A document that is being read: its tables so far and the path of the table that keys
without a header of their own go to. -/
structure Draft where
  root : Entries
  path : List String

namespace Draft

/-- The draft of an empty document. -/
def empty : Draft := ⟨[], []⟩

/-- Opens the table or the element that a header names; it gets the keys that follow. -/
def openHeader? (add : String → Entries → Option Entries) (path : List String) (d : Draft) :
    Option Draft := do
  let key ← path.getLast?
  let root ← Entries.descend? (add key) path.dropLast d.root
  return ⟨root, path⟩

/-- Enters a value under a key of the open table. -/
def enter? (key : List String) (v : Value) (d : Draft) : Option Draft :=
  (Entries.descend? (Entries.enter? v key) d.path d.root).map fun root => ⟨root, d.path⟩

/-- Reads a header, or a key with its value, up to the end of its line. -/
def line? (d : Draft) : List Token → Option (Draft × List Token)
  | .openBracket :: .openBracket :: rest => do
    let (path, rest) ← key? rest
    let .closeBracket :: .closeBracket :: rest := rest | none
    let d ← d.openHeader? Entries.openElement? path
    return (d, rest)
  | .openBracket :: rest => do
    let (path, rest) ← key? rest
    let .closeBracket :: rest := rest | none
    let d ← d.openHeader? Entries.openTable? path
    return (d, rest)
  | ts => do
    let (path, rest) ← key? ts
    let .equals :: rest := rest | none
    let (v, rest) ← value? nestingLimit (skipBlanks rest)
    let d ← d.enter? path v
    return (d, rest)

/-- At most `n` lines. -/
def lines? : Nat → Draft → List Token → Option Draft
  | 0, _, _ => none
  | n + 1, d, ts =>
    match skipLayout ts with
    | [] => some d
    | ts => do
      let (d, rest) ← d.line? ts
      match skipBlanks rest with
      | [] => some d
      | .newline :: rest => lines? n d rest
      | _ => none

end Draft

/-- Drops a byte order mark. -/
def dropByteOrderMark : List Char → List Char
  | '\ufeff' :: rest => rest
  | cs => cs

/-- The table of a document. A line has at least one token, so there are at most as many lines
as tokens. -/
def read? (s : String) : Option Table := do
  let tokens ← Token.scan (dropByteOrderMark s.toList)
  let d ← Draft.empty.lines? (tokens.length + 1) tokens
  return closeEntries d.root

end QueryBuilder.Toml
