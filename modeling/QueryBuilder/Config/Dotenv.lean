import QueryBuilder.Config.Environment
import QueryBuilder.Text.Whitespace

/-!
# Assignments of variables from a file

A file of lines `NAME=value`, with `export` in front or not, blank lines and comments. A value
may be quoted; single quotes keep everything, double quotes and unquoted text know escapes and
the values of variables. A line goes on to the next one while a quote is open. The file is read
up to the first line that cannot be read, and what was read before it counts. A value that no
variable can have is read like any other, and the program panics when it is set.
-/

namespace QueryBuilder.Dotenv
set_option autoImplicit false

open Text

/-! ## Lines -/

/-- Where in a line a reader is that looks only for its end. -/
inductive Place where
  | outside
  | escaped
  /-- After the first of some blanks, where a comment may begin. -/
  | afterBlank
  | doubleQuoted
  | doubleQuotedEscaped
  | singleQuoted
  | singleQuotedEscaped
  | comment
  deriving DecidableEq

/-- The place after a character. -/
def Place.next : Place → Char → Place
  | .outside, c =>
    if c == '\\' then .escaped
    else if c == '"' then .doubleQuoted
    else if c == '\'' then .singleQuoted
    else if isSpace c && c != '\n' && c != '\r' then .afterBlank
    else .outside
  | .afterBlank, c =>
    if c == '#' then .comment
    else if c == '\\' then .escaped
    else if c == '"' then .doubleQuoted
    else if c == '\'' then .singleQuoted
    else .outside
  | .escaped, _ => .outside
  | .doubleQuoted, c =>
    if c == '\\' then .doubleQuotedEscaped else if c == '"' then .outside else .doubleQuoted
  | .doubleQuotedEscaped, _ => .doubleQuoted
  | .singleQuoted, c =>
    if c == '\\' then .singleQuotedEscaped else if c == '\'' then .outside else .singleQuoted
  | .singleQuotedEscaped, _ => .singleQuoted
  | .comment, _ => .comment

/-- The characters before a comment and the place at the end. -/
def followTo (place : Place) : List Char → List Char × Place
  | [] => ([], place)
  | c :: rest =>
    if place.next c = .comment then ([], .comment)
    else
      let (kept, last) := followTo (place.next c) rest
      (c :: kept, last)

/-- Cuts bytes after each line feed. -/
def splitLines : List UInt8 → List (List UInt8)
  | [] => []
  | b :: rest =>
    if b = 10 then [b] :: splitLines rest
    else
      match splitLines rest with
      | [] => [[b]]
      | line :: more => (b :: line) :: more

/-- The text of bytes. -/
def decode? (bytes : List UInt8) : Option (List Char) :=
  (String.fromUTF8? ⟨bytes.toArray⟩).map String.toList

/-- A line without its line feed and a carriage return before it. -/
def dropLineEnd (cs : List Char) : List Char :=
  if cs.getLast? = some '\n' then
    if cs.dropLast.getLast? = some '\r' then cs.dropLast.dropLast else cs.dropLast
  else cs

/-- Joins lines while a quote is open, up to the first one that is no text. What is left open
at the end of the file is no line. -/
def joinLines (pending : List Char) (place : Place) : List (List UInt8) → List (List Char)
  | [] => []
  | bytes :: rest =>
    match decode? bytes with
    | none => []
    | some cs =>
      if (dropSpace (pending ++ cs)).head? = some '#' then [] :: joinLines [] .outside rest
      else
        match followTo place cs with
        | (kept, .comment) => (pending ++ kept) :: joinLines [] .outside rest
        | (_, .outside) => dropLineEnd (pending ++ cs) :: joinLines [] .outside rest
        | (_, place) => joinLines (pending ++ cs) place rest

/-- The lines of a file, without a byte order mark. -/
def lines (bytes : List UInt8) : List (List Char) :=
  joinLines [] .outside <| splitLines <|
    match bytes with
    | 0xef :: 0xbb :: 0xbf :: rest => rest
    | _ => bytes

/-! ## Values -/

/-- Characters of the name of a variable in a value: ASCII letters and digits. -/
def isNameChar (c : Char) : Bool := c.isAlphanum

/-- The character that a backslash and one character stand for. -/
def escape? (c : Char) : Option Char :=
  if ['\\', '\'', '"', '$', ' '].contains c then some c else if c = 'n' then some '\n' else none

/-- Whether nothing but blanks and a comment stand after a value. -/
def isRest (cs : List Char) : Bool :=
  match cs.dropWhile fun c => c == ' ' || c == '\t' with
  | [] => true
  | c :: _ => c == '#'

/-- Splits at the first character that `mark` accepts. -/
def splitAt (mark : Char → Bool) (cs : List Char) : List Char × List Char :=
  (cs.takeWhile (!mark ·), cs.dropWhile (!mark ·))

theorem length_splitAt_le (mark : Char → Bool) (cs : List Char) :
    (splitAt mark cs).2.length ≤ cs.length :=
  (List.dropWhile_sublist _).length_le

/-- Reads a value, inside or outside of double quotes. `lookup` gives the values of variables.
After the name of a variable the next character is taken as it is. -/
def value? (lookup : String → String) (quoted : Bool) : List Char → Option (List Char)
  | [] => if quoted then none else some []
  | '\\' :: [] => if quoted then none else some []
  | '\\' :: c :: rest => do
    let e ← escape? c
    let more ← value? lookup quoted rest
    return e :: more
  | '$' :: '\x7b' :: rest =>
    match h : splitAt (· == '\x7d') rest with
    | (_, []) => none
    | (name, _ :: rest') =>
      have : rest'.length < rest.length := by
        have := length_splitAt_le (· == '\x7d') rest
        rw [h] at this
        exact this
      (value? lookup quoted rest').map ((lookup (String.ofList name)).toList ++ ·)
  | '$' :: rest =>
    match h : splitAt (!isNameChar ·) rest with
    | (name, []) => if quoted then none else some (lookup (String.ofList name)).toList
    | (name, c :: rest') =>
      have : rest'.length < rest.length := by
        have := length_splitAt_le (!isNameChar ·) rest
        rw [h] at this
        exact this
      let found := (lookup (String.ofList name)).toList
      if c = '$' then (value? lookup quoted (c :: rest')).map (found ++ ·)
      else (value? lookup quoted rest').map (found ++ c :: ·)
  | '"' :: rest => value? lookup (!quoted) rest
  | c :: rest =>
    if quoted then (value? lookup quoted rest).map (c :: ·)
    else if c = '\'' then
      match h : splitAt (· == '\'') rest with
      | (_, []) => none
      | (literal, _ :: rest') =>
        have : rest'.length < rest.length := by
          have := length_splitAt_le (· == '\'') rest
          rw [h] at this
          exact this
        (value? lookup quoted rest').map (literal ++ ·)
    else if c = ' ' || c = '\t' then if isRest rest then some [] else none
    else (value? lookup quoted rest).map (c :: ·)
termination_by cs => cs.length

/-! ## Assignments -/

/-- The name at the front of a line. -/
def name? (cs : List Char) : Option (List Char × List Char) :=
  match cs with
  | c :: _ =>
    if c.isAlpha || c == '_' then
      some (splitAt (fun c => !(c.isAlphanum || c == '_' || c == '.')) cs)
    else none
  | [] => none

/-- What follows an equals sign and the white space around it. -/
def afterEquals? (cs : List Char) : Option (List Char) :=
  match dropSpace cs with
  | '=' :: rest => some (dropSpace rest)
  | _ => none

/-- A name and what is assigned to it. -/
def target? (cs : List Char) : Option (List Char × List Char) := do
  let (name, rest) ← name? cs
  let rest ← afterEquals? rest
  return (name, rest)

/-- A name and what is assigned to it, after `export` or not; `export` may be a name itself. -/
def exported? (cs : List Char) : Option (List Char × List Char) := do
  let (name, rest) ← name? cs
  if name = "export".toList && (afterEquals? rest).isNone then target? (dropSpace rest)
  else target? cs

/-- Reads a line: `some none` is a line without an assignment, `none` is a bad line. -/
def assignment? (lookup : String → String) (line : List Char) :
    Option (Option (String × String)) :=
  match dropSpace (dropSpaceEnd line) with
  | [] => some none
  | '#' :: _ => some none
  | cs => do
    let (name, rest) ← exported? cs
    let v ← if rest.isEmpty || rest.head? = some '#' then some [] else value? lookup false rest
    return some (String.ofList name, String.ofList v)

/-- The variables after the lines, or `none` if the program panics at one of them. A variable that has a
value keeps it; in values the variables come first and then what earlier lines have assigned. -/
def assign? (env earlier : Environment) : List (List Char) → Option Environment
  | [] => some env
  | line :: rest =>
    let lookup (name : String) : String :=
      ((env.get? name).orElse fun _ => earlier.get? name).getD ""
    match assignment? lookup line with
    | none => some env
    | some none => assign? env earlier rest
    | some (some (name, v)) =>
      (env.setDefault? name v).bind fun env => assign? env (earlier.insert (name, v)) rest

/-- The variables after the file has been read, or `none` if the program panics at one of its lines. -/
def read? (env : Environment) (bytes : List UInt8) : Option Environment :=
  assign? env .empty (lines bytes)

end QueryBuilder.Dotenv
