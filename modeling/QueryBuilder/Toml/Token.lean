/-!
# TOML tokens

`Token.scan` cuts a text into tokens: punctuation, blanks, line ends, strings and words. A
word is a run of characters without a meaning of their own: a bare key, a number, a date.
Comments are dropped. The scan fails at a string that is not closed, at an escape that does
not exist, at a control character and at a carriage return that no line feed follows.
-/

namespace QueryBuilder.Toml
set_option autoImplicit false

/-- A lexical unit of a document. -/
inductive Token where
  | dot
  | equals
  | comma
  | openBracket
  | closeBracket
  | openBrace
  | closeBrace
  /-- A run of spaces and tabs. -/
  | blank (run : List Char)
  | newline
  /-- The content of a string, and whether it is written with three quotes. -/
  | string (content : String) (multiline : Bool)
  | word (text : List Char)
  deriving DecidableEq

/-- Spaces and tabs. -/
def isBlank (c : Char) : Bool := c == ' ' || c == '\t'

/-- Characters that may stand in strings and comments as they are: no control character but
the tab. -/
def isPlain (c : Char) : Bool := c == '\t' || ('\x20' ≤ c && c != '\x7f')

/-- Characters that end a word. -/
def endsWord (c : Char) : Bool :=
  ['.', '=', ',', '[', ']', '\x7b', '\x7d', ' ', '\t', '\n', '\r', '#', '"', '\''].contains c

/-- The value of a hexadecimal digit of either case. -/
def hexDigit? (c : Char) : Option Nat :=
  if '0' ≤ c && c ≤ '9' then some (c.toNat - '0'.toNat)
  else if 'a' ≤ c && c ≤ 'f' then some (c.toNat - 'a'.toNat + 10)
  else if 'A' ≤ c && c ≤ 'F' then some (c.toNat - 'A'.toNat + 10)
  else none

/-- The character whose code point the hexadecimal digits give. -/
def codePoint? (digits : List Char) : Option Char := do
  let n ← digits.foldlM (fun n c => (hexDigit? c).map (16 * n + ·)) 0
  if n.isValidChar then some (Char.ofNat n) else none

/-- The character that a backslash and one letter stand for. -/
def shortEscape? : Char → Option Char
  | 'b' => some '\x08'
  | 't' => some '\t'
  | 'n' => some '\n'
  | 'f' => some '\x0c'
  | 'r' => some '\r'
  | 'e' => some '\x1b'
  | '"' => some '"'
  | '\\' => some '\\'
  | _ => none

/-- Reads an escape after its backslash. -/
def escape? : List Char → Option (Char × List Char)
  | 'x' :: a :: b :: rest => (codePoint? [a, b]).map (·, rest)
  | 'u' :: a :: b :: c :: d :: rest => (codePoint? [a, b, c, d]).map (·, rest)
  | 'U' :: a :: b :: c :: d :: e :: f :: g :: h :: rest =>
    (codePoint? [a, b, c, d, e, f, g, h]).map (·, rest)
  | c :: rest => (shortEscape? c).map (·, rest)
  | [] => none

theorem length_of_escape? {cs rest : List Char} {c : Char} (h : escape? cs = some (c, rest)) :
    rest.length < cs.length := by
  have eq_of_map {x : Option Char} {tail : List Char}
      (hx : x.map (fun c => (c, tail)) = some (c, rest)) : rest = tail := by
    obtain ⟨_, _, he⟩ := Option.map_eq_some_iff.1 hx
    exact (Prod.mk.inj he).2.symm
  unfold escape? at h
  split at h
  · rw [eq_of_map h]; simp only [List.length_cons]; omega
  · rw [eq_of_map h]; simp only [List.length_cons]; omega
  · rw [eq_of_map h]; simp only [List.length_cons]; omega
  · rw [eq_of_map h]; exact Nat.lt_succ_self _
  · exact absurd h (by simp)

/-- The content of a string in double quotes, and what follows it. -/
def basicString? : List Char → Option (List Char × List Char)
  | [] => none
  | '"' :: rest => some ([], rest)
  | '\\' :: rest =>
    match h : escape? rest with
    | none => none
    | some (c, rest') =>
      have : rest'.length < rest.length := length_of_escape? h
      (basicString? rest').map fun p => (c :: p.1, p.2)
  | c :: rest => if isPlain c then (basicString? rest).map fun p => (c :: p.1, p.2) else none
termination_by cs => cs.length

/-- The content of a string in single quotes, and what follows it. -/
def literalString? : List Char → Option (List Char × List Char)
  | [] => none
  | '\'' :: rest => some ([], rest)
  | c :: rest => if isPlain c then (literalString? rest).map fun p => (c :: p.1, p.2) else none

/-- What follows a backslash that ends a line: the blanks and line ends after it are dropped,
and there has to be a line end among them. -/
def afterLineBreak? (ended : Bool) : List Char → Option (List Char)
  | '\n' :: rest => afterLineBreak? true rest
  | '\r' :: '\n' :: rest => afterLineBreak? true rest
  | ' ' :: rest => afterLineBreak? ended rest
  | '\t' :: rest => afterLineBreak? ended rest
  | rest => if ended then some rest else none

theorem length_of_afterLineBreak? {ended : Bool} {cs rest : List Char}
    (h : afterLineBreak? ended cs = some rest) : rest.length ≤ cs.length := by
  fun_induction afterLineBreak? ended cs <;> simp_all <;> omega

/-- The content of a string in three double quotes, and what follows it. Up to two quotes
before the closing three belong to the content. -/
def multilineBasicString? : List Char → Option (List Char × List Char)
  | [] => none
  | '"' :: '"' :: '"' :: '"' :: '"' :: rest => some (['"', '"'], rest)
  | '"' :: '"' :: '"' :: '"' :: rest => some (['"'], rest)
  | '"' :: '"' :: '"' :: rest => some ([], rest)
  | '\\' :: rest =>
    match h : escape? rest with
    | some (c, rest') =>
      have : rest'.length < rest.length := length_of_escape? h
      (multilineBasicString? rest').map fun p => (c :: p.1, p.2)
    | none =>
      match h' : afterLineBreak? false rest with
      | none => none
      | some rest' =>
        have : rest'.length ≤ rest.length := length_of_afterLineBreak? h'
        multilineBasicString? rest'
  | '\r' :: '\n' :: rest => (multilineBasicString? rest).map fun p => ('\r' :: '\n' :: p.1, p.2)
  | c :: rest =>
    if isPlain c || c == '\n' then
      (multilineBasicString? rest).map fun p => (c :: p.1, p.2)
    else none
termination_by cs => cs.length

/-- The content of a string in three single quotes, and what follows it. Up to two quotes
before the closing three belong to the content. -/
def multilineLiteralString? : List Char → Option (List Char × List Char)
  | [] => none
  | '\'' :: '\'' :: '\'' :: '\'' :: '\'' :: rest => some (['\'', '\''], rest)
  | '\'' :: '\'' :: '\'' :: '\'' :: rest => some (['\''], rest)
  | '\'' :: '\'' :: '\'' :: rest => some ([], rest)
  | '\r' :: '\n' :: rest => (multilineLiteralString? rest).map fun p => ('\r' :: '\n' :: p.1, p.2)
  | c :: rest =>
    if isPlain c || c == '\n' then
      (multilineLiteralString? rest).map fun p => (c :: p.1, p.2)
    else none

/-- Drops the line end right after the opening quotes of a string of several lines. -/
def dropFirstLineEnd : List Char → List Char
  | '\n' :: rest => rest
  | '\r' :: '\n' :: rest => rest
  | cs => cs

/-- Drops a comment up to the end of its line, if its characters may stand in one. -/
def afterComment? (cs : List Char) : Option (List Char) :=
  let body := cs.takeWhile (· != '\n')
  let rest := cs.dropWhile (· != '\n')
  let body := if !rest.isEmpty && body.getLast? == some '\r' then body.dropLast else body
  if body.all isPlain then some rest else none

namespace Token

/-- The string token with the content read by one of the readers above. -/
def ofString? (multiline : Bool) (read : Option (List Char × List Char)) :
    Option (Option Token × List Char) :=
  read.map fun p => (some (string (String.ofList p.1) multiline), p.2)

/-- The first token of a text, if it is not a comment, and what follows it. -/
def first? : List Char → Option (Option Token × List Char)
  | [] => none
  | '.' :: rest => some (some dot, rest)
  | '=' :: rest => some (some equals, rest)
  | ',' :: rest => some (some comma, rest)
  | '[' :: rest => some (some openBracket, rest)
  | ']' :: rest => some (some closeBracket, rest)
  | '\x7b' :: rest => some (some openBrace, rest)
  | '\x7d' :: rest => some (some closeBrace, rest)
  | '\n' :: rest => some (some newline, rest)
  | '\r' :: '\n' :: rest => some (some newline, rest)
  | '\r' :: _ => none
  | '#' :: rest => (afterComment? rest).map (none, ·)
  | '"' :: '"' :: '"' :: rest => ofString? true (multilineBasicString? (dropFirstLineEnd rest))
  | '"' :: rest => ofString? false (basicString? rest)
  | '\'' :: '\'' :: '\'' :: rest => ofString? true (multilineLiteralString? (dropFirstLineEnd rest))
  | '\'' :: rest => ofString? false (literalString? rest)
  | cs@(c :: _) =>
    if isBlank c then some (some (blank (cs.takeWhile isBlank)), cs.dropWhile isBlank)
    else some (some (word (cs.takeWhile (!endsWord ·))), cs.dropWhile (!endsWord ·))

/-- The tokens of at most `n` lexical units. -/
def scanUpTo : Nat → List Char → Option (List Token)
  | _, [] => some []
  | 0, _ => none
  | n + 1, cs => do
    let (token, rest) ← first? cs
    let tokens ← scanUpTo n rest
    return token.toList ++ tokens

/-- The tokens of a text. No unit is empty, so a text has at most as many units as characters. -/
def scan (cs : List Char) : Option (List Token) := scanUpTo cs.length cs

end Token

end QueryBuilder.Toml
