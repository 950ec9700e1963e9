import QueryBuilder.Config.Path

/-!
# File trees

A file tree says what stands at each absolute position. A path is followed segment by
segment: everything on the way has to be a directory, `..` leads to the directory above and
stays at the root.
-/

namespace QueryBuilder
set_option autoImplicit false

/-- What stands at a position of a file tree. -/
inductive Entry where
  | file (content : List UInt8)
  | directory
  deriving DecidableEq

/-- The entries of a file tree by their names from the root downwards. -/
structure FileTree where
  entry? : List String → Option Entry

namespace FileTree

/-- The tree with nothing but its root. -/
def empty : FileTree := ⟨fun position => if position.isEmpty then some .directory else none⟩

/-- The tree with one entry changed. -/
def set (t : FileTree) (position : List String) (e : Entry) : FileTree :=
  ⟨fun other => if other = position then some e else t.entry? other⟩

/-- The tree with the directories down to a position. -/
def withDirectory (t : FileTree) (position : List String) : FileTree :=
  (List.range (position.length + 1)).foldl (fun t n => t.set (position.take n) .directory) t

/-- The tree with an entry at a position and the directories above it. -/
def add (t : FileTree) (position : List String) (e : Entry) : FileTree :=
  (t.withDirectory position.dropLast).set position e

/-- The position that segments lead to from a directory. -/
def follow? (t : FileTree) : List String → List String → Option (List String)
  | position, [] => some position
  | position, s :: rest =>
    if t.entry? position ≠ some .directory then none
    else if Path.isVoid s then t.follow? position rest
    else if s = ".." then t.follow? position.dropLast rest
    else t.follow? (position ++ [s]) rest

/-- What a path leads to from a working directory. -/
def find? (t : FileTree) (cwd : List String) (p : Path) : Option Entry :=
  (t.follow? (if p.anchor = .root then [] else cwd) p.segments).bind t.entry?

end FileTree

end QueryBuilder
