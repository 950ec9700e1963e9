/-!
# Paths

A path is a text; its parts are the segments between slashes. The parent of a path is cut
off the text: the last segment goes, and with it slashes and `.` segments that then stand at
the end. `..` is a segment like any other. A relative path ends its line of ancestors with
the empty path, an absolute one with the root.
-/

namespace QueryBuilder
set_option autoImplicit false

/-- What a path starts from. -/
inductive Anchor where
  /-- The root of the file tree: a leading slash. -/
  | root
  /-- The working directory, written as a leading `.` segment. -/
  | here
  /-- The working directory, not written. -/
  | implicit
  deriving DecidableEq

/-- A path, with the segments after its anchor as they are written. -/
structure Path where
  anchor : Anchor
  segments : List String
  deriving DecidableEq

namespace Path

/-- The texts between slashes. -/
def splitSlash : List Char → List (List Char)
  | [] => [[]]
  | '/' :: rest => [] :: splitSlash rest
  | c :: rest =>
    match splitSlash rest with
    | [] => [[c]]
    | s :: more => (c :: s) :: more

/-- The texts between slashes of a text that is not empty. -/
def splitSegments (cs : List Char) : List String :=
  if cs.isEmpty then [] else (splitSlash cs).map String.ofList

/-- Reads a path. -/
def ofText (s : String) : Path :=
  match s.toList with
  | '/' :: rest => ⟨.root, splitSegments rest⟩
  | ['.'] => ⟨.here, []⟩
  | '.' :: '/' :: rest => ⟨.here, (splitSlash rest).map String.ofList⟩
  | cs => ⟨.implicit, splitSegments cs⟩

/-- The text of a path. -/
def text (p : Path) : String :=
  match p.anchor with
  | .root => "/" ++ "/".intercalate p.segments
  | .here => p.segments.foldl (· ++ "/" ++ ·) "."
  | .implicit => "/".intercalate p.segments

/-- Whether a segment names nothing: it is empty or the directory itself. -/
def isVoid (segment : String) : Bool := segment == "" || segment == "."

/-- The segments without those at the end that name nothing. -/
def trimmed : List String → List String
  | [] => []
  | s :: rest =>
    match trimmed rest with
    | [] => if isVoid s then [] else [s]
    | r :: more => s :: r :: more

theorem length_trimmed_le (l : List String) : (trimmed l).length ≤ l.length := by
  induction l with
  | nil => simp [trimmed]
  | cons s rest ih =>
    unfold trimmed
    split
    · split <;> simp
    · next h => rw [h] at ih; simpa using ih

/-- The path without its last segment, if there is one to take away. -/
def parent? (p : Path) : Option Path :=
  match trimmed p.segments with
  | [] => if p.anchor = .here then some ⟨.implicit, []⟩ else none
  | s :: rest => some ⟨p.anchor, trimmed (s :: rest).dropLast⟩

/-- An upper bound on how often a parent can be taken. -/
def depth (p : Path) : Nat := p.segments.length + if p.anchor = .here then 1 else 0

theorem depth_of_parent? {p q : Path} (h : p.parent? = some q) : q.depth < p.depth := by
  unfold parent? at h
  split at h
  · split at h
    · next ha => cases h; simp [depth, ha]
    · cases h
  · next s rest ht =>
    cases h
    have h₁ := length_trimmed_le p.segments
    have h₂ := length_trimmed_le (s :: rest).dropLast
    rw [ht] at h₁
    simp only [List.length_dropLast, List.length_cons] at h₁ h₂
    simp only [depth]
    omega

/-- The path, its parent, the parent of that, and so on to the last one. -/
def ancestors (p : Path) : List Path :=
  p :: match h : p.parent? with
    | none => []
    | some q =>
      have := depth_of_parent? h
      ancestors q
termination_by p.depth

/-- The path of an entry of the directory that `p` names. -/
def child (p : Path) (name : String) : Path :=
  { p with segments :=
      (if p.segments.getLast? = some "" then p.segments.dropLast else p.segments) ++ [name] }

end Path

end QueryBuilder
