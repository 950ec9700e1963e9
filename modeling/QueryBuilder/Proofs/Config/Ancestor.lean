import Mathlib.Data.List.Infix
import Mathlib.Data.List.Nodup
import QueryBuilder.Config.FileTree

/-!
# The ancestors of a path

What a path names is a list of components; empty segments and inner `.` segments are none. The
parent of a path is without the last component, whatever that is, so the ancestors of a path are
the prefixes of its components from the longest to the empty one (`Path.map_components_ancestors`),
all from the root or all from the working directory. What stands in the directory that a path names
depends on its components only (`FileTree.find?_child`), so a search upwards for a name may be
described by the prefixes that it passes (`Path.candidates`).
-/

namespace QueryBuilder
set_option autoImplicit false

namespace Path

/-- Whether a path starts from the root. -/
def isAbsolute (p : Path) : Bool := p.anchor = .root

/-- The segments that name something. -/
def named (segments : List String) : List String := segments.filter (!isVoid ·)

/-- What a path names, from the top down. A working directory that is written is a component. -/
def components (p : Path) : List String :=
  (if p.anchor = .here then ["."] else []) ++ named p.segments

/-- The path that starts from the root or from the working directory and names some components. -/
def ofComponents (absolute : Bool) (components : List String) : Path :=
  ⟨if absolute then .root else .implicit, components⟩

variable {p q : Path} {l : List String}

/-! ## Segments at the end -/

theorem named_cons (s : String) (l : List String) :
    named (s :: l) = if isVoid s then named l else s :: named l := by
  cases h : isVoid s <;> simp [named, h]

/-- Segments in front of one that is a component. -/
theorem named_concat {s : String} (h : isVoid s = false) (l : List String) :
    named (l ++ [s]) = named l ++ [s] := by
  simp [named, h]

theorem named_trimmed (l : List String) : named (trimmed l) = named l := by
  induction l with
  | nil => rfl
  | cons s rest ih =>
    rw [named_cons, ← ih, trimmed]
    split
    · next cut =>
      rw [cut]
      split
      · rfl
      · next meant => simpa [named_cons] using meant
    · next kept => rw [kept, named_cons s]

theorem isVoid_getLast_trimmed {s : String} (h : s ∈ (trimmed l).getLast?) : isVoid s = false := by
  induction l with
  | nil => cases h
  | cons t rest ih =>
    unfold trimmed at h
    split at h
    · split at h
      · cases h
      · next meant =>
        obtain rfl : t = s := by simpa using h
        simpa using meant
    · next kept =>
      rw [List.getLast?_cons_cons, ← kept] at h
      exact ih h

/-- Without the segments at its end that name nothing a list ends with a component, if it has one. -/
theorem trimmed_cases (l : List String) : trimmed l = [] ∧ named l = [] ∨
    ∃ front s, trimmed l = front ++ [s] ∧ named l = named front ++ [s] := by
  rcases List.eq_nil_or_concat (trimmed l) with cut | ⟨front, s, kept⟩
  · left
    rw [← named_trimmed, cut]
    exact ⟨rfl, rfl⟩
  · right
    rw [List.concat_eq_append] at kept
    have meant : isVoid s = false := isVoid_getLast_trimmed (l := l) (by simp [kept])
    exact ⟨front, s, kept, by rw [← named_trimmed, kept, named_concat meant]⟩

/-! ## Parents -/

theorem parent?_of_trimmed {front : List String} {s : String}
    (h : trimmed p.segments = front ++ [s]) : p.parent? = some ⟨p.anchor, trimmed front⟩ := by
  unfold parent?
  split
  · next cut => simp [cut] at h
  · next kept => rw [← kept, h, List.dropLast_concat]

/-- A path without components has no parent; the parent of another one is without the last. -/
theorem parent?_cases (p : Path) : p.parent? = none ∧ p.components = [] ∨
    ∃ q, p.parent? = some q ∧ p.components ≠ [] ∧ q.components = p.components.dropLast ∧
      q.isAbsolute = p.isAbsolute := by
  rcases trimmed_cases p.segments with ⟨cut, unnamed⟩ | ⟨front, s, kept, split⟩
  · by_cases here : p.anchor = .here
    · right
      have components : p.components = ["."] := by rw [components, if_pos here, unnamed]; rfl
      refine ⟨⟨.implicit, []⟩, ?_, by simp [components], by rw [components]; rfl, ?_⟩
      · rw [parent?, cut]
        exact if_pos here
      · rw [isAbsolute, isAbsolute, here]
        rfl
    · left
      refine ⟨?_, ?_⟩
      · rw [parent?, cut]
        exact if_neg here
      · rw [components, if_neg here, unnamed]
        rfl
  · right
    refine ⟨_, parent?_of_trimmed kept, by simp [components, split], ?_, rfl⟩
    rw [components, components, named_trimmed, split, ← List.append_assoc, List.dropLast_concat]

theorem ancestors_of_parent?_none (h : p.parent? = none) : p.ancestors = [p] := by
  rw [ancestors]
  split
  · rfl
  · next other => simp [h] at other

theorem ancestors_of_parent?_some (h : p.parent? = some q) : p.ancestors = p :: q.ancestors := by
  rw [ancestors]
  split
  · next other => simp [h] at other
  · next r other => rw [Option.some.inj (h.symm.trans other)]

/-- What holds of a path without components, and of every other path if it holds of its parent,
holds of all paths. -/
theorem parent_induction {motive : Path → Prop}
    (last : ∀ p : Path, p.parent? = none → p.components = [] → motive p)
    (next : ∀ p q : Path, p.parent? = some q → p.components ≠ [] →
      q.components = p.components.dropLast → q.isAbsolute = p.isAbsolute → motive q → motive p)
    (p : Path) : motive p := by
  induction h : p.depth using Nat.strongRecOn generalizing p with
  | ind n ih =>
    rcases p.parent?_cases with ⟨parent, empty⟩ | ⟨q, parent, nonempty, shorter, same⟩
    · exact last p parent empty
    · exact next p q parent nonempty shorter same (ih q.depth (h ▸ depth_of_parent? parent) q rfl)

/-! ## Ancestors -/

/-- The prefixes of a list from the longest to the empty one. -/
theorem reverse_inits {α : Type} {l : List α} (h : l ≠ []) :
    l.inits.reverse = l :: l.dropLast.inits.reverse := by
  obtain ⟨front, a, rfl⟩ := (List.eq_nil_or_concat l).resolve_left h
  simp [List.inits_append]

theorem pairwise_reverse_inits {α : Type} (l : List α) :
    l.inits.reverse.Pairwise fun a b => b.length < a.length := by
  induction l using List.reverseRecOn with
  | nil => simp
  | append_singleton front a ih =>
    rw [reverse_inits (by simp), List.dropLast_concat]
    refine List.pairwise_cons.2 ⟨fun b hb => ?_, ih⟩
    have shorter := ((List.mem_inits b front).1 (List.mem_reverse.1 hb)).length_le
    rw [List.length_append, List.length_singleton]
    omega

/-- The ancestors of a path are the prefixes of its components, the longest first. -/
theorem map_components_ancestors (p : Path) :
    p.ancestors.map components = p.components.inits.reverse := by
  induction p using parent_induction with
  | last p parent empty =>
    rw [ancestors_of_parent?_none parent, List.map_singleton, empty]
    rfl
  | next p q parent nonempty shorter _ ih =>
    rw [ancestors_of_parent?_some parent, List.map_cons, ih, shorter, ← reverse_inits nonempty]

theorem isAbsolute_of_mem_ancestors {p : Path} (h : q ∈ p.ancestors) :
    q.isAbsolute = p.isAbsolute := by
  induction p using parent_induction with
  | last p parent _ =>
    rw [ancestors_of_parent?_none parent, List.mem_singleton] at h
    rw [h]
  | next p r parent _ _ same ih =>
    rw [ancestors_of_parent?_some parent, List.mem_cons] at h
    rcases h with rfl | h
    · rfl
    · exact (ih h).trans same

/-! ## Entries of a directory -/

theorem named_named (l : List String) : named (named l) = named l := by
  simp [named]

theorem named_components (p : Path) : named p.components = named p.segments := by
  unfold components
  split
  · rw [List.singleton_append, named_cons, named_named]
    rfl
  · exact named_named _

/-- A slash at the end of a path is not repeated. -/
theorem exists_segments_child (p : Path) (name : String) : ∃ front,
    (p.child name).segments = front ++ [name] ∧ named front = named p.segments := by
  refine ⟨_, rfl, ?_⟩
  split
  · next slash =>
    obtain ⟨front, split⟩ := List.getLast?_eq_some_iff.1 slash
    rw [split, List.dropLast_concat]
    simp [named, isVoid]
  · rfl

section Candidates

variable {name : String} {start : Path}

theorem components_child (hname : isVoid name = false) (p : Path) :
    (p.child name).components = p.components ++ [name] := by
  obtain ⟨front, segments, same⟩ := p.exists_segments_child name
  rw [components, segments, named_concat hname, same, components, List.append_assoc]
  rfl

/-- The paths of an entry of some name in the directory of a path and in its ancestors. -/
def candidates (name : String) (start : Path) : List Path := start.ancestors.map (·.child name)

theorem map_components_candidates (hname : isVoid name = false) (start : Path) :
    (candidates name start).map components = start.components.inits.reverse.map (· ++ [name]) := by
  rw [candidates, List.map_map, ← map_components_ancestors, List.map_map]
  exact List.map_congr_left fun p _ => components_child hname p

theorem length_candidates (name : String) (start : Path) :
    (candidates name start).length = start.components.length + 1 := by
  have lengths := congrArg List.length start.map_components_ancestors
  simpa [candidates] using lengths

theorem isAbsolute_of_mem_candidates (hp : p ∈ candidates name start) :
    p.isAbsolute = start.isAbsolute := by
  obtain ⟨q, hq, rfl⟩ := List.mem_map.1 hp
  have same : (q.child name).isAbsolute = q.isAbsolute := rfl
  exact same.trans (isAbsolute_of_mem_ancestors hq)

theorem exists_candidate (hname : isVoid name = false) {directory : List String}
    (above : directory <+: start.components) :
    ∃ p ∈ candidates name start, p.components = directory ++ [name] := by
  have listed : directory ++ [name] ∈ (candidates name start).map components := by
    rw [map_components_candidates hname]
    exact List.mem_map_of_mem (List.mem_reverse.2 ((List.mem_inits _ _).2 above))
  exact List.mem_map.1 listed

theorem pairwise_candidates (hname : isVoid name = false) (start : Path) :
    (candidates name start).Pairwise fun p q => q.components.length < p.components.length := by
  rw [← List.pairwise_map (f := components) (R := fun a b => b.length < a.length),
    map_components_candidates hname, List.pairwise_map]
  exact (pairwise_reverse_inits _).imp fun shorter => by simpa using shorter

theorem candidate_unique (hname : isVoid name = false) (hp : p ∈ candidates name start)
    (hq : q ∈ candidates name start) (same : p.components = q.components) : p = q := by
  have distinct : ((candidates name start).map components).Nodup :=
    List.pairwise_map.2 ((pairwise_candidates hname start).imp fun shorter same =>
      absurd (congrArg List.length same) (Nat.ne_of_gt shorter))
  exact List.inj_on_of_nodup_map distinct hp hq same

/-- The candidate in a longer directory comes before the one in a shorter. -/
theorem mem_before_of_longer (hname : isVoid name = false) {before after : List Path}
    (split : candidates name start = before ++ p :: after) (hq : q ∈ candidates name start)
    (longer : p.components.length < q.components.length) : q ∈ before := by
  have order := pairwise_candidates hname start
  rw [split, List.pairwise_append, List.pairwise_cons] at order
  rw [split, List.mem_append, List.mem_cons] at hq
  rcases hq with hq | rfl | hq
  · exact hq
  · exact absurd longer (Nat.lt_irrefl _)
  · exact absurd longer (Nat.lt_asymm (order.2.1.1 q hq))

end Candidates

end Path

namespace FileTree

open QueryBuilder.Path

variable {t : FileTree} {position l : List String}

theorem follow?_eq_none (h : t.entry? position ≠ some .directory) (hl : l ≠ []) :
    t.follow? position l = none := by
  obtain ⟨s, rest, rfl⟩ := List.exists_cons_of_ne_nil hl
  rw [follow?, if_pos h]

/-- Segments that name nothing do not count on the way to an entry. -/
theorem follow?_append_singleton (t : FileTree) (position l : List String) (name : String) :
    t.follow? position (l ++ [name]) = t.follow? position (named l ++ [name]) := by
  induction l generalizing position with
  | nil => rfl
  | cons s rest ih =>
    by_cases directory : t.entry? position = some .directory
    · rw [named_cons, List.cons_append, follow?, if_neg (not_not.2 directory)]
      split
      · exact ih position
      · next meant =>
        rw [List.cons_append, follow?, if_neg (not_not.2 directory), if_neg meant, ih, ih]
    · rw [follow?_eq_none directory (by simp), follow?_eq_none directory (by simp)]

/-- What stands in the directory of a path depends on where the path starts and what it names. -/
theorem find?_child (t : FileTree) (cwd : List String) (p : Path) (name : String) :
    t.find? cwd (p.child name) =
      t.find? cwd (.ofComponents p.isAbsolute (p.components ++ [name])) := by
  obtain ⟨front, segments, same⟩ := p.exists_segments_child name
  have start : (if (p.child name).anchor = .root then [] else cwd) =
      if (ofComponents p.isAbsolute (p.components ++ [name])).anchor = .root then [] else cwd := by
    by_cases root : p.anchor = .root <;> simp [isAbsolute, ofComponents, child, root]
  have components : (ofComponents p.isAbsolute (p.components ++ [name])).segments =
      p.components ++ [name] := rfl
  rw [find?, find?, start, segments, components, follow?_append_singleton, same,
    follow?_append_singleton t _ p.components, named_components]

end FileTree

end QueryBuilder
