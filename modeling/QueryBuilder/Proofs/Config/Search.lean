import QueryBuilder.Config.Load
import QueryBuilder.Proofs.Config.Ancestor

/-!
# The search for a configuration

A configuration is looked for in the directory of a path and then in each of its ancestors, and the
search ends with the first entry that has the name (`Host.search`). So it probes at most one path
more than the start has components, and the directory of the entry that it finds is the longest
prefix of the start that has one (`Host.Nearest`). What that entry is decides the outcome
(`Entry.Reads`), whatever stands in the directories above it. Main statement: `Host.searches`.
-/

namespace QueryBuilder
set_option autoImplicit false

/-! ## What an entry gives -/

/-- What comes of reading an entry as a configuration. -/
inductive Entry.Reads : Entry → Except ConfigError Config → Prop where
  | directory : Reads .directory (.error .isDirectory)
  | notUtf8 {content : List UInt8} (bytes : String.fromUTF8? ⟨content.toArray⟩ = none) :
      Reads (.file content) (.error .notUtf8)
  | malformed {content : List UInt8} {s : String}
      (bytes : String.fromUTF8? ⟨content.toArray⟩ = some s) (text : Toml.read? s = none) :
      Reads (.file content) (.error .malformed)
  | undecodable {content : List UInt8} {s : String} {t : Toml.Table} {cause : DecodeError}
      (bytes : String.fromUTF8? ⟨content.toArray⟩ = some s) (text : Toml.read? s = some t)
      (decoded : Config.ofTable t = .error cause) : Reads (.file content) (.error (.undecodable cause))
  | config {content : List UInt8} {s : String} {t : Toml.Table} {c : Config}
      (bytes : String.fromUTF8? ⟨content.toArray⟩ = some s) (text : Toml.read? s = some t)
      (decoded : Config.ofTable t = .ok c) : Reads (.file content) (.ok c)

namespace Entry.Reads

variable {e : Entry} {r r' : Except ConfigError Config}

theorem unique (h : e.Reads r) (h' : e.Reads r') : r = r' := by
  cases h <;> cases h' <;> simp_all

/-- An entry that is there is not reported as missing. -/
theorem ne_notFound (h : e.Reads r) : r ≠ .error .notFound := by
  cases h <;> simp

end Entry.Reads

namespace Host

variable {h h' : Host} {start p : Path} {e : Entry}

theorem reads_readConfig (entry : h.entry? p = some e) : e.Reads (h.readConfig p) := by
  rw [readConfig, entry]
  cases e with
  | directory => exact .directory
  | file content =>
    dsimp only
    cases bytes : String.fromUTF8? ⟨content.toArray⟩ with
    | none => exact .notUtf8 bytes
    | some s =>
      dsimp only
      rw [Config.parse]
      cases text : Toml.read? s with
      | none => exact .malformed bytes text
      | some t =>
        dsimp only
        cases decoded : Config.ofTable t with
        | error cause => exact .undecodable bytes text decoded
        | ok c => exact .config bytes text decoded

/-! ## Probes -/

/-- The paths that are probed in turn from a directory upwards, and the one that is found. -/
def search (present : Path → Bool) (directory : Path) : List Path × Option Path :=
  let probe := directory.child configName
  if present probe then ([probe], some probe)
  else
    match parent : directory.parent? with
    | none => ([probe], none)
    | some above =>
      have := Path.depth_of_parent? parent
      let rest := search present above
      (probe :: rest.1, rest.2)
termination_by directory.depth

section Probes

variable {present present' : Path → Bool} {directory above : Path}

theorem search_of_present (found : present (directory.child configName) = true) :
    search present directory =
      ([directory.child configName], some (directory.child configName)) := by
  rw [search, if_pos found]

theorem search_of_parent?_none (missing : present (directory.child configName) = false)
    (parent : directory.parent? = none) :
    search present directory = ([directory.child configName], none) := by
  rw [search, if_neg (by simp [missing])]
  split
  · rfl
  · next other => simp [parent] at other

theorem search_of_parent?_some (missing : present (directory.child configName) = false)
    (parent : directory.parent? = some above) : search present directory =
      (directory.child configName :: (search present above).1, (search present above).2) := by
  rw [search, if_neg (by simp [missing])]
  split
  · next other => simp [parent] at other
  · next q other => rw [Option.some.inj (parent.symm.trans other)]

/-- The search probes the candidates in order, up to the first that is there. -/
theorem search_eq (present : Path → Bool) (start : Path) : search present start =
    ((Path.candidates configName start).take ((Path.candidates configName start).findIdx present + 1),
      (Path.candidates configName start).find? present) := by
  induction start using Path.parent_induction with
  | last p parent _ =>
    rw [Path.candidates, Path.ancestors_of_parent?_none parent, List.map_singleton]
    cases found : present (p.child configName) with
    | true => rw [search_of_present found]; simp [found]
    | false => rw [search_of_parent?_none found parent]; simp [found]
  | next p q parent _ _ _ ih =>
    have more : Path.candidates configName p =
        p.child configName :: Path.candidates configName q := by
      rw [Path.candidates, Path.ancestors_of_parent?_some parent]
      rfl
    rw [more]
    cases found : present (p.child configName) with
    | true => rw [search_of_present found]; simp [List.findIdx_cons, found]
    | false => rw [search_of_parent?_some found parent, ih]; simp [List.findIdx_cons, found]

/-- A search depends on what it probes only. -/
theorem search_congr {start : Path}
    (agree : ∀ p ∈ (search present start).1, present' p = present p) :
    search present' start = search present start := by
  induction start using Path.parent_induction with
  | last p parent _ =>
    cases found : present (p.child configName) with
    | true =>
      rw [search_of_present found] at agree ⊢
      exact search_of_present ((agree _ (List.mem_singleton_self _)).trans found)
    | false =>
      rw [search_of_parent?_none found parent] at agree ⊢
      exact search_of_parent?_none ((agree _ (List.mem_singleton_self _)).trans found) parent
  | next p q parent _ _ _ ih =>
    cases found : present (p.child configName) with
    | true =>
      rw [search_of_present found] at agree ⊢
      exact search_of_present ((agree _ (List.mem_singleton_self _)).trans found)
    | false =>
      rw [search_of_parent?_some found parent] at agree ⊢
      obtain ⟨first, others⟩ := List.forall_mem_cons.1 agree
      rw [search_of_parent?_some (first.trans found) parent, ih others]

/-- What is found has been probed. -/
theorem mem_search {start : Path} (found : (search present start).2 = some p) :
    p ∈ (search present start).1 := by
  induction start using Path.parent_induction with
  | last q parent _ =>
    cases there : present (q.child configName) with
    | true => simp_all [search_of_present there]
    | false => simp [search_of_parent?_none there parent] at found
  | next q r parent _ _ _ ih =>
    cases there : present (q.child configName) with
    | true => simp_all [search_of_present there]
    | false =>
      rw [search_of_parent?_some there parent] at found ⊢
      exact List.mem_cons_of_mem _ (ih found)

end Probes

/-! ## The nearest entry -/

/-- What stands under a name in the directory that components name from where a path starts. -/
def entryIn (h : Host) (name : String) (start : Path) (directory : List String) : Option Entry :=
  h.entry? (.ofComponents start.isAbsolute (directory ++ [name]))

/-- Of all prefixes of the start, the longest that names a directory with an entry of a name that is
of use, and what the entry is used for. -/
structure Nearest {β : Type} (h : Host) (name : String) (use : Entry → Option β) (start : Path)
    (directory : List String) (b : β) : Prop where
  above : directory <+: start.components
  entry : (h.entryIn name start directory).bind use = some b
  longest : ∀ d, d <+: start.components → directory.length < d.length →
    (h.entryIn name start d).bind use = none

section Nearest

variable {β : Type} {use : Entry → Option β} {name : String} {directory : List String} {b : β}

theorem Nearest.unique {d : List String} {a : β} (hd : h.Nearest name use start d a)
    (hd' : h.Nearest name use start directory b) : d = directory ∧ a = b := by
  have lengths : d.length = directory.length := by
    rcases Nat.lt_trichotomy d.length directory.length with less | same | greater
    · cases (hd.longest directory hd'.above less).symm.trans hd'.entry
    · exact same
    · cases (hd'.longest d hd.above greater).symm.trans hd.entry
  have same : d = directory :=
    (List.prefix_of_prefix_length_le hd.above hd'.above lengths.le).eq_of_length lengths
  subst same
  exact ⟨rfl, Option.some.inj (hd.entry.symm.trans hd'.entry)⟩

/-- A candidate stands in a directory that a prefix of the start names. -/
theorem exists_directory (hname : Path.isVoid name = false) (hp : p ∈ Path.candidates name start) :
    ∃ directory, directory <+: start.components ∧ p.components = directory ++ [name] ∧
      ∀ h : Host, h.entry? p = h.entryIn name start directory := by
  obtain ⟨q, hq, rfl⟩ := List.mem_map.1 hp
  have above : q.components ∈ start.components.inits.reverse := by
    rw [← Path.map_components_ancestors]
    exact List.mem_map_of_mem hq
  refine ⟨q.components, (List.mem_inits _ _).1 (List.mem_reverse.1 above),
    Path.components_child hname q, fun h => ?_⟩
  unfold entry?
  rw [FileTree.find?_child, Path.isAbsolute_of_mem_ancestors hq]
  rfl

theorem entry?_of_mem_candidates (hname : Path.isVoid name = false)
    (hp : p ∈ Path.candidates name start) (components : p.components = directory ++ [name])
    (h : Host) : h.entry? p = h.entryIn name start directory := by
  obtain ⟨other, _, same, entry⟩ := exists_directory hname hp
  rw [entry, List.append_cancel_right (same.symm.trans components)]

theorem forall_candidates_iff (hname : Path.isVoid name = false) (P : Option Entry → Prop) :
    (∀ p ∈ Path.candidates name start, P (h.entry? p)) ↔
      ∀ d, d <+: start.components → P (h.entryIn name start d) := by
  constructor
  · intro all d hd
    obtain ⟨p, hp, components⟩ := Path.exists_candidate hname hd
    rw [← entry?_of_mem_candidates hname hp components]
    exact all p hp
  · intro all p hp
    obtain ⟨d, hd, _, entry⟩ := exists_directory hname hp
    rw [entry]
    exact all d hd

/-- The first candidate of use stands in the longest directory that has one. -/
theorem nearest_of_split (hname : Path.isVoid name = false) {before after : List Path}
    (split : Path.candidates name start = before ++ p :: after)
    (found : (h.entry? p).bind use = some b)
    (missing : ∀ q ∈ before, (h.entry? q).bind use = none) :
    ∃ directory, h.Nearest name use start directory b ∧ p.components = directory ++ [name] := by
  have candidate : p ∈ Path.candidates name start := by simp [split]
  obtain ⟨directory, above, components, entry⟩ := exists_directory hname candidate
  refine ⟨directory, ⟨above, entry h ▸ found, fun d hd longer => ?_⟩, components⟩
  obtain ⟨q, hq, names⟩ := Path.exists_candidate hname hd
  rw [← entry?_of_mem_candidates hname hq names]
  refine missing q (Path.mem_before_of_longer hname split hq ?_)
  simpa [names, components] using longer

end Nearest

/-! ## The nearest configuration -/

/-- Whether something stands at a path. -/
def present (h : Host) (p : Path) : Bool := (h.entry? p).isSome

theorem isVoid_configName : Path.isVoid configName = false := by decide

theorem findConfig?_eq (h : Host) (start : Path) :
    h.findConfig? start = (search h.present start).2 := by
  rw [search_eq]
  rfl

theorem nearest_of_findConfig? (found : h.findConfig? start = some p) :
    p ∈ Path.candidates configName start ∧ ∃ directory e,
      h.Nearest configName some start directory e ∧ p.components = directory ++ [configName] := by
  obtain ⟨there, before, after, split, missing⟩ := List.find?_eq_some_iff_append.1 found
  rw [← Path.candidates] at split
  obtain ⟨e, entry⟩ := Option.isSome_iff_exists.1 there
  have entry' : (h.entry? p).bind some = some e := by rw [entry, Option.bind_some]
  obtain ⟨directory, near, components⟩ := nearest_of_split isVoid_configName split entry'
    fun q hq => by simpa using missing q hq
  exact ⟨by simp [split], directory, e, near, components⟩

theorem findConfig?_eq_none_iff : h.findConfig? start = none ↔
    ∀ d, d <+: start.components → h.entryIn configName start d = none := by
  rw [← forall_candidates_iff isVoid_configName (· = none), findConfig?, ← Path.candidates]
  simp

theorem Nearest.findConfig? {directory : List String}
    (near : h.Nearest configName some start directory e)
    (hp : p ∈ Path.candidates configName start) (components : p.components = directory ++ [configName]) :
    h.findConfig? start = some p := by
  cases found : h.findConfig? start with
  | none =>
    have entry := near.entry
    rw [findConfig?_eq_none_iff.1 found directory near.above] at entry
    cases entry
  | some q =>
    obtain ⟨hq, other, e', near', names⟩ := nearest_of_findConfig? found
    rw [(near'.unique near).1, ← components] at names
    rw [Path.candidate_unique isVoid_configName hq hp names]

theorem loadFrom_of_findConfig? (found : h.findConfig? start = some p) :
    h.loadFrom start = (h.readConfig p).map (·, p) := by
  rw [loadFrom, found]

/-- What comes of loading the nearest configuration. -/
theorem Nearest.loadFrom {directory : List String}
    (near : h.Nearest configName some start directory e) :
    ∃ p ∈ Path.candidates configName start, p.components = directory ++ [configName] ∧
      h.findConfig? start = some p ∧ e.Reads (h.readConfig p) ∧
      h.loadFrom start = (h.readConfig p).map (·, p) := by
  obtain ⟨p, hp, components⟩ := Path.exists_candidate isVoid_configName near.above
  have found := near.findConfig? hp components
  have entry : h.entry? p = some e := by
    have place := entry?_of_mem_candidates isVoid_configName hp components h
    rw [place]
    simpa using near.entry
  exact ⟨p, hp, components, found, reads_readConfig entry, loadFrom_of_findConfig? found⟩

theorem loadFrom_eq_notFound_iff : h.loadFrom start = .error .notFound ↔
    ∀ d, d <+: start.components → h.entryIn configName start d = none := by
  rw [← findConfig?_eq_none_iff]
  constructor
  · intro missing
    cases found : h.findConfig? start with
    | none => rfl
    | some p =>
      obtain ⟨_, directory, e, near, _⟩ := nearest_of_findConfig? found
      obtain ⟨q, _, _, _, reads, loaded⟩ := near.loadFrom
      rw [loaded] at missing
      cases read : h.readConfig q with
      | error cause =>
        rw [read] at missing reads
        cases missing
        exact absurd rfl reads.ne_notFound
      | ok c =>
        rw [read] at missing
        cases missing
  · intro none
    rw [loadFrom, none]

theorem loadFrom_congr (agree : ∀ p ∈ (search h.present start).1, h'.entry? p = h.entry? p) :
    h'.loadFrom start = h.loadFrom start := by
  have same : search h'.present start = search h.present start :=
    search_congr fun p hp => congrArg Option.isSome (agree p hp)
  rw [loadFrom, loadFrom, findConfig?_eq, findConfig?_eq, same]
  cases found : (search h.present start).2 with
  | none => rfl
  | some p =>
    dsimp only
    rw [readConfig, readConfig, agree p (mem_search found)]

/-- What a search for a configuration does, and what loading one depends on. -/
structure Searches (h : Host) (start : Path) : Prop where
  /-- The candidates stand in the directories that the prefixes of the start name, the longest first,
  and start from where it does. -/
  order : (Path.candidates configName start).map Path.components =
      start.components.inits.reverse.map (· ++ [configName]) ∧
    ∀ p ∈ Path.candidates configName start, p.isAbsolute = start.isAbsolute
  /-- They are probed up to the first one that is there. -/
  probes : (search h.present start).1 = (Path.candidates configName start).take
    ((Path.candidates configName start).findIdx h.present + 1)
  bounded : (search h.present start).1.length ≤ start.components.length + 1
  finds : h.findConfig? start = (search h.present start).2
  nearest : ∀ p, h.findConfig? start = some p ↔ p ∈ Path.candidates configName start ∧
    ∃ directory e, h.Nearest configName some start directory e ∧
      p.components = directory ++ [configName]
  notFound : h.loadFrom start = .error .notFound ↔
    ∀ d, d <+: start.components → h.entryIn configName start d = none
  /-- The nearest entry decides the outcome. -/
  outcome : ∀ directory e, h.Nearest configName some start directory e → ∃ p r,
    h.findConfig? start = some p ∧ e.Reads r ∧ h.loadFrom start = r.map (·, p)
  /-- It does so whatever else there is. -/
  alone : ∀ (h' : Host) directory e, h.Nearest configName some start directory e →
    h'.Nearest configName some start directory e → h'.loadFrom start = h.loadFrom start
  /-- What is not probed does not count. -/
  unprobed : ∀ h' : Host, (∀ p ∈ (search h.present start).1, h'.entry? p = h.entry? p) →
    h'.loadFrom start = h.loadFrom start

/-- **The nearest entry decides.** The search for a configuration probes the directories that the
prefixes of its start name, from the longest to the empty one, and ends at the first that has an
entry of the name. Loading reports a missing configuration exactly if no prefix has one, and else what
reading the entry gives; nothing else counts. -/
theorem searches (h : Host) (start : Path) : h.Searches start where
  order := ⟨Path.map_components_candidates isVoid_configName start,
    fun _ => Path.isAbsolute_of_mem_candidates⟩
  probes := by rw [search_eq]
  bounded := by
    rw [search_eq, ← Path.length_candidates configName, List.length_take]
    exact Nat.min_le_right _ _
  finds := h.findConfig?_eq start
  nearest p := by
    constructor
    · exact nearest_of_findConfig?
    · rintro ⟨hp, directory, e, near, components⟩
      exact near.findConfig? hp components
  notFound := loadFrom_eq_notFound_iff
  outcome directory e near := by
    obtain ⟨p, _, _, found, reads, loaded⟩ := near.loadFrom
    exact ⟨p, _, found, reads, loaded⟩
  alone h' directory e near near' := by
    obtain ⟨p, hp, components, _, reads, loaded⟩ := near.loadFrom
    obtain ⟨q, hq, components', _, reads', loaded'⟩ := near'.loadFrom
    obtain rfl : p = q :=
      Path.candidate_unique isVoid_configName hp hq (components.trans components'.symm)
    rw [loaded, loaded', reads.unique reads']
  unprobed _ := loadFrom_congr

/-- The text of a configuration. -/
def serviceContent : List UInt8 := "[db]\nurl = 'sql'".toUTF8.data.toList

theorem reads_serviceContent :
    (Entry.file serviceContent).Reads (.ok ⟨"mysql", some "sql", none⟩) := by
  have text : Toml.read? "[db]\nurl = 'sql'" = some [("db", .table [("url", .string "sql")])] := by
    have tokens : Toml.Token.scan (Toml.dropByteOrderMark "[db]\nurl = 'sql'".toList) =
        some [.openBracket, .word ['d', 'b'], .closeBracket, .newline, .word ['u', 'r', 'l'],
          .blank [' '], .equals, .blank [' '], .string "sql" false] := by decide +kernel
    rw [Toml.read?, tokens]
    rfl
  have database : DbConfig.ofTable [("url", .string "sql")] = .ok ⟨"mysql", some "sql", none⟩ := by
    rw [DbConfig.ofTable, Toml.sortedByKey, List.mergeSort_singleton]
    rfl
  have decoded : Config.ofTable [("db", .table [("url", .string "sql")])] =
      .ok ⟨"mysql", some "sql", none⟩ := by
    rw [Config.ofTable, Toml.sortedByKey, List.mergeSort_singleton, List.foldlM_cons, if_pos rfl,
      DbConfig.ofValue, database]
    rfl
  exact .config (by decide +kernel) text decoded

/-- A host with a configuration that can be read in `/srv` and a directory of its name below. -/
def service : Host where
  files := (FileTree.empty.add ["srv", "joist.toml"] (.file serviceContent)).add
    ["srv", "app", "joist.toml"] .directory
  cwd := ["srv"]
  environment := .empty

/-- An entry that is no use hides the configuration above it, and `..` is a component like any other. -/
theorem service_searched :
    service.Nearest configName some (.ofText "app/deep//x/") ["app"] .directory ∧
    service.loadFrom (.ofText "app/deep//x/") = .error .isDirectory ∧
    service.loadFrom (.ofText "/srv/app/../lib") =
      .ok (⟨"mysql", some "sql", none⟩, .ofText "/srv/app/../joist.toml") ∧
    service.loadFrom (.ofText "/etc") = .error .notFound := by
  have prefixes {l : List String} {P : List String → Prop} (all : ∀ d ∈ l.inits, P d)
      (d : List String) (hd : d <+: l) : P d := all d ((List.mem_inits d l).2 hd)
  have near : service.Nearest configName some (.ofText "app/deep//x/") ["app"] .directory :=
    ⟨by decide, by decide, prefixes (by decide)⟩
  have above : service.Nearest configName some (.ofText "/srv/app/../lib") ["srv", "app", ".."]
      (.file serviceContent) := ⟨by decide, by decide, prefixes (by decide)⟩
  have place : Path.ofText "/srv/app/../joist.toml" ∈ Path.candidates configName (.ofText "/srv/app/../lib") := by
    have places : Path.candidates configName (.ofText "/srv/app/../lib") = ["/srv/app/../lib/joist.toml",
      "/srv/app/../joist.toml", "/srv/app/joist.toml", "/srv/joist.toml", "/joist.toml"].map
        Path.ofText := by decide +kernel
    rw [places]
    decide
  refine ⟨near, ?_, ?_, ?_⟩
  · obtain ⟨p, r, _, reads, loaded⟩ := (service.searches _).outcome _ _ near
    cases reads
    exact loaded
  · have found := ((service.searches _).nearest _).2 ⟨place, _, _, above, by decide⟩
    obtain ⟨p, r, found', reads, loaded⟩ := (service.searches _).outcome _ _ above
    obtain rfl := Option.some.inj (found.symm.trans found')
    rw [loaded, reads.unique reads_serviceContent]
    rfl
  · exact (service.searches _).notFound.2 (prefixes (by decide))

end Host

end QueryBuilder
