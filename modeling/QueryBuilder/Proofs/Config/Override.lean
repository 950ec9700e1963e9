import Mathlib.Data.List.TakeWhile
import QueryBuilder.Proofs.Config.Search

/-!
# The URL from the environment

A `.env` file gives values to variables that have none, of several assignments the first counts, and
what stands after a line that cannot be read does not (`Dotenv.get?_read?`). The program panics if one
of these values has the character 0 (`Dotenv.read?_eq_none_iff`). Otherwise a load sees one variable
of all this, and only if it is not empty: it fails exactly if the file at fault is the configuration,
and the rest of what it gives is the same in every environment and beside all `.env` files. Main
statement: `Host.load_laws`.
-/

namespace QueryBuilder
set_option autoImplicit false

/-! ## Overrides -/

/-- What an override puts in the place of the URL: nothing if it is empty. -/
def override? (url : Option String) : Option String := url.filter (!·.isEmpty)

theorem Config.overrideUrl_eq (c : Config) (url : Option String) :
    c.overrideUrl url = ⟨{ c.db with url := (override? url).or c.db.url }⟩ := by
  cases url with
  | none => rfl
  | some u => cases empty : u.isEmpty <;> simp [overrideUrl, override?, Option.filter, empty]

namespace Dotenv

/-- What the lines assign one after another, up to the first that cannot be read or that the program
panics at. -/
def assignments (env earlier : Environment) : List (List Char) → List (String × String)
  | [] => []
  | line :: rest =>
    let lookup (name : String) : String :=
      ((env.get? name).orElse fun _ => earlier.get? name).getD ""
    match assignment? lookup line with
    | none => []
    | some none => assignments env earlier rest
    | some (some (name, v)) => (name, v) ::
        (env.setDefault? name v).elim [] fun env => assignments env (earlier.insert (name, v)) rest

section Names

variable {cs name rest : List Char}

/-- A name has letters, digits, underscores and points, and at least one of them. -/
theorem isName_of_name? (h : name? cs = some (name, rest)) :
    Environment.isName (String.ofList name) = true := by
  cases cs with
  | nil => cases h
  | cons c cs =>
    rw [name?] at h
    split at h
    · next first =>
      have taken : (c :: cs).takeWhile (fun c => !!(c.isAlphanum || c == '_' || c == '.')) = name :=
        congrArg Prod.fst (Option.some.inj h)
      have inside : (!!(c.isAlphanum || c == '_' || c == '.')) = true := by
        simp only [Bool.not_not, Char.isAlphanum, Bool.or_eq_true] at first ⊢
        rcases first with letter | underscore
        · exact .inl (.inl (.inl letter))
        · exact .inl (.inr underscore)
      have nonempty : name ≠ [] := by
        rw [← taken, List.takeWhile_cons, if_pos inside]
        exact List.cons_ne_nil _ _
      have legal : ∀ d ∈ name, (d != '=' && d != '\x00') = true := by
        intro d hd
        have kind := List.mem_takeWhile_imp (taken ▸ hd)
        by_contra other
        have either : d = '=' ∨ d = '\x00' := by
          by_cases equals : d = '='
          · exact .inl equals
          · simpa [equals] using other
        rcases either with rfl | rfl
        · exact absurd kind (by decide)
        · exact absurd kind (by decide)
      simpa [Environment.isName, nonempty] using legal
    · cases h

theorem name?_of_target? (h : target? cs = some (name, rest)) : ∃ left, name? cs = some (name, left) := by
  obtain ⟨⟨other, left⟩, found, h⟩ := Option.bind_eq_some_iff.1 h
  obtain ⟨_, _, same⟩ := Option.bind_eq_some_iff.1 h
  cases same
  exact ⟨left, found⟩

theorem isName_of_exported? (h : exported? cs = some (name, rest)) :
    Environment.isName (String.ofList name) = true := by
  unfold exported? at h
  obtain ⟨_, _, h⟩ := Option.bind_eq_some_iff.1 h
  dsimp only at h
  split at h
  · obtain ⟨_, found⟩ := name?_of_target? h
    exact isName_of_name? found
  · obtain ⟨_, found⟩ := name?_of_target? h
    exact isName_of_name? found

/-- Only values can be impossible. -/
theorem isName_of_assignment? {lookup : String → String} {line : List Char} {name v : String}
    (h : assignment? lookup line = some (some (name, v))) : Environment.isName name = true := by
  unfold assignment? at h
  split at h
  · cases h
  · cases h
  · obtain ⟨read, found, h⟩ := Option.bind_eq_some_iff.1 h
    have named : String.ofList read.1 = name := by
      dsimp only at h
      split at h
      · cases h
        rfl
      · obtain ⟨_, _, same⟩ := Option.bind_eq_some_iff.1 h
        cases same
        rfl
    exact named ▸ isName_of_exported? found

end Names

section Lines

variable {env earlier after : Environment}

theorem get?_assign? {lines : List (List Char)} (h : assign? env earlier lines = some after)
    (name : String) : after.get? name =
      (env.get? name).or ((assignments env earlier lines).lookup name) := by
  induction lines generalizing env earlier with
  | nil =>
    cases h
    simp [assignments]
  | cons line rest ih =>
    rw [assign?] at h
    rw [assignments]
    generalize assignment? _ line = read at h ⊢
    rcases read with _ | _ | ⟨other, v⟩
    · cases h
      simp
    · exact ih h
    · obtain ⟨mid, set, h⟩ := Option.bind_eq_some_iff.1 h
      dsimp only
      rw [set, Option.elim_some, ih h, Environment.get?_setDefault? set]
      by_cases same : other = name
      · subst same
        cases env.get? other <;> simp
      · have differ : (name == other) = false := by simpa using Ne.symm same
        rw [if_neg same, List.lookup_cons, differ]

/-- What has been set is not what the program panics at, and it hides what is assigned to it later. -/
theorem impossible_cons_iff {mid : Environment} {other v : String}
    (set : env.setDefault? other v = some mid) (l : List (String × String)) (name u : String) :
    (env.get? name = none ∧ ((other, v) :: l).lookup name = some u ∧ Environment.isValue u = false) ↔
      mid.get? name = none ∧ l.lookup name = some u ∧ Environment.isValue u = false := by
  rw [Environment.get?_setDefault? set]
  by_cases same : other = name
  · subst same
    rw [if_pos rfl, List.lookup_cons_self]
    refine iff_of_false ?_ fun later => nomatch later.1
    rintro ⟨unset, first, impossible⟩
    cases first
    have illegal : ¬ (Environment.isName other = true ∧ Environment.isValue v = true) := by
      simp [impossible]
    cases (Environment.setDefault?_eq_none_iff.2 ⟨unset, illegal⟩).symm.trans set
  · rw [if_neg same, List.lookup_cons, beq_eq_false_iff_ne.2 (Ne.symm same)]

/-- The program panics if what is first assigned to a variable that is not set cannot be a value. -/
theorem assign?_eq_none_iff (lines : List (List Char)) : assign? env earlier lines = none ↔
    ∃ name v, env.get? name = none ∧ (assignments env earlier lines).lookup name = some v ∧
      Environment.isValue v = false := by
  induction lines generalizing env earlier with
  | nil => simp [assign?, assignments]
  | cons line rest ih =>
    rw [assign?, assignments]
    generalize read : assignment? _ line = assigned
    rcases assigned with _ | _ | ⟨other, v⟩
    · simp
    · exact ih
    · dsimp only
      cases set : env.setDefault? other v with
      | none =>
        obtain ⟨unset, impossible⟩ := Environment.setDefault?_eq_none_iff.1 set
        have value : Environment.isValue v = false := by
          simpa [isName_of_assignment? read] using impossible
        exact iff_of_true rfl ⟨other, v, unset, List.lookup_cons_self, value⟩
      | some mid =>
        simp only [Option.bind_some, Option.elim_some, ih, impossible_cons_iff set]

end Lines

/-- A variable that is set keeps its value, another one gets what is first assigned to it. -/
theorem get?_read? {env after : Environment} {content : List UInt8}
    (h : read? env content = some after) (name : String) : after.get? name =
      (env.get? name).or ((assignments env .empty (lines content)).lookup name) :=
  get?_assign? h name

theorem read?_eq_none_iff {env : Environment} {content : List UInt8} :
    read? env content = none ↔ ∃ name v, env.get? name = none ∧
      (assignments env .empty (lines content)).lookup name = some v ∧ Environment.isValue v = false :=
  assign?_eq_none_iff (lines content)

end Dotenv

/-! ## Trees that differ in files of one name -/

/-- The trees have the same entries, but for files of some name. -/
def FileTree.SameBut (name : String) (t t' : FileTree) : Prop :=
  ∀ position, t.entry? position = t'.entry? position ∨ position.getLast? = some name ∧
    t.entry? position ≠ some .directory ∧ t'.entry? position ≠ some .directory

namespace FileTree.SameBut

variable {name other : String} {t t' : FileTree}

theorem directory_iff (h : SameBut name t t') (position : List String) :
    t.entry? position = some .directory ↔ t'.entry? position = some .directory := by
  rcases h position with same | ⟨_, no, no'⟩
  · rw [same]
  · simp [no, no']

/-- Files are not on the way to anything. -/
theorem follow?_eq (h : SameBut name t t') (position segments : List String) :
    t.follow? position segments = t'.follow? position segments := by
  induction segments generalizing position with
  | nil => rfl
  | cons s rest ih => simp only [follow?, ne_eq, h.directory_iff, ih]

end FileTree.SameBut

namespace FileTree

/-- A path that ends with a name leads to a position that does. -/
theorem getLast?_follow? {t : FileTree} {name : String} (void : Path.isVoid name = false)
    (up : name ≠ "..") {position l found : List String}
    (h : t.follow? position (l ++ [name]) = some found) : found.getLast? = some name := by
  induction l generalizing position with
  | nil =>
    simp only [List.nil_append, follow?, void, up] at h
    split at h
    · cases h
    · simp at h
      simp [← h]
  | cons s rest ih =>
    rw [List.cons_append, follow?] at h
    split at h
    · cases h
    · split at h
      · exact ih h
      · split at h
        · exact ih h
        · exact ih h

/-- What stands under another name is the same. -/
theorem SameBut.find?_ofComponents {t t' : FileTree} {name other : String} (h : SameBut name t t')
    (void : Path.isVoid other = false) (up : other ≠ "..") (differ : other ≠ name)
    (cwd directory : List String) (absolute : Bool) :
    t.find? cwd (.ofComponents absolute (directory ++ [other])) =
      t'.find? cwd (.ofComponents absolute (directory ++ [other])) := by
  have segments : (Path.ofComponents absolute (directory ++ [other])).segments =
      directory ++ [other] := rfl
  rw [find?, find?, segments, h.follow?_eq]
  cases found : t'.follow? _ (directory ++ [other]) with
  | none => rfl
  | some position =>
    rcases h position with same | ⟨last, _⟩
    · exact same
    · exact absurd (Option.some.inj ((getLast?_follow? void up found).symm.trans last)) differ

end FileTree

/-! ## Loading -/

/-- The content of an entry that is a file. -/
def Entry.content? : Entry → Option (List UInt8)
  | .file content => some content
  | .directory => none

namespace Host

variable {h h' : Host}

theorem isVoid_dotenvName : Path.isVoid dotenvName = false := by decide

theorem dotenv?_eq (h : Host) : h.dotenv? = (Path.candidates dotenvName h.cwdPath).findSome? fun p =>
    (h.entry? p).bind Entry.content? := by
  rw [dotenv?, ← Path.candidates]
  congr 1
  funext p
  rcases h.entry? p with _ | _ | _ <;> rfl

theorem dotenv?_eq_none_iff : h.dotenv? = none ↔ ∀ d, d <+: h.cwdPath.components →
    (h.entryIn dotenvName h.cwdPath d).bind Entry.content? = none := by
  rw [← forall_candidates_iff isVoid_dotenvName (fun e => e.bind Entry.content? = none), dotenv?_eq,
    List.findSome?_eq_none_iff]

/-- The variables are read from the nearest file, passing over directories of its name. -/
theorem dotenv?_eq_some_iff {content : List UInt8} : h.dotenv? = some content ↔
    ∃ directory, h.Nearest dotenvName Entry.content? h.cwdPath directory content := by
  have nearest {content : List UInt8} (found : h.dotenv? = some content) :
      ∃ directory, h.Nearest dotenvName Entry.content? h.cwdPath directory content := by
    rw [dotenv?_eq] at found
    obtain ⟨before, p, after, split, use, missing⟩ := List.findSome?_eq_some_iff.1 found
    obtain ⟨directory, near, _⟩ := nearest_of_split isVoid_dotenvName split use missing
    exact ⟨directory, near⟩
  refine ⟨nearest, fun ⟨directory, near⟩ => ?_⟩
  cases found : h.dotenv? with
  | none => cases (dotenv?_eq_none_iff.1 found directory near.above).symm.trans near.entry
  | some other =>
    obtain ⟨directory', near'⟩ := nearest found
    rw [(near'.unique near).2]

/-- What the nearest `.env` file assigns. -/
def assignments (h : Host) : List (String × String) :=
  h.dotenv?.elim [] fun content => Dotenv.assignments h.environment .empty (Dotenv.lines content)

/-- Every variable that is set from the `.env` file gets a value that a variable can have. -/
def Settable (h : Host) : Prop := ∀ name v, h.environment.get? name = none →
  h.assignments.lookup name = some v → Environment.isValue v = true

/-- The URL that a load sees in the environment: that of the process, or else the first one that the
nearest `.env` file assigns. -/
def visibleUrl (h : Host) : Option String :=
  (h.environment.get? urlVariable).or (h.assignments.lookup urlVariable)

theorem effectiveEnvironment?_eq_none_iff : h.effectiveEnvironment? = none ↔ ¬ h.Settable := by
  have unsettable : ¬ h.Settable ↔ ∃ name v, h.environment.get? name = none ∧
      h.assignments.lookup name = some v ∧ Environment.isValue v = false := by
    simp [Settable]
  rw [unsettable, effectiveEnvironment?, assignments]
  cases h.dotenv? with
  | none => simp
  | some content => exact Dotenv.read?_eq_none_iff

theorem get?_of_effectiveEnvironment? {env : Environment} (found : h.effectiveEnvironment? = some env) :
    env.get? urlVariable = h.visibleUrl := by
  rw [effectiveEnvironment?] at found
  rw [visibleUrl, assignments]
  cases file : h.dotenv? with
  | none =>
    rw [file] at found
    cases found
    exact Option.or_none.symm
  | some content =>
    rw [file] at found
    exact Dotenv.get?_read? found _

theorem exists_effectiveEnvironment? (settable : h.Settable) :
    ∃ env, h.effectiveEnvironment? = some env ∧ env.get? urlVariable = h.visibleUrl := by
  have returns : h.effectiveEnvironment? ≠ none := fun panics =>
    effectiveEnvironment?_eq_none_iff.1 panics settable
  obtain ⟨env, found⟩ := Option.ne_none_iff_exists'.1 returns
  exact ⟨env, found, get?_of_effectiveEnvironment? found⟩

/-- The configuration in which another URL takes the place of the configured one. -/
theorem load?_eq (settable : h.Settable) : h.load? = some ((h.loadFrom h.cwdPath).map fun found =>
    (⟨{ found.1.db with url := (override? h.visibleUrl).or found.1.db.url }⟩, found.2)) := by
  obtain ⟨env, found, url⟩ := exists_effectiveEnvironment? settable
  rw [load?, found, Option.map_some]
  simp only [url, Config.overrideUrl_eq]

/-- Files with variables do not count in the search for a configuration. -/
theorem loadFrom_eq_of_sameBut (files : h.files.SameBut dotenvName h'.files) (cwd : h.cwd = h'.cwd)
    (start : Path) : h.loadFrom start = h'.loadFrom start := by
  refine (loadFrom_congr fun p hp => ?_).symm
  have candidate : p ∈ Path.candidates configName start := by
    rw [search_eq] at hp
    exact List.mem_of_mem_take hp
  obtain ⟨directory, _, _, entry⟩ := exists_directory isVoid_configName candidate
  rw [entry, entry, entryIn, entryIn, entry?, entry?, ← cwd]
  exact (files.find?_ofComponents isVoid_configName (by decide) (by decide) _ _ _).symm

/-- What is loaded but for the URL. -/
def withoutUrl (found : Config × Path) : String × Option String × Path :=
  (found.1.db.driver, found.1.db.database, found.2)

/-- What a load makes of the environment. -/
structure Loads (h : Host) : Prop where
  fails : ∀ e, h.load? = some (.error e) ↔ h.loadFrom h.cwdPath = .error e
  succeeds : ∀ c p, h.load? = some (.ok (c, p)) ↔ ∃ c₀, h.loadFrom h.cwdPath = .ok (c₀, p) ∧
    c.db.driver = c₀.db.driver ∧ c.db.database = c₀.db.database ∧
    c.db.url = (override? h.visibleUrl).or c₀.db.url
  visible : ∃ env, h.effectiveEnvironment? = some env ∧ env.get? urlVariable = h.visibleUrl
  /-- A variable of the process is seen as it is, empty or not. -/
  set : ∀ u, h.environment.get? urlVariable = some u → h.visibleUrl = some u
  /-- Otherwise the nearest `.env` file gives it its value, if there is one that does. -/
  assigned : h.environment.get? urlVariable = none → ∀ directory content,
    h.Nearest dotenvName Entry.content? h.cwdPath directory content → h.visibleUrl =
      (Dotenv.assignments h.environment .empty (Dotenv.lines content)).lookup urlVariable
  unset : h.environment.get? urlVariable = none → (∀ d, d <+: h.cwdPath.components →
    (h.entryIn dotenvName h.cwdPath d).bind Entry.content? = none) → h.visibleUrl = none
  /-- In other environments and beside other `.env` files only the URL is another one. -/
  independent : ∀ h' : Host, h'.Settable → h.cwd = h'.cwd → h.files.SameBut dotenvName h'.files →
    h.load?.map (·.map withoutUrl) = h'.load?.map (·.map withoutUrl)

theorem Settable.loads (settable : h.Settable) : h.Loads where
  fails e := by
    rw [load?_eq settable]
    cases h.loadFrom h.cwdPath <;> simp [Except.map]
  succeeds c p := by
    rw [load?_eq settable]
    cases h.loadFrom h.cwdPath with
    | error e => simp [Except.map]
    | ok found =>
      obtain ⟨c₀, q⟩ := found
      obtain ⟨driver, url, database⟩ := c
      simp only [Except.map, Option.some.injEq, Except.ok.injEq, Prod.mk.injEq, Config.mk.injEq,
        DbConfig.mk.injEq]
      constructor
      · rintro ⟨⟨rfl, rfl, rfl⟩, rfl⟩
        exact ⟨c₀, ⟨rfl, rfl⟩, rfl, rfl, rfl⟩
      · rintro ⟨_, ⟨rfl, rfl⟩, rfl, rfl, rfl⟩
        exact ⟨⟨rfl, rfl, rfl⟩, rfl⟩
  visible := exists_effectiveEnvironment? settable
  set u given := by rw [visibleUrl, given, Option.some_or]
  assigned absent directory content near := by
    rw [visibleUrl, absent, assignments, dotenv?_eq_some_iff.2 ⟨directory, near⟩, Option.none_or,
      Option.elim_some]
  unset absent missing := by
    rw [visibleUrl, absent, assignments, dotenv?_eq_none_iff.2 missing]
    rfl
  independent h' settable' cwd files := by
    have start : h.cwdPath = h'.cwdPath := by rw [cwdPath, cwdPath, cwd]
    rw [load?_eq settable, load?_eq settable', loadFrom_eq_of_sameBut files cwd, start]
    cases h'.loadFrom h'.cwdPath <;> rfl

/-- A load that panics does not see any environment. -/
theorem Loads.settable (loads : h.Loads) : h.Settable := by
  obtain ⟨env, found, _⟩ := loads.visible
  by_contra unsettable
  cases (effectiveEnvironment?_eq_none_iff.2 unsettable).symm.trans found

end Host

end QueryBuilder
