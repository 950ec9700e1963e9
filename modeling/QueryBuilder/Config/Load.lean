import QueryBuilder.Config.Decode
import QueryBuilder.Config.Dotenv
import QueryBuilder.Config.FileTree

/-!
# Finding and loading the configuration

The configuration stands in `joist.toml`, in a directory or in the nearest of its ancestors
that has an entry of that name; what that entry is decides, whatever stands further up. A
program that does not say where to start starts from its working directory, where it also
looks for a `.env` file with variables, and its `DATABASE_URL` takes the place of the
configured URL.
-/

namespace QueryBuilder
set_option autoImplicit false

/-- Why there is no configuration. -/
inductive ConfigError where
  /-- Neither the start nor an ancestor has a configuration. -/
  | notFound
  | isDirectory
  | notUtf8
  /-- The text is no TOML document. -/
  | malformed
  | undecodable (cause : DecodeError)

namespace ConfigError

/-- The message of an error. A text that is no document has none. -/
def message? : ConfigError → Option String
  | notFound => some "no joist.toml found in current directory or any parent"
  | isDirectory => some "failed to read joist.toml: Is a directory (os error 21)"
  | notUtf8 => some "failed to read joist.toml: stream did not contain valid UTF-8"
  | malformed => none
  | undecodable cause => cause.message?

end ConfigError

/-- Reads a configuration. -/
def Config.parse (s : String) : Except ConfigError Config :=
  match Toml.read? s with
  | none => .error .malformed
  | some t => (Config.ofTable t).mapError .undecodable

/-- The files, the working directory and the variables of a process. -/
structure Host where
  files : FileTree
  cwd : List String
  environment : Environment

namespace Host

/-- The name of the configuration file. -/
def configName : String := "joist.toml"

/-- The name of the file with variables. -/
def dotenvName : String := ".env"

/-- The variable that overrides the URL. -/
def urlVariable : String := "DATABASE_URL"

/-- The working directory as a path. -/
def cwdPath (h : Host) : Path := ⟨.root, h.cwd⟩

/-- The entry that a path leads to. -/
def entry? (h : Host) (p : Path) : Option Entry := h.files.find? h.cwd p

/-- The path of a configuration in the start or the nearest ancestor that has one. -/
def findConfig? (h : Host) (start : Path) : Option Path :=
  (start.ancestors.map (·.child configName)).find? fun p => (h.entry? p).isSome

/-- Reads the configuration at a path. -/
def readConfig (h : Host) (p : Path) : Except ConfigError Config :=
  match h.entry? p with
  | none => .error .notFound
  | some .directory => .error .isDirectory
  | some (.file content) =>
    match String.fromUTF8? ⟨content.toArray⟩ with
    | none => .error .notUtf8
    | some s => Config.parse s

/-- The configuration that is nearest to a path, and its own path. -/
def loadFrom (h : Host) (start : Path) : Except ConfigError (Config × Path) :=
  match h.findConfig? start with
  | none => .error .notFound
  | some p => (h.readConfig p).map (·, p)

/-- The content of the nearest file with variables, from the working directory upwards. -/
def dotenv? (h : Host) : Option (List UInt8) :=
  (h.cwdPath.ancestors.map (·.child dotenvName)).findSome? fun p =>
    match h.entry? p with
    | some (.file content) => some content
    | _ => none

/-- The variables with those of the `.env` file, or `none` if the program panics at one of these. -/
def effectiveEnvironment? (h : Host) : Option Environment :=
  match h.dotenv? with
  | none => some h.environment
  | some content => Dotenv.read? h.environment content

/-- The configuration that is nearest to the working directory, with the URL of the environment. The
`.env` file is read first, so there is not even an error if the program panics at it. -/
def load? (h : Host) : Option (Except ConfigError (Config × Path)) :=
  h.effectiveEnvironment?.map fun env =>
    (h.loadFrom h.cwdPath).map fun found =>
      (found.1.overrideUrl (env.get? urlVariable), found.2)

end Host

end QueryBuilder
