import TopologyExplorer.File.Path

/-!
# Options

The options of a run. An option that is overridden has the overriding value; otherwise the
environment gives it, unless its variable is empty; otherwise it has its default. The defaults of
the database and the log file are in a directory for temporary files.
-/

namespace TopologyExplorer

structure Options where
  descriptors : Path
  database : Path
  log : Path
  verbose : Bool
  deriving DecidableEq, Repr

/-- A value that takes precedence over the environment. -/
inductive Override where
  | descriptors (text : String)
  | database (text : String)
  | log (text : String)
  | verbose (value : Bool)
  /-- There is no option of this name. -/
  | unknown (name : String)
  deriving DecidableEq, Repr

namespace Options

def logFileIn (temporary : Path) : Path := temporary.child "tcmwalker.log"

/-- The options of a run that nothing overrides. -/
def initial (temporary : Path) : Options where
  descriptors := .ofText "./"
  database := temporary.child "tcmwalker.db"
  log := logFileIn temporary
  verbose := false

def override? (o : Options) : Override → Option Options
  | .descriptors text => some { o with descriptors := .ofText text }
  | .database text => some { o with database := .ofText text }
  | .log text => some { o with log := .ofText text }
  | .verbose value => some { o with verbose := value }
  | .unknown _ => none

def environmentNames : List (String × (String → Override)) :=
  [("TCMWALKER_CONFIG_PATH", .descriptors), ("TCMWALKER_DB_PATH", .database),
    ("TCMWALKER_LOG_FILE", .log)]

def ofEnvironment (environment : List (String × String)) : List Override :=
  environmentNames.filterMap fun (name, override) =>
    match environment.lookup name with
    | some "" | none => none
    | some text => some (override text)

def ofOverrides? (temporary : Path) (environment : List (String × String))
    (overrides : List Override) : Option Options :=
  (ofEnvironment environment ++ overrides).foldlM override? (initial temporary)

end Options

end TopologyExplorer
