/-!
# Journal entries

What the program notes about its run: an entry has a logger, a level and a message, and a line of
text on the console and in a file.
-/

namespace TopologyExplorer

inductive Level where
  | debug
  | info
  | warning
  | error
  | critical
  deriving DecidableEq, Repr

namespace Level

def all : List Level := [debug, info, warning, error, critical]

def name : Level → String
  | debug => "DEBUG"
  | info => "INFO"
  | warning => "WARNING"
  | error => "ERROR"
  | critical => "CRITICAL"

def ofName? (name : String) : Option Level := all.find? fun l => l.name = name

def rank : Level → Nat
  | debug => 10
  | info => 20
  | warning => 30
  | error => 40
  | critical => 50

/-- The level is at least as grave as another. -/
def reaches (l threshold : Level) : Bool := threshold.rank ≤ l.rank

end Level

structure JournalEntry where
  logger : String
  level : Level
  message : String
  deriving DecidableEq, Repr

namespace JournalEntry

/-- The logger that the program's loggers stand below. -/
def rootLogger : String := "tcmwalker"

/-- The entry comes from a logger of the program. -/
def isOwn (e : JournalEntry) : Bool :=
  e.logger = rootLogger || (rootLogger ++ ".").toList.isPrefixOf e.logger.toList

def consoleText (e : JournalEntry) : String := e.level.name ++ ": " ++ e.message

/-- The entry as a file keeps it, but for the time and the place in the program. -/
def fileText (e : JournalEntry) : String :=
  e.logger ++ " | " ++ e.level.name ++ " | " ++ e.message

end JournalEntry

end TopologyExplorer
