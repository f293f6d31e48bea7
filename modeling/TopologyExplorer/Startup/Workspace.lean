import TopologyExplorer.File.Tree
import TopologyExplorer.Journal
import TopologyExplorer.Text.Utf8

/-!
# Workspaces

The files of a run and its journal. Entries of the program's own loggers go to the log file from a
threshold on, and from the warnings on to the console. A log file that is removed takes the entries
behind that with it.
-/

namespace TopologyExplorer

structure Workspace where
  files : FileTree
  /-- Entries below this level are dropped. -/
  threshold : Level
  /-- The place of the log file, while there is one. -/
  log : Option Place
  /-- The journal has a log file, removed or not. -/
  hasLog : Bool
  /-- What the console shows, in order. -/
  console : List JournalEntry
  deriving Repr

namespace Workspace

/-- The level from which on the console shows entries. -/
def consoleThreshold : Level := .warning

def thresholdFor (verbose : Bool) : Level := if verbose then .debug else .info

def note (w : Workspace) (e : JournalEntry) : Workspace :=
  if e.isOwn && e.level.reaches w.threshold then
    { w with
      files :=
        match w.log with
        | some place => w.files.append place (Utf8.encode (e.fileText ++ "\n"))
        | none => w.files
      console := if e.level.reaches consoleThreshold then w.console ++ [e] else w.console }
  else w

def noteAll (w : Workspace) (entries : List JournalEntry) : Workspace := entries.foldl note w

/-- A workspace without a log file. -/
def idle (files : FileTree) (console : List JournalEntry) (verbose : Bool) : Workspace :=
  ⟨files, thresholdFor verbose, none, false, console⟩

/-- Starts the journal. A log file that cannot be had is the first thing noted; one whose path names
nothing is a fault. -/
def start (w : Workspace) (log : Path) : Except SystemFault Workspace :=
  let place := Place.ofPath log
  if log.names.any Path.hasNull then .error .unnameable
  else if w.files.canWrite place then
    .ok { w with files := w.files.append place [], log := some place, hasLog := true }
  else
    .ok (w.note ⟨JournalEntry.rootLogger, .warning,
      "Could not create log file " ++ log.text ++ ": no file can be opened there"⟩)

def removeFile (w : Workspace) (place : Place) : Workspace :=
  { w with files := w.files.remove place, log := w.log.filter (· ≠ place) }

end Workspace

end TopologyExplorer
