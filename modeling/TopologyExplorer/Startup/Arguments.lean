import TopologyExplorer.Startup.Options

/-!
# Arguments

The command line knows three options with a value and two flags. A value is attached to its option
or follows it, whatever it looks like. Short options can stand in one argument, of which the last
may take a value. An option that is given again counts as it is given last. A call for help answers
before arguments that are left over or values that name nothing are refused, but not before an
unknown option is.
-/

namespace TopologyExplorer

inductive ValueOption where
  | descriptors
  | database
  | log
  deriving DecidableEq, Repr

inductive Flag where
  | verbose
  | help
  deriving DecidableEq, Repr

structure Arguments where
  descriptors : Option String
  database : Option String
  log : Option String
  verbose : Bool
  help : Bool
  /-- Some arguments belong to no option. -/
  extra : Bool
  deriving DecidableEq, Repr

inductive Invocation where
  | usage
  | help
  | run (overrides : List Override)
  deriving DecidableEq, Repr

namespace Arguments

def empty : Arguments := ⟨none, none, none, false, false, false⟩

def setValue (a : Arguments) (value : String) : ValueOption → Arguments
  | .descriptors => { a with descriptors := some value }
  | .database => { a with database := some value }
  | .log => { a with log := some value }

def setFlag (a : Arguments) : Flag → Arguments
  | .verbose => { a with verbose := true }
  | .help => { a with help := true }

def longValue? : String → Option ValueOption
  | "--config-path" => some .descriptors
  | "--db-path" => some .database
  | "--log-file" => some .log
  | _ => none

def longFlag? : String → Option Flag
  | "--debug" => some .verbose
  | "--help" => some .help
  | _ => none

def shortValue? : Char → Option ValueOption
  | 'c' => some .descriptors
  | _ => none

def shortFlag? : Char → Option Flag
  | 'd' => some .verbose
  | _ => none

/-- The arguments so far, and the option that takes the next one as its value. -/
abbrev Progress := Arguments × Option ValueOption

def short? (a : Arguments) : List Char → Option Progress
  | [] => some (a, none)
  | c :: cs =>
    match shortValue? c, shortFlag? c with
    | some option, _ =>
      if cs.isEmpty then some (a, some option)
      else some (a.setValue (String.ofList cs) option, none)
    | none, some flag => short? (a.setFlag flag) cs
    | none, none => none

/-- Reads a long option, with the value behind its equals sign if there is one. -/
def long? (a : Arguments) (text : List Char) : Option Progress :=
  let name := String.ofList (text.takeWhile (· ≠ '='))
  match longValue? name, longFlag? name, text.dropWhile (· ≠ '=') with
  | some option, _, [] => some (a, some option)
  | some option, _, _ :: value => some (a.setValue (String.ofList value) option, none)
  | none, some flag, [] => some (a.setFlag flag, none)
  | none, _, _ => none

def one? (a : Arguments) (text : String) : Option Progress :=
  match text.toList with
  | '-' :: '-' :: cs => long? a ('-' :: '-' :: cs)
  | '-' :: c :: cs => short? a (c :: cs)
  | _ => some ({ a with extra := true }, none)

/-- Reads arguments; `due` is the option whose value comes next. -/
def readFrom (a : Arguments) : Option ValueOption → List String → Option Arguments
  | none, [] => some a
  | some _, [] => none
  | some option, text :: rest => readFrom (a.setValue text option) none rest
  | none, text :: rest =>
    if text = "--" then some { a with extra := a.extra || !rest.isEmpty }
    else
      match one? a text with
      | some (a, due) => readFrom a due rest
      | none => none

/-- The values that count. -/
def values (a : Arguments) : List String :=
  a.descriptors.toList ++ a.database.toList ++ a.log.toList

/-- No argument is left over, and no value holds a character that names cannot hold. -/
def isAccepted (a : Arguments) : Bool := !a.extra && !a.values.any Path.hasNull

def overrides (a : Arguments) : List Override :=
  (a.descriptors.map Override.descriptors).toList ++ (a.database.map Override.database).toList
    ++ (a.log.map Override.log).toList ++ [.verbose a.verbose]

end Arguments

def Invocation.ofArguments (texts : List String) : Invocation :=
  match Arguments.readFrom .empty none texts with
  | none => usage
  | some a => if a.help then help else if a.isAccepted then run a.overrides else usage

end TopologyExplorer
