import TopologyExplorer.Text.Utf8

/-!
# Names of databases

The name of a database is the path of its file, or a locator. A locator has the scheme `file:`, no
authority but the local one, a path and options; a percent sign and two hexadecimal digits stand
for a byte in it. An option that is read must have a value of its own; any other is passed over.
-/

namespace TopologyExplorer

/-- What a database is opened for. -/
inductive Access where
  | read
  /-- Its file must be there. -/
  | change
  | make
  /-- It has no file. -/
  | memory
  deriving DecidableEq, Repr

namespace Access

def name : Access → String
  | read => "ro"
  | change => "rw"
  | make => "rwc"
  | memory => "memory"

def ofName? (name : String) : Option Access :=
  [read, change, make, memory].find? fun a => a.name = name

/-- An access may be given up for another one that does not grant more. -/
def allows : Access → Access → Bool
  | make, _ | memory, _ | _, memory => true
  | change, a => a ≠ make
  | read, a => a = read

end Access

structure DatabaseName where
  path : String
  access : Access
  /-- Nothing else changes the file, and the database does not change it either. -/
  immutable : Bool
  /-- The file that the database's own file takes its permissions from. -/
  model : Option String
  unlocked : Bool
  system : String
  deriving DecidableEq, Repr

namespace DatabaseName

/-- The file system unless another one is named. -/
def fileSystem : String := "unix"

/-- The file systems in which users of one file can share memory. -/
def sharingSystems : List String := [fileSystem, "unix-excl"]

def fileSystems : List String := sharingSystems ++ ["unix-none", "unix-dotfile"]

/-- The file system that keeps everything in memory. -/
def memorySystem : String := "memdb"

def longestInMemory : Nat := 1016

/-- The paths of databases without a lasting file. -/
def memoryPaths : List String := [":memory:", ""]

/-- The database has no file in any system. -/
def isUnfiled (n : DatabaseName) : Bool := n.access = .memory || memoryPaths.contains n.path

/-- The database has no lasting file. -/
def isTemporary (n : DatabaseName) : Bool := n.isUnfiled || n.system = memorySystem

def isWritable (n : DatabaseName) : Bool := n.access ≠ .read && (n.isUnfiled || !n.immutable)

def readsRedo (n : DatabaseName) : Bool := sharingSystems.contains n.system && !n.unlocked

def ofPath (path : String) : DatabaseName := ⟨path, .make, false, none, false, fileSystem⟩

/-! ## Locators -/

def scheme : List Char := "file:".toList

def hex? (c : Char) : Option Nat :=
  if c.isDigit then some (c.toNat - '0'.toNat)
  else if 'a' ≤ c ∧ c ≤ 'f' then some (c.toNat - 'a'.toNat + 10)
  else if 'A' ≤ c ∧ c ≤ 'F' then some (c.toNat - 'A'.toNat + 10)
  else none

/-- The bytes of a part of a locator. A zero byte ends the part. -/
def decode : List Char → List UInt8
  | '%' :: a :: b :: cs =>
    match hex? a, hex? b with
    | some x, some y => if 16 * x + y = 0 then [] else UInt8.ofNat (16 * x + y) :: decode cs
    | _, _ => String.utf8EncodeChar '%' ++ decode (a :: b :: cs)
  | c :: cs => String.utf8EncodeChar c ++ decode cs
  | [] => []

def part (cs : List Char) : String := String.ofList (Utf8.decode (decode cs))

/-- What follows the authority, if it is the local one. -/
def afterAuthority? (cs : List Char) : Option (List Char) :=
  if "//".toList.isPrefixOf cs then
    let authority := (cs.drop 2).takeWhile (· ≠ '/')
    if authority = [] ∨ authority = "localhost".toList then some (cs.drop (2 + authority.length))
    else none
  else some cs

def optionOf (cs : List Char) : String × String :=
  (part (cs.takeWhile (· ≠ '=')), part ((cs.dropWhile (· ≠ '=')).drop 1))

/-- The options of a locator; those without a name do not count. -/
def optionsOf (cs : List Char) : List (String × String) :=
  ((((cs.dropWhile (· ≠ '?')).drop 1).splitOn '&').map optionOf).filter fun o => o.1 ≠ ""

/-- The value is a yes: a word, or a number whose last byte is not zero. -/
def isYes (value : String) : Bool :=
  let digits := value.toList.takeWhile Char.isDigit
  let n := digits.foldl (fun n c => 10 * n + (c.toNat - '0'.toNat)) 0
  if digits.isEmpty then ["on", "yes", "true"].contains value.toLower
  else n ≤ 2147483647 && n % 256 ≠ 0

def set? (n : DatabaseName) : String × String → Option DatabaseName
  | ("vfs", value) => some { n with system := value }
  | ("cache", value) => if ["shared", "private"].contains value then some n else none
  | ("mode", value) => do
    let access ← Access.ofName? value
    if n.access.allows access then some { n with access := access } else none
  | _ => some n

/-- Reads what follows the scheme. Of two options for the same file, the first one counts. -/
def ofLocator? (cs : List Char) : Option DatabaseName := do
  let cs := (← afterAuthority? cs).takeWhile (· ≠ '#')
  let options := optionsOf cs
  options.foldlM set? {
    ofPath (part (cs.takeWhile (· ≠ '?'))) with
    immutable := (options.lookup "immutable").any isYes
    model := options.lookup "modeof"
    unlocked := (options.lookup "nolock").any isYes }

/-- Its file system is known, and can keep a path of this size. -/
def isKept (n : DatabaseName) : Bool :=
  fileSystems.contains n.system
    || (n.system = memorySystem && n.path.utf8ByteSize ≤ longestInMemory)

def ofText? (s : String) : Option DatabaseName :=
  let name := if scheme.isPrefixOf s.toList then ofLocator? (s.toList.drop scheme.length)
    else some (ofPath s)
  name.filter isKept

end DatabaseName

end TopologyExplorer
