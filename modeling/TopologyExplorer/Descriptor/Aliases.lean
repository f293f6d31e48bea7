import TopologyExplorer.Descriptor.Fault

/-!
# Host aliases

The names of hosts and their addresses. A name that is declared again keeps its place and takes
the new address. One name is built in: it always stands for the machine itself, at the place of its
declaration or at the end.
-/

namespace TopologyExplorer

/-- The name of the machine itself, and its address. -/
def builtinHost : String := "TcmHost"

def builtinIp : String := "127.0.0.1"

structure AliasTable where
  entries : List (String × String)
  deriving DecidableEq, Repr

namespace AliasTable

/-- Puts an address at the place of its name, or at the end. -/
def put (entries : List (String × String)) (name ip : String) : List (String × String) :=
  match entries with
  | [] => [(name, ip)]
  | e :: es => if e.1 = name then (name, ip) :: es else e :: put es name ip

/-- The table of declarations in their order, and of the built-in name. -/
def ofDeclarations (declarations : List (String × String)) : AliasTable :=
  ⟨put (declarations.foldl (fun es d => put es d.1 d.2) []) builtinHost builtinIp⟩

/-- The address of a name. The path is that of the descriptor which asks for it. -/
def addressOf (t : AliasTable) (name : String) (path : Option Path) :
    Except DescriptorFault String :=
  match t.entries.lookup name with
  | some ip => .ok ip
  | none => .error ⟨.unknownHost name, path⟩

def declaration (path : Path) (host : Xml.Element) : Except DescriptorFault (String × String) := do
  let name ← Descriptor.valueOf path host "Name"
  let ip ← Descriptor.valueOf path host "InnerIP"
  return (name, ip)

def ofElement (path : Path) (root : Xml.Element) : Except DescriptorFault AliasTable := do
  return ofDeclarations (← (root.allNamed "Host").mapM (declaration path))

end AliasTable

end TopologyExplorer
