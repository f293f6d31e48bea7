import TopologyExplorer.File.Tree
import TopologyExplorer.Text.IntegerText
import TopologyExplorer.Xml.Document

/-!
# Faults of descriptors

A descriptor file is missing or malformed, or an element of it breaks a rule. A path at which the
system refuses to look at all is a fault of another kind, and so is an encoding that no codec reads.
-/

namespace TopologyExplorer

inductive DescriptorCause where
  | missingFile
  | malformed
  | missingValue (element name : String)
  | notInteger (element name value : String)
  | unknownHost (name : String)
  | missingCluster
  | noGroup (funcName : String)
  | noHostRow (innerIp : String)
  deriving DecidableEq, Repr

def DescriptorCause.message : DescriptorCause → String
  | missingFile => "Config file not exists!"
  | malformed => "Malformed XML: the document is not well formed"
  | missingValue element name =>
    "<" ++ element ++ "> is missing attribute '" ++ name ++ "'"
  | notInteger element name value =>
    "<" ++ element ++ "> attribute " ++ name ++ "='" ++ value ++ "' is not an integer"
  | unknownHost name => "Unknown host '" ++ name ++ "'"
  | missingCluster => "Missing <ClusterDeploy>"
  | noGroup funcName => "Proc '" ++ funcName ++ "' belongs to no ProcGroup"
  | noHostRow innerIp => "No host row for " ++ innerIp

/-- A cause with the descriptor that it is found in, if there is one. -/
structure DescriptorFault where
  cause : DescriptorCause
  path : Option Path
  deriving DecidableEq, Repr

def DescriptorFault.message (f : DescriptorFault) : String :=
  match f.path with
  | some path => f.cause.message ++ " [" ++ path.text ++ "]"
  | none => f.cause.message

inductive ReadFault where
  | descriptor (fault : DescriptorFault)
  | system (fault : SystemFault)
  | encoding (fault : Xml.CodecFault)
  deriving DecidableEq, Repr

namespace Descriptor

def root [Xml.Codecs] (path : Path) : Found → Except ReadFault Xml.Element
  | .file bytes =>
    match Xml.rootOf bytes with
    | .ok e => .ok e
    | .error .malformed => .error (.descriptor ⟨.malformed, some path⟩)
    | .error (.encoding fault) => .error (.encoding fault)
  | .missing => .error (.descriptor ⟨.missingFile, some path⟩)
  | .directory => .error (.system .isDirectory)
  | .throughFile => .error (.system .notDirectory)
  | .tooLong => .error (.system .nameTooLong)
  | .unnameable => .error (.system .unnameable)
  | .unreadable | .unsearchable => .error (.system .accessDenied)

def valueOf (path : Path) (e : Xml.Element) (name : String) : Except DescriptorFault String :=
  match e.value? name with
  | some value => .ok value
  | none => .error ⟨.missingValue e.tag.base name, some path⟩

def integer (path : Path) (e : Xml.Element) (name value : String) : Except DescriptorFault Int :=
  match IntegerText.ofText? value with
  | some n => .ok n
  | none => .error ⟨.notInteger e.tag.base name value, some path⟩

def integerOf (path : Path) (e : Xml.Element) (name : String) :
    Except DescriptorFault Int := do
  integer path e name (← valueOf path e name)

/-- An integer that an element may leave out. -/
def integerOr (path : Path) (e : Xml.Element) (name : String) (absent : Int) :
    Except DescriptorFault Int :=
  match e.value? name with
  | some value => integer path e name value
  | none => .ok absent

end Descriptor

end TopologyExplorer
