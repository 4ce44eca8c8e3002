import FacetedSearch.Fault
import FacetedSearch.Text.Split

/-!
The classes that stores can be built from, by the modules that hold them. A path names a module, and
after a colon a class in it; without a class the first one of the wanted kind counts.
-/

namespace FacetedSearch

/-- What a class is for. -/
inductive ClassRole where
  | searchStore
  | component
  | searchProvider
  | provider
  | hooks
  /-- A model, whose parameters are its fields. -/
  | model
  | other
deriving DecidableEq, Repr

structure RegisteredClass where
  name : String
  /-- The module that defines the class. -/
  home : String
  role : ClassRole := .other
  /-- The classes it extends. -/
  ancestors : List String := []
  /-- What goes wrong when an instance is made without parameters. -/
  bareFault : Option Fault := none
deriving DecidableEq, Repr

/-- Makes an instance without parameters, of which only the class counts. -/
def RegisteredClass.newBare (entry : RegisteredClass) : Outcome Unit :=
  match entry.bareFault with
  | some fault => .error fault
  | none => .ok ()

/-- A module with the classes that it names. -/
structure RegisteredModule where
  path : String
  classes : List RegisteredClass := []
deriving DecidableEq, Repr

structure Registry where
  modules : List RegisteredModule := []
deriving DecidableEq, Repr

namespace Registry

/-- The module and the class that a path names. -/
def splitPath (path : String) : String × Option String :=
  match Text.splitFirst? ':' path with
  | some (modulePath, name) => (modulePath, some name)
  | none => (path, none)

/-- A path must be given from the root of the modules. -/
def findModule (registry : Registry) (path : String) : Outcome RegisteredModule :=
  match path.toList with
  | [] => .error .wrongValue
  | '.' :: _ => .error .wrongKind
  | _ =>
    match registry.modules.find? (·.path == path) with
    | some found => .ok found
    | none => .error (.unknownModule path)

/-- The class of a kind that a module itself defines, by name the first. -/
def ownClass? (found : RegisteredModule) (kind : String) : Option RegisteredClass :=
  let candidates :=
    found.classes.filter fun entry => entry.home == found.path && entry.ancestors.contains kind
  (candidates.mergeSort fun a b => decide (a.name ≤ b.name)).head?

/-- What a module has under a name: a class, or a module inside it, of which there are no
instances. -/
def named? (registry : Registry) (found : RegisteredModule) (name : String) :
    Option RegisteredClass :=
  let isInner := fun (inner : RegisteredModule) =>
    !name.toList.contains '.' && inner.path == found.path ++ "." ++ name
  (found.classes.find? (·.name == name)).or <|
    (registry.modules.find? isInner).map fun inner =>
      { name := inner.path, home := found.path, bareFault := some .wrongKind }

/-- Loads a class of a kind by its path. -/
def loadClass (registry : Registry) (path kind : String) : Outcome RegisteredClass := do
  let (modulePath, name) := splitPath path
  let found ← registry.findModule modulePath
  match name with
  | some name =>
    match registry.named? found name with
    | some entry => return entry
    | none => throw (.unknownClass name modulePath)
  | none =>
    match ownClass? found kind with
    | some entry => return entry
    | none => throw (.noClassOf kind modulePath)

end Registry

end FacetedSearch
