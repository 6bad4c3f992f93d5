import CrudScaffold.Run.Generator

/-!
# Registries

The generators that a run may use, in the order in which they are used: what other files import is written first.
-/

namespace CrudScaffold

structure Registry where
  generators : Entries ArtifactKind Generator

/-- A name that no generator can be registered under. -/
inductive RegistryFault
  /-- The name is a choice that has no file of its own. -/
  | option (name : String)
  | unknown (name : String)
  deriving DecidableEq, Repr

def RegistryFault.message : RegistryFault → String
  | option name => "'" ++ name ++ "' is an option, not an artifact kind"
  | unknown name => Text.quoted name ++ " is not a valid GeneratorFilesType"

namespace Registry

/-- The choices that change other files and have none of their own. -/
def fileless : List Choice :=
  [.all, .softDelete]

private def kindOf (name : String) : Except RegistryFault ArtifactKind :=
  match ArtifactKind.ofName? name with
  | some k => .ok k
  | none => .error (if (fileless.map Choice.name).contains name then .option name else .unknown name)

/-- A registry of generators under the names of their kinds. -/
def ofNames (named : Entries String Generator) : Except RegistryFault Registry :=
  (named.mapM fun e => (kindOf e.1).map fun k => (k, e.2)).map fun entries => ⟨Entries.ofList entries⟩

def dispatchOrder : List ArtifactKind :=
  [.model, .migration, .factory, .seeder, .filter, .createRequest, .updateRequest, .resource, .controller, .test,
    .routes]

/-- The generators of all kinds of files. -/
def standard : Registry :=
  ⟨dispatchOrder.map fun k => (k, k.generator)⟩

def kinds (r : Registry) : List ArtifactKind :=
  r.generators.keys

def size (r : Registry) : Nat :=
  r.generators.length

/-- The registry itself, or the standard one in place of an empty one. -/
def orStandard (r : Registry) : Registry :=
  if r.generators.isEmpty then standard else r

def describe (r : Registry) : String :=
  "<CommandConfigHandler " ++ toString r.size ++ " generators>"

/-- The note that names the generators in order. -/
def orderNote (r : Registry) : Note :=
  ⟨.debug, "crudgen.registry", "Registry order: " ++ ", ".intercalate (r.kinds.map ArtifactKind.name)⟩

end Registry

end CrudScaffold
