import CrudScaffold.Artifact.Module
import CrudScaffold.Artifact.Sample

/-!
# The factory and the seeder

The factory makes objects of the model that are filled with sample data, and the seeder stores some of them.
-/

namespace CrudScaffold

open Source (ClassBody Function Import Member)

namespace Request

/-- The line that imports the class of the model. -/
def modelImport (r : Request) : Import :=
  ⟨r.modulePath r.modelPlace, [r.model]⟩

def needsTimezone (r : Request) : Bool :=
  r.fields.any fun f => f.type = .timestamp

private def definition (r : Request) : Function :=
  ⟨["@staticmethod"], "definition", [], false, some "Dict[str, Any]",
    Source.Statement.mapping "return " (r.fields.map fun f => (f.name, f.fakeValue))⟩

private def make (r : Request) : Function :=
  ⟨["@classmethod"], "make", ["cls", "**overrides: Any"], false, some r.model,
    [.code 0 "attributes = \x7b**cls.definition(), **overrides\x7d", .code 0 "return cls.model(**attributes)"]⟩

private def makeMany (r : Request) : Function :=
  ⟨["@classmethod"], "make_many", ["cls", "count: int", "**overrides: Any"], false,
    some ("List[" ++ r.model ++ "]"),
    [.code 0 "return [cls.make(**overrides) for _ in range(count)]"]⟩

def factoryClass (r : Request) : ClassBody where
  name := r.className "" "Factory"
  base := none
  groups :=
    [[.doc ("Builds unsaved " ++ r.model ++ " instances filled with fake data.")],
      [.value "model" (.path r.model)], [.method r.definition], [.method r.make], [.method r.makeMany]]

def factoryImports (r : Request) : List (List Import) :=
  [Source.deferredHints,
    (if r.needsTimezone then [⟨"datetime", ["timezone"]⟩] else []) ++ [⟨"typing", ["Any", "Dict", "List"]⟩],
    [⟨"faker", ["Faker"]⟩], [r.modelImport]]

def seederClass (r : Request) : ClassBody where
  name := r.className "" "Seeder"
  base := none
  groups :=
    [[.method ⟨[], "run", ["self", "session: Session", "count: int = 10"], false, some "None",
      [.code 0 ("\"\"\"Insert *count* fake " ++ r.model ++ " rows and commit.\"\"\""),
        .code 0 ("session.add_all(" ++ r.className "" "Factory" ++ ".make_many(count))"),
        .code 0 "session.commit()"]⟩]]

end Request

namespace Artifact

def factory (r : Request) : Artifact where
  place := r.factoryPlace
  source :=
    { summary := "Test data factory for " ++ r.model ++ "."
      imports := r.factoryImports
      assignments := [("fake", .call "Faker" .nil)]
      definitions := [.classBody r.factoryClass] }

def seeder (r : Request) : Artifact where
  place := r.seederPlace
  source :=
    { summary := "Seeds the '" ++ r.table ++ "' table."
      imports := [Source.deferredHints, [⟨"sqlalchemy.orm", ["Session"]⟩],
        [⟨r.modulePath r.factoryPlace, [r.className "" "Factory"]⟩]]
      assignments := []
      definitions := [.classBody r.seederClass] }

end Artifact

end CrudScaffold
