import CrudScaffold.Artifact.Factory

/-!
# The filter

The class that narrows a query of the list endpoint: by which fields rows may be filtered, sorted and searched.
-/

namespace CrudScaffold

open Source (ClassBody Function Member)

namespace Request

private def namesOf (fields : List Field) : List String :=
  fields.map (·.name)

def filterNames (r : Request) : List String :=
  "id" :: namesOf (r.fields.filter fun f => f.type ≠ .json ∧ f.type ≠ .text)

def sortNames (r : Request) : List String :=
  "id" :: namesOf (r.fields.filter fun f => f.type ≠ .json) ++ ["created_at", "updated_at"]

def includeNames (r : Request) : List String :=
  (r.fields.filter (·.isForeignKey)).map (·.relationName)

def searchNames (r : Request) : List String :=
  namesOf (r.fields.filter fun f => f.type.isText)

private def nameList (name : String) (items : List String) : Member :=
  .field name (.of "List" (.path "str")) (.literal (Text.quotedList items))

private def start : Function :=
  ⟨[], "__init__",
    ["self", "filters: Optional[Dict[str, Any]] = None", "sort: Optional[str] = None",
      "search: Optional[str] = None"],
    true, some "None",
    [.code 0 "self.filters: Dict[str, Any] = \x7b",
      .code 1 "key: value",
      .code 1 "for key, value in (filters or \x7b\x7d).items()",
      .code 1 "if key in self.allowed_filters and value is not None",
      .code 0 "\x7d",
      .code 0 "self.sort: Optional[str] = sort",
      .code 0 "self.search: Optional[str] = search"]⟩

private def narrow (r : Request) : Function :=
  ⟨[], "apply", ["self", "stmt: Select"], false, some "Select",
    [.code 0 "for name, value in self.filters.items():",
      .code 1 ("stmt = stmt.where(getattr(" ++ r.model ++ ", name) == value)"),
      .blank,
      .code 0 "if self.search and self.searchable:",
      .code 1 "pattern = \"%\" + self.search + \"%\"",
      .code 1 ("stmt = stmt.where(or_(*(getattr(" ++ r.model ++ ", c).ilike(pattern) for c in self.searchable)))"),
      .blank,
      .code 0 "if self.sort:",
      .code 1 "column = self.sort.lstrip(\"-\")",
      .code 1 "if column in self.allowed_sorts:",
      .code 2 ("attribute = getattr(" ++ r.model ++ ", column)"),
      .code 2 ("stmt = stmt.order_by(attribute.desc() if self.sort.startswith(\"-\") else attribute.asc())"),
      .code 0 "return stmt"]⟩

def filterClass (r : Request) : ClassBody where
  name := r.className "" "Filters"
  base := none
  groups :=
    [[nameList "allowed_filters" r.filterNames, nameList "allowed_sorts" r.sortNames,
        nameList "allowed_includes" r.includeNames, nameList "searchable" r.searchNames],
      [.method start], [.method r.narrow]]

end Request

namespace Artifact

def filter (r : Request) : Artifact where
  place := r.filterPlace
  source :=
    { summary := "Query filters for " ++ r.model ++ "."
      imports := [Source.deferredHints, [⟨"typing", ["Any", "Dict", "List", "Optional"]⟩],
        [⟨"sqlalchemy", ["Select", "or_"]⟩], [r.modelImport]]
      assignments := []
      definitions := [.classBody r.filterClass] }

end Artifact

end CrudScaffold
