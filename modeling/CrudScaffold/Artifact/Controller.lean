import CrudScaffold.Artifact.Body
import CrudScaffold.Artifact.Resource

/-!
# The controller

The endpoints that list, show, create, update and delete rows. They use the request bodies, the resource and the
filter when those are written in the same run, and hide deleted rows when deletion only marks them.
-/

namespace CrudScaffold

open Source (Function Imports Statement)

namespace Request

def usesBodies (r : Request) : Bool :=
  r.isChosen .createRequest

def usesResource (r : Request) : Bool :=
  r.isChosen .resource

def usesFilter (r : Request) : Bool :=
  r.isChosen .filter

def filterName (r : Request) : String :=
  r.className "" "Filters"

/-- The parameter that holds the key of a row. -/
def keyName (r : Request) : String :=
  r.snake ++ "_id"

private def plainMapping : String :=
  "Dict[str, Any]"

private def sessionParameter : String :=
  "db: Session = Depends(get_db)"

/-- The type of one row in an answer. -/
private def rowType (r : Request) : String :=
  if r.usesResource then r.resourceName else plainMapping

private def pageType (r : Request) : String :=
  if r.usesResource then r.collectionName else plainMapping

/-- A row as it is answered. -/
private def presented (r : Request) (row : String) : String :=
  (if r.usesResource then r.resourceName ++ ".model_validate(" else "_serialize(") ++ row ++ ")"

/-- The setting of an endpoint that names the type of its answer. -/
private def answers (r : Request) (type : String) : String :=
  if r.usesResource then ", response_model=" ++ type else ""

private def keyAddress (r : Request) : String :=
  "\"/\x7b" ++ r.keyName ++ "\x7d\""

private def found (r : Request) : String :=
  "_find_or_404(db, " ++ r.keyName ++ ")"

/-- Rows that are marked as deleted are left out. -/
private def hideDeleted (r : Request) : List Statement :=
  if r.softDelete then [.code 0 ("stmt = stmt.where(" ++ r.model ++ ".deleted_at.is_(None))")] else []

private def serialize (r : Request) : Function :=
  ⟨[], "_serialize", ["obj: " ++ r.model], false, some plainMapping,
    [.code 0 "return \x7bc.name: getattr(obj, c.name) for c in obj.__table__.columns\x7d"]⟩

private def find (r : Request) : Function :=
  ⟨[], "_find_or_404", ["db: Session", r.keyName ++ ": int"], false, some r.model,
    [.code 0 ("stmt = select(" ++ r.model ++ ").where(" ++ r.model ++ ".id == " ++ r.keyName ++ ")")] ++
      r.hideDeleted ++
      [.code 0 "db_obj = db.execute(stmt).scalar_one_or_none()",
        .code 0 "if db_obj is None:",
        .code 1 ("raise HTTPException(status_code=404, detail=\"" ++ r.model ++ " not found.\")"),
        .code 0 "return db_obj"]⟩

private def index (r : Request) : Function :=
  let items := "[" ++ r.presented "row" ++ " for row in rows]"
  ⟨["@router.get(\"/\"" ++ r.answers r.collectionName ++ ")"], "list_" ++ r.plural,
    ["offset: int = Query(0, ge=0)", "limit: int = Query(20, ge=1, le=100)"] ++
      (if r.usesFilter then ["sort: Optional[str] = Query(None)", "search: Optional[str] = Query(None)"] else []) ++
      [sessionParameter],
    true, some r.pageType,
    [.code 0 ("stmt = select(" ++ r.model ++ ")")] ++ r.hideDeleted ++
      (if r.usesFilter then [.code 0 ("stmt = " ++ r.filterName ++ "(sort=sort, search=search).apply(stmt)")]
        else []) ++
      [.code 0 "total = db.execute(select(func.count()).select_from(stmt.subquery())).scalar_one()",
        .code 0 "rows = db.execute(stmt.offset(offset).limit(limit)).scalars().all()",
        .code 0 (if r.usesResource then "return " ++ r.collectionName ++ "(items=" ++ items ++ ", total=total)"
          else "return \x7b\"items\": " ++ items ++ ", \"total\": total\x7d")]⟩

private def showOne (r : Request) : Function :=
  ⟨["@router.get(" ++ r.keyAddress ++ r.answers r.resourceName ++ ")"], "get_" ++ r.snake,
    [r.keyName ++ ": int", sessionParameter], false, some r.rowType,
    [.code 0 ("return " ++ r.presented r.found)]⟩

/-- The parameter that holds the body of a request. -/
private def payload (r : Request) (action : BodyAction) : String :=
  if r.usesBodies then "payload: " ++ r.bodyName action else "payload: Dict[str, Any] = Body(...)"

/-- The values in the body of a request. -/
private def payloadValues (r : Request) (dumped : String) : String :=
  if r.usesBodies then "payload.model_dump(" ++ dumped ++ ")" else "payload"

private def store (r : Request) : Function :=
  ⟨["@router.post(\"/\", status_code=201" ++ r.answers r.resourceName ++ ")"], "create_" ++ r.snake,
    [r.payload .create, sessionParameter], true, some r.rowType,
    [.code 0 ("db_obj = " ++ r.model ++ "(**" ++ r.payloadValues "" ++ ")"),
      .code 0 "db.add(db_obj)",
      .code 0 "db.commit()",
      .code 0 "db.refresh(db_obj)",
      .code 0 ("return " ++ r.presented "db_obj")]⟩

private def update (r : Request) : Function :=
  ⟨["@router.patch(" ++ r.keyAddress ++ r.answers r.resourceName ++ ")"], "update_" ++ r.snake,
    [r.keyName ++ ": int", r.payload .update, sessionParameter], true, some r.rowType,
    [.code 0 ("db_obj = " ++ r.found),
      .code 0 ("for field, value in " ++ r.payloadValues "exclude_unset=True" ++ ".items():"),
      .code 1 "setattr(db_obj, field, value)",
      .code 0 "db.commit()",
      .code 0 "db.refresh(db_obj)",
      .code 0 ("return " ++ r.presented "db_obj")]⟩

private def destroy (r : Request) : Function :=
  ⟨["@router.delete(" ++ r.keyAddress ++ ", status_code=204)"], "delete_" ++ r.snake,
    [r.keyName ++ ": int", sessionParameter], false, some "None",
    [.code 0 ("db_obj = " ++ r.found),
      .code 0 (if r.softDelete then "db_obj.deleted_at = datetime.now(timezone.utc)" else "db.delete(db_obj)"),
      .code 0 "db.commit()"]⟩

def controllerFunctions (r : Request) : List Function :=
  (if r.usesResource then [] else [r.serialize]) ++
    [r.find, r.index, r.showOne, r.store, r.update, r.destroy]

def controllerImports (r : Request) : Imports :=
  let fixed : Imports := Entries.ofList
    [("fastapi", ["APIRouter", "Depends", "HTTPException", "Query"]), ("sqlalchemy", ["func", "select"]),
      ("sqlalchemy.orm", ["Session"]), (r.databaseModule, ["get_db"]), (r.modulePath r.modelPlace, [r.model])]
  let typing := (if r.usesBodies && r.usesResource then [] else ["Any", "Dict"]) ++
    if r.usesFilter then ["Optional"] else []
  let imports := if typing.isEmpty then fixed else fixed.set "typing" typing
  let imports := if r.softDelete then imports.set "datetime" ["datetime", "timezone"] else imports
  let bodyImport (action : BodyAction) (imports : Imports) :=
    imports.set (r.modulePath (r.bodyPlace action.word)) [r.bodyName action]
  let imports :=
    if r.usesBodies then bodyImport .update (bodyImport .create imports) else imports.add "fastapi" "Body"
  let imports :=
    if r.usesResource then imports.set (r.modulePath r.resourcePlace) [r.collectionName, r.resourceName]
    else imports
  if r.usesFilter then imports.set (r.modulePath r.filterPlace) [r.filterName] else imports

end Request

namespace Artifact

def controller (r : Request) : Artifact where
  place := r.controllerPlace
  source :=
    { summary := "HTTP endpoints for " ++ r.model ++ "."
      imports := Source.importSections r r.controllerImports
      assignments := [("router", .call "APIRouter" (.ofKeywords
        [("prefix", .quoted r.route), ("tags", .list (.ofValues [.quoted r.model]))]))]
      definitions := r.controllerFunctions.map .function }

end Artifact

end CrudScaffold
