import CrudScaffold.Artifact.Module
import CrudScaffold.Artifact.Sample

/-!
# The feature test

Tests of the endpoints: they create, list, show, update and delete a row through a client.
-/

namespace CrudScaffold

open Source (Function Statement)

namespace Request

private def rowAddress : String :=
  "f\"\x7bURL\x7d\x7bcreated['id']\x7d\""

private def created : Statement :=
  .code 0 "created = _create(client, payload)"

private def succeeded : Statement :=
  .code 0 "assert response.status_code == 200"

/-- A test; `parameters` are the fixtures it uses. -/
private def testOf (name : String) (parameters : List String) (body : List Statement) : Function :=
  ⟨[], "test_" ++ name, parameters, false, none, body⟩

private def both : List String :=
  ["client", "payload"]

private def payloadFixture (r : Request) : Function :=
  ⟨["@pytest.fixture"], "payload", [], false, some "Dict[str, Any]",
    Statement.mapping "return " (r.fields.map fun f => (f.name, f.type.sampleValue))⟩

private def createHelper : Function :=
  ⟨[], "_create", ["client", "payload: Dict[str, Any]"], false, some "Dict[str, Any]",
    [.code 0 "response = client.post(URL, json=payload)",
      .code 0 "assert response.status_code == 201, response.text",
      .code 0 "return response.json()"]⟩

private def createTest (r : Request) : Function :=
  testOf ("create_" ++ r.snake) both <|
    [created, .code 0 "assert created[\"id\"] > 0"] ++
      (r.fields.filter fun f => f.type.isEchoed).map fun f =>
        .code 0 ("assert created[\"" ++ f.name ++ "\"] == payload[\"" ++ f.name ++ "\"]")

private def listTest (r : Request) : Function :=
  testOf ("list_" ++ r.plural) both
    [.code 0 "_create(client, payload)", .code 0 "response = client.get(URL)", succeeded,
      .code 0 "assert response.json()[\"total\"] >= 1"]

private def showTest (r : Request) : Function :=
  testOf ("show_" ++ r.snake) both
    [created, .code 0 ("response = client.get(" ++ rowAddress ++ ")"), succeeded,
      .code 0 "assert response.json()[\"id\"] == created[\"id\"]"]

private def missingTest (r : Request) : Function :=
  testOf ("show_missing_" ++ r.snake ++ "_returns_404") ["client"]
    [.code 0 "response = client.get(f\"\x7bURL\x7d999999\")", .code 0 "assert response.status_code == 404"]

private def updateTest (r : Request) : Function :=
  let changes := r.fields.filterMap fun f => f.type.changedValue?.map fun value => (f.name, value)
  testOf ("update_" ++ r.snake) both <|
    [created] ++
      Statement.mapping (if changes.isEmpty then "changes: Dict[str, Any] = " else "changes = ") changes ++
      [.code 0 ("response = client.patch(" ++ rowAddress ++ ", json=changes)"), succeeded,
        .code 0 "for key, value in changes.items():", .code 1 "assert response.json()[key] == value"]

private def deleteTest (r : Request) : Function :=
  testOf ("delete_" ++ r.snake) both
    [created, .code 0 ("response = client.delete(" ++ rowAddress ++ ")"),
      .code 0 "assert response.status_code == 204",
      .code 0 ("assert client.get(" ++ rowAddress ++ ").status_code == 404")]

private def hiddenTest (r : Request) : Function :=
  testOf ("deleted_" ++ r.snake ++ "_is_hidden_from_list") both
    [created, .code 0 ("client.delete(" ++ rowAddress ++ ")"),
      .code 0 "ids = [item[\"id\"] for item in client.get(URL).json()[\"items\"]]",
      .code 0 "assert created[\"id\"] not in ids"]

def testFunctions (r : Request) : List Function :=
  [r.payloadFixture, createHelper, r.createTest, r.listTest, r.showTest, r.missingTest, r.updateTest,
    r.deleteTest] ++ if r.softDelete then [r.hiddenTest] else []

end Request

namespace Artifact

def featureTest (r : Request) : Artifact where
  place := r.testPlace
  source :=
    { summary := "Feature tests for the " ++ r.model ++ " API."
      imports := [Source.deferredHints, [⟨"typing", ["Any", "Dict"]⟩], [⟨"pytest", []⟩]]
      assignments := [("URL", .quoted (r.route ++ "/"))]
      definitions := r.testFunctions.map .function }

end Artifact

end CrudScaffold
