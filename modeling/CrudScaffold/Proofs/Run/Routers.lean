import CrudScaffold.Proofs.Run.Routes
import CrudScaffold.Proofs.Source.Names
import CrudScaffold.Run.Command

/-!
# The routers of the routes file

The first lines of the file make the application's router, and every block after them binds the router of a controller
under a name that is made of the model's.  So long as no model has the name `api` in snake case, no two lines of the
file bind one name, and every controller is included in the application's router.  The block of such a model binds the
name of the application's router anew, and its controller is included in itself (`registers_keepsRouter_iff`).
-/

namespace CrudScaffold

open Source (lineNames boundNames lastBinder IsUnbroken)

namespace Request

/-- The line that makes the application's router. -/
def routerLine : String := "api_router = APIRouter()"

/-- Wherever a line of the text includes a controller, the application's router is the one that is meant. -/
def KeepsRouter (text : String) : Prop :=
  ∀ before line after, Text.lines (Text.translated text) = before ++ line :: after →
    Text.startsWith "api_router.include_router(" line = true → lastBinder "api_router" before = some routerLine

variable {r : Request} {rs : List Request}

/-! ### Lines of the file -/

/-- The lines that the file begins with. -/
private def firstLines : List String :=
  ["\"\"\"", "API route registry.", "Generated by crudgen.", "\"\"\"", "", "from fastapi import APIRouter", "",
    routerLine]

private theorem routesLines_eq (r : Request) : r.routesLines = ["", r.importLine, r.includeLine] := by
  rw [← registration_eq, registration_eq_lines]

private theorem routesText_eq_join (rs : List Request) :
    routesText rs = String.join ((firstLines ++ rs.flatMap routesLines).map (· ++ "\n")) := by
  have hrender : Artifact.routes.source.render = String.join (firstLines.map (· ++ "\n")) := by decide
  rw [routesText, hrender, List.map_append, ← String.toList_inj]
  simp only [String.toList_append, String.toList_join, List.flatMap_append]

private theorem lines_routesText (rs : List Request) :
    Text.lines (Text.translated (routesText rs)) = firstLines ++ rs.flatMap routesLines ++ [""] := by
  rw [Text.translated_of_not_mem (not_mem_routesText rs), routesText_eq_join]
  refine Text.lines_join fun line hline => ?_
  rcases List.mem_append.1 hline with hline | hline
  · have hfirst : ∀ l ∈ firstLines, l.toList.all (fun c => c != '\n' && c != '\r') = true := by decide
    exact Text.isLine_of_all (hfirst line hline)
  · obtain ⟨r, -, hline⟩ := List.mem_flatMap.1 hline
    rw [routesLines_eq] at hline
    simp only [List.mem_cons, List.not_mem_nil, or_false] at hline
    rcases hline with rfl | rfl | rfl
    · exact Text.isLine_of_all (by decide)
    · exact r.isLine_importLine
    · exact r.isLine_includeLine

/-! ### What the lines bind -/

private theorem isUnbroken_controller (r : Request) : IsUnbroken (r.modulePath r.controllerPlace) := by
  refine Source.isUnbroken_of_forall fun c hc => modulePath_chars (fun part hpart => ?_) hc
  simp only [controllerPlace, List.mem_cons, List.not_mem_nil, or_false] at hpart
  rcases hpart with rfl | rfl
  · exact Naming.isPlain_of_all (by decide)
  · rw [String.toList_append]
    exact (Naming.isPlain_snake r.model).append (Naming.isPlain_of_all (by decide))

private theorem isUnbroken_routerAlias (r : Request) : IsUnbroken r.routerAlias :=
  (Source.isUnbroken_of_forall fun c hc => Or.inr (Naming.isPlain_snake r.model c hc)).append
    (Source.isUnbroken_of_all (by decide))

private theorem modulePath_controllerPlace_ne_empty (r : Request) : r.modulePath r.controllerPlace ≠ "" := by
  by_cases hempty : r.namespaceModule = "" <;>
    simp [modulePath, controllerPlace, hempty, String.intercalate_cons_cons]

/-- A block binds its controller's router. -/
private theorem lineNames_importLine (r : Request) : lineNames r.importLine = [r.routerAlias] := by
  have hline : r.importLine =
      " ".intercalate ["from", r.modulePath r.controllerPlace, "import", "router", "as", r.routerAlias, "", ""] ++
        "# noqa: E402" := by
    have hfirst : "from ".toList = "from".toList ++ " ".toList := by decide
    have hmiddle : " import router as ".toList =
        " ".toList ++ ("import".toList ++ (" ".toList ++ ("router".toList ++
          (" ".toList ++ ("as".toList ++ " ".toList))))) := by
      decide
    have hlast : "  # noqa: E402".toList = " ".toList ++ (" ".toList ++ "# noqa: E402".toList) := by decide
    rw [importLine, ← String.toList_inj]
    simp only [String.toList_append, String.toList_intercalate, List.map_cons, List.map_nil,
      List.intercalate_cons_cons, List.intercalate_singleton, hfirst, hmiddle, hlast, String.toList_empty,
      List.append_assoc, List.append_nil, List.nil_append]
  have hmodule := r.modulePath_controllerPlace_ne_empty
  have halias : r.routerAlias ≠ "" := by
    simp [routerAlias]
  have hwords : Source.codeWords r.importLine =
      ["from", r.modulePath r.controllerPlace, "import", "router", "as", r.routerAlias] := by
    rw [hline, Source.codeWords_intercalate (by simp) _ (by decide)]
    · simp [hmodule, halias]
    · have hword {word : String} (h : word.toList.all (fun c => c != ' ' && c != ',' && c != '#') = true) :=
        Source.isUnbroken_of_all h
      simp only [List.forall_mem_cons, List.not_mem_nil, false_implies, implies_true, and_true]
      exact ⟨hword (by decide), r.isUnbroken_controller, hword (by decide), hword (by decide), hword (by decide),
        r.isUnbroken_routerAlias, hword (by decide), hword (by decide)⟩
  rw [lineNames, hwords]
  rfl

private theorem lineNames_includeLine (r : Request) : lineNames r.includeLine = [] := by
  have hopen : IsUnbroken "api_router.include_router(" := Source.isUnbroken_of_all (by decide)
  have hclose : IsUnbroken ")" := Source.isUnbroken_of_all (by decide)
  have hline : IsUnbroken r.includeLine := by
    unfold includeLine
    exact (hopen.append r.isUnbroken_routerAlias).append hclose
  have hpieces : ∀ piece ∈ [r.includeLine], IsUnbroken piece := List.forall_mem_singleton.2 hline
  have hcomment : "".toList.head?.all (· = '#') = true := rfl
  have hfirst : r.includeLine.toList.head? = some 'a' := by
    have hfront : "api_router.include_router(".toList = 'a' :: "pi_router.include_router(".toList := by decide
    unfold includeLine
    rw [String.toList_append, String.toList_append, hfront]
    rfl
  have hword : Source.codeWords r.includeLine = [r.includeLine] := by
    have hempty : r.includeLine ≠ "" := by
      intro h
      simp [h] at hfirst
    have hwords := Source.codeWords_intercalate (List.cons_ne_nil _ _) hpieces hcomment
    rw [String.intercalate_singleton, String.append_empty] at hwords
    simpa [hempty] using hwords
  -- a single word is no assignment, and this one is not the first word of an import either
  have himport : r.includeLine ≠ "import" := by
    intro h
    simp [h] at hfirst
  unfold lineNames
  rw [hword]
  split
  · rename_i h
    exact absurd (congrArg List.length h) (by simp)
  · rename_i h
    exact absurd (List.cons.inj h).1 himport
  · rename_i h
    exact absurd (congrArg List.length h) (by simp)
  · rfl

private theorem flatMap_lineNames_routesLines (r : Request) : r.routesLines.flatMap lineNames = [r.routerAlias] := by
  have hblank : lineNames "" = [] := by decide
  simp [routesLines_eq, hblank, lineNames_importLine, lineNames_includeLine]

/-- The names that the file binds: the library's class, the application's router, and the routers of the
controllers. -/
theorem boundNames_routesText (rs : List Request) :
    boundNames (routesText rs) = ["APIRouter", "api_router"] ++ rs.map routerAlias := by
  have hfirst : firstLines.flatMap lineNames = ["APIRouter", "api_router"] := by decide
  have hlast : [""].flatMap lineNames = [] := by decide
  rw [boundNames, lines_routesText, List.flatMap_append, List.flatMap_append, hfirst, hlast, List.append_nil,
    List.flatMap_assoc]
  simp only [flatMap_lineNames_routesLines, ← List.map_eq_flatMap]

/-! ### Names that are bound once -/

/-- A controller's router has the name of the application's exactly if the model is named `api`. -/
private theorem routerAlias_eq_iff : r.routerAlias = "api_router" ↔ r.snake = "api" := by
  have hname : "api" ++ "_router" = "api_router" := by decide
  rw [← hname, routerAlias, String.append_left_inj]

private theorem mem_map_routerAlias_iff : "api_router" ∈ rs.map routerAlias ↔ "api" ∈ rs.map snake := by
  simp only [List.mem_map, routerAlias_eq_iff]

private theorem nodup_map_snake_firsts (rs : List Request) : ((firsts rs).map snake).Nodup := by
  induction rs using List.reverseRecOn with
  | nil => exact List.nodup_nil
  | append_singleton rs r ih =>
    rw [firsts_append_singleton]
    split
    · exact ih
    · rename_i hnew
      rw [List.map_append, List.map_singleton, List.nodup_append]
      refine ⟨ih, by simp, fun name hname other hother => ?_⟩
      rw [List.mem_singleton.1 hother]
      rintro rfl
      exact hnew hname

private theorem nodup_map_routerAlias_firsts (rs : List Request) : ((firsts rs).map routerAlias).Nodup := by
  have hnames : (firsts rs).map routerAlias = ((firsts rs).map snake).map (· ++ "_router") := by
    rw [List.map_map]
    rfl
  rw [hnames]
  exact List.Pairwise.map _ (fun a b hne h => hne ((String.append_left_inj "_router").1 h)) (nodup_map_snake_firsts rs)

/-- No two lines of the file bind one name, unless a model is named like the application's router. -/
theorem nodup_boundNames_iff : (boundNames (routesText (firsts rs))).Nodup ↔ "api" ∉ rs.map snake := by
  have hclass : "APIRouter" ∉ (firsts rs).map routerAlias := by
    intro h
    obtain ⟨r, -, h⟩ := List.mem_map.1 h
    have hend : "_router".toList <:+ "APIRouter".toList := by
      rw [← h, routerAlias, String.toList_append]
      exact List.suffix_append _ _
    exact absurd hend (by decide)
  have hother : "APIRouter" ≠ "api_router" := by decide
  rw [boundNames_routesText, List.cons_append, List.cons_append, List.nil_append, List.nodup_cons, List.nodup_cons,
    mem_map_routerAlias_iff, mem_map_snake_firsts, List.mem_cons, not_or]
  simp [hclass, hother, nodup_map_routerAlias_firsts]

/-! ### The application's router -/

private theorem lastBinder_firstLines : lastBinder "api_router" firstLines = some routerLine := by
  decide

/-- Without a model of that name no block binds the name of the application's router. -/
private theorem lastBinder_of_blocks {lines after : List String} (hapi : "api" ∉ rs.map snake)
    (h : rs.flatMap routesLines ++ [""] = lines ++ after) : lastBinder "api_router" lines = none := by
  refine Source.lastBinder_eq_none fun line hline hbinds => ?_
  have hmem : line ∈ rs.flatMap routesLines ++ [""] := h ▸ List.mem_append_left _ hline
  have hblank : lineNames "" = [] := by decide
  rw [List.mem_append, List.mem_flatMap, List.mem_singleton] at hmem
  obtain ⟨r, hr, hmem⟩ | rfl := hmem
  · have hbound : "api_router" ∈ r.routesLines.flatMap lineNames := List.mem_flatMap.2 ⟨line, hmem, hbinds⟩
    rw [flatMap_lineNames_routesLines, List.mem_singleton] at hbound
    exact hapi (List.mem_map.2 ⟨r, hr, routerAlias_eq_iff.1 hbound.symm⟩)
  · simp [hblank] at hbinds

private theorem routerLine_ne_importLine (r : Request) : r.importLine ≠ routerLine := by
  intro h
  have hfirst := congrArg (fun s : String => s.toList.head?) h
  have hfront : "from ".toList = 'f' :: "rom ".toList := by decide
  have hother : routerLine.toList.head? = some 'a' := by decide
  simp [importLine, hfront, hother] at hfirst

/-- The router that is meant is that of the first lines, unless a block binds its name anew. -/
theorem keepsRouter_routesText_iff : KeepsRouter (routesText rs) ↔ "api" ∉ rs.map snake := by
  unfold KeepsRouter
  rw [lines_routesText, List.append_assoc]
  constructor
  · intro hkeeps hapi
    obtain ⟨r, hr, hsnake⟩ := List.mem_map.1 hapi
    obtain ⟨earlier, later, rfl⟩ := List.append_of_mem hr
    -- in the block of this model the import comes right before the inclusion
    have hmeant : lastBinder "api_router" (firstLines ++ earlier.flatMap routesLines ++ [""] ++ [r.importLine]) =
        some r.importLine := by
      rw [Source.lastBinder_append]
      simp [lastBinder, lineNames_importLine, routerAlias_eq_iff.2 hsnake]
    have hstarts : Text.startsWith "api_router.include_router(" r.includeLine = true := by
      unfold Text.startsWith includeLine
      rw [List.isPrefixOf_iff_prefix]
      simp only [String.toList_append, List.append_assoc, List.prefix_append]
    have hrouter := hkeeps (firstLines ++ earlier.flatMap routesLines ++ [""] ++ [r.importLine]) r.includeLine
      (later.flatMap routesLines ++ [""]) (by simp [routesLines_eq]) hstarts
    rw [hmeant] at hrouter
    exact r.routerLine_ne_importLine (Option.some.inj hrouter)
  · intro hapi before line after hlines hstarts
    have hfirst : ∀ l ∈ firstLines, Text.startsWith "api_router.include_router(" l = false := by decide
    obtain ⟨blocks, rfl, hblocks⟩ | ⟨rest, hrest, hline⟩ := List.append_eq_append_iff.1 hlines
    · rw [Source.lastBinder_append, lastBinder_of_blocks hapi hblocks, Option.none_or, lastBinder_firstLines]
    · cases rest with
      | nil => rw [← lastBinder_firstLines, hrest, List.append_nil]
      | cons first rest =>
        have hmem : line ∈ firstLines := by
          rw [hrest, (List.cons.inj hline).1]
          simp
        rw [hfirst line hmem] at hstarts
        cases hstarts

end Request

open ArtifactKind (register routes)

variable {rs : List Request} {t t' : FileTree}

/-- After registrations below one root that began without a routes file, the file binds no name twice, and includes all
controllers in the router that its first lines make, exactly if none of the models is named `api` in snake case. -/
theorem registers_keepsRouter_iff {root : String} (hroot : ∀ r ∈ rs, r.root = root)
    (hnone : ∀ content, t.lookup ((Path.ofText root).under ["routes", "api.py"]) ≠ .ok (.file content))
    (h : Registers t rs t') (hne : rs ≠ []) :
    ∃ text : String, t'.lookup ((Path.ofText root).under ["routes", "api.py"]) = .ok (.file text.toUTF8) ∧
      ((boundNames text).Nodup ↔ "api" ∉ rs.map Request.snake) ∧
      (Request.KeepsRouter text ↔ "api" ∉ rs.map Request.snake) := by
  refine ⟨_, h.lookup hroot hnone hne, Request.nodup_boundNames_iff, ?_⟩
  rw [Request.keepsRouter_routesText_iff, Request.mem_map_snake_firsts]

/-- Two models in an empty directory, and the first one once more. -/
theorem registers_keepsRouter_of_repeat :
    let post : Request := ⟨"BlogPost", ⟨fun _ => true⟩, ⟨[]⟩, "api", "out", "app"⟩
    let tag : Request := ⟨"Tag", ⟨fun _ => true⟩, ⟨[]⟩, "api", "out", "app"⟩
    let w : Workspace := ⟨⟨["home"], []⟩, ⟨⟨⟨2024, 1, 2⟩, 3, 4, 5, 6⟩, []⟩, ⟨0, []⟩, []⟩
    ∃ (t : FileTree) (text : String), Registers w.tree [post, tag, post] t ∧
      t.lookup ((Path.ofText "out").under ["routes", "api.py"]) = .ok (.file text.toUTF8) ∧
      (boundNames text).Nodup ∧ Request.KeepsRouter text := by
  intro post tag w
  have hok : (outcome (register post) w).1.isOk = true := by decide +kernel
  obtain ⟨files, w', hrun⟩ := exists_outcome_of_isOk hok
  have hnone : ∀ content, w.tree.lookup ((Path.ofText "out").under ["routes", "api.py"]) ≠ .ok (.file content) :=
    fun content => ne_ok_of_isOk_eq_false (by decide +kernel) _
  have hroot : ∀ s ∈ [post] ++ [tag, post], s.root = "out" := by simp [post, tag]
  have hother : "api" ∉ [post, tag, post].map Request.snake := by decide +kernel
  obtain ⟨t, hruns⟩ := (Registers.start.next hrun).exists_append hroot hnone (List.cons_ne_nil _ _) w
  obtain ⟨text, hfile, honce, hkeeps⟩ := registers_keepsRouter_iff hroot hnone hruns (List.cons_ne_nil _ _)
  exact ⟨t, text, hruns, hfile, honce.2 hother, hkeeps.2 hother⟩

/-- The first registration in an empty directory when the model is named like the application's router. -/
theorem not_keepsRouter_of_api :
    let c : Command := ⟨.fallback, .standard, reservedWords⟩
    let a : Arguments := ⟨"Api", none, [("routes", true)], none, .text "out", .absent⟩
    let w : Workspace := ⟨⟨["home"], []⟩, ⟨⟨⟨2024, 1, 2⟩, 3, 4, 5, 6⟩, []⟩, ⟨0, []⟩, []⟩
    ∃ r files w' text, c.request a = .ok r ∧ outcome (register r) w = (.ok files, w') ∧
      w'.tree.lookup (routes.outputPath "" r) = .ok (.file text.toUTF8) ∧
      ¬ (boundNames text).Nodup ∧ ¬ Request.KeepsRouter text := by
  intro c a w
  have hruns : (c.request a).toOption.map (fun r => (r.snake, (outcome (register r) w).1.isOk,
      (w.tree.lookup (routes.outputPath "" r)).isOk)) = some ("api", true, false) := by decide
  cases hrequest : c.request a with
  | error e => simp [hrequest, Except.toOption] at hruns
  | ok r =>
    simp only [hrequest, Except.toOption, Option.map_some, Option.some.injEq, Prod.mk.injEq] at hruns
    obtain ⟨hsnake, hok, hlookup⟩ := hruns
    obtain ⟨files, w', hrun⟩ := exists_outcome_of_isOk hok
    have hnone : w.tree.HoldsRoutes (routes.outputPath "" r) [] := by
      rw [FileTree.HoldsRoutes, if_pos rfl]
      exact fun content => ne_ok_of_isOk_eq_false hlookup _
    have hfile := register_step hnone hrun
    rw [if_neg (by simp), List.nil_append, FileTree.HoldsRoutes, if_neg (by simp)] at hfile
    refine ⟨r, files, w', _, rfl, hrun, hfile, ?_, ?_⟩
    · rw [Request.boundNames_routesText]
      simp [Request.routerAlias, hsnake]
    · rw [Request.keepsRouter_routesText_iff]
      simp [hsnake]

end CrudScaffold
