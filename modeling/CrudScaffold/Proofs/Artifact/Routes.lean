import CrudScaffold.Artifact.Routes
import CrudScaffold.Proofs.Naming
import CrudScaffold.Proofs.Text.Affix
import Mathlib.Data.List.Induction

/-!
# The text of the routes file

The file is its first lines and one block of lines for each registered controller.  The line that registers a
controller occurs in such a text exactly if a block of it is the block of a model with the same snake-case name
(`occursIn_includeLine_iff`), so registering once more adds a block for a new name and nothing for another one
(`registered?_routesText`).
-/

namespace CrudScaffold

namespace Request

/-- The lines that a controller is registered with: a blank one, its import and its inclusion. -/
def routesLines (r : Request) : List String :=
  ["", "from " ++ r.modulePath r.controllerPlace ++ " import router as " ++ r.snake ++ "_router  # noqa: E402",
    "api_router.include_router(" ++ r.snake ++ "_router)"]

/-- The text of the routes file with the controllers of these requests, in this order. -/
def routesText (rs : List Request) : String :=
  Artifact.routes.source.render ++ String.join ((rs.flatMap routesLines).map (· ++ "\n"))

/-- The first request for each snake-case name, in order. -/
def firsts (rs : List Request) : List Request :=
  rs.eraseDupsBy fun r s => r.snake == s.snake

variable {r : Request} {rs : List Request}

theorem includeLine_eq (r : Request) :
    r.includeLine = "api_router.include_router(" ++ r.snake ++ "_router)" := by
  unfold includeLine routerAlias
  simp only [String.append_assoc, String.reduceAppend]

theorem registration_eq (r : Request) : "" :: r.registration = r.routesLines := by
  have hline (origin name : String) :
      (Source.Import.mk origin [name]).line = "from " ++ origin ++ " import " ++ name := by
    simp [Source.Import.line, Source.Import.isPlain]
  have hnames (s : String) : " import " ++ ("router as " ++ s) = " import router as " ++ s := by
    rw [← String.append_assoc]
    rfl
  rw [registration, routesLines, includeLine_eq, routerImport, hline, routerAlias]
  simp only [String.append_assoc, String.reduceAppend, hnames]

/-! ### First requests -/

private theorem eraseDupsBy_loop_append_singleton {α : Type} (same : α → α → Bool) (a : α) (as bs : List α) :
    List.eraseDupsBy.loop same (as ++ [a]) bs =
      if (List.eraseDupsBy.loop same as bs).any (same a) then List.eraseDupsBy.loop same as bs
      else List.eraseDupsBy.loop same as bs ++ [a] := by
  induction as generalizing bs with
  | nil => cases h : bs.any (same a) <;> simp [List.eraseDupsBy.loop, h]
  | cons b as ih =>
    rw [List.cons_append, List.eraseDupsBy.loop, List.eraseDupsBy.loop]
    split <;> exact ih _

theorem firsts_append_singleton (rs : List Request) (r : Request) :
    firsts (rs ++ [r]) = if r.snake ∈ (firsts rs).map snake then firsts rs else firsts rs ++ [r] := by
  have hany : ((firsts rs).any fun s => r.snake == s.snake) = true ↔ r.snake ∈ (firsts rs).map snake := by
    simp only [List.any_eq_true, beq_iff_eq, List.mem_map, @eq_comm _ r.snake]
  simp only [← hany]
  exact eraseDupsBy_loop_append_singleton _ r rs []

/-- Every name is among those of the first requests. -/
theorem mem_map_snake_firsts {name : String} : name ∈ (firsts rs).map snake ↔ name ∈ rs.map snake := by
  induction rs using List.reverseRecOn with
  | nil => rfl
  | append_singleton rs r ih =>
    rw [firsts_append_singleton, List.map_append, List.mem_append, ← ih]
    split
    · rename_i hmem
      constructor
      · exact Or.inl
      · rintro (h | h)
        · exact h
        · rwa [List.mem_singleton.1 h]
    · rw [List.map_append, List.mem_append]

theorem firsts_ne_nil (h : rs ≠ []) : firsts rs ≠ [] := by
  obtain ⟨r, hr⟩ := List.exists_mem_of_ne_nil rs h
  have hmem := mem_map_snake_firsts.2 (List.mem_map_of_mem (f := snake) hr)
  intro hnil
  rw [hnil] at hmem
  cases hmem

/-! ### Characters of a block -/

theorem modulePath_chars {r : Request} {parts : List String}
    (hparts : ∀ part ∈ parts, Naming.IsPlain part.toList) {c : Char} (h : c ∈ (r.modulePath parts).toList) :
    c = '.' ∨ Text.isIdentChar c = true := by
  rw [modulePath, String.toList_intercalate] at h
  rcases Naming.mem_joined h with h | ⟨part, hpart, h⟩
  · exact Or.inl (List.mem_singleton.1 h)
  · obtain ⟨s, hs, rfl⟩ := List.mem_map.1 hpart
    rcases List.mem_cons.1 (List.mem_filter.1 hs).1 with rfl | hs
    · exact Naming.modulePath_chars h
    · exact Or.inr (hparts s hs c h)

/-- The text of a block up to its call. -/
private def beforeCall (r : Request) : List Char :=
  '\n' :: (("from " ++ r.modulePath r.controllerPlace ++ " import router as " ++ r.snake ++
    "_router  # noqa: E402").toList ++ '\n' :: "api_router.include_router".toList)

/-- What a block calls the router by. -/
private def argument (r : Request) : List Char :=
  r.snake.toList ++ "_router".toList

/-- The text of a block. -/
private def block (r : Request) : List Char :=
  r.beforeCall ++ '(' :: (r.argument ++ ')' :: ['\n'])

private theorem toList_call (r : Request) :
    ("api_router.include_router(" ++ r.snake ++ "_router)").toList =
      "api_router.include_router".toList ++ '(' :: (r.argument ++ [')']) := by
  have hopen : "api_router.include_router(".toList = "api_router.include_router".toList ++ ['('] := by decide
  have hclose : "_router)".toList = "_router".toList ++ [')'] := by decide
  simp only [argument, String.toList_append, hopen, hclose, List.append_assoc, List.cons_append,
    List.nil_append]

private theorem toList_includeLine (r : Request) :
    r.includeLine.toList = "api_router.include_router".toList ++ '(' :: (r.argument ++ [')']) := by
  rw [includeLine_eq, toList_call]

private theorem toList_routesLines (r : Request) :
    (r.routesLines.map (· ++ "\n")).flatMap String.toList = r.block := by
  have hbreak (s : String) : (s ++ "\n").toList = s.toList ++ ['\n'] := String.toList_append
  simp only [routesLines, block, beforeCall, List.map_cons, List.map_nil, List.flatMap_cons, List.flatMap_nil, hbreak,
    toList_call, String.toList_empty, List.append_assoc, List.nil_append, List.append_nil, List.cons_append]

/-- Neither parentheses nor carriage returns. -/
private theorem beforeCall_chars {r : Request} {c : Char} (h : c ∈ r.beforeCall) : c ≠ '(' ∧ c ≠ ')' ∧ c ≠ '\r' := by
  have hword {cs : List Char} (hcs : cs.all (fun c => c != '(' && c != ')' && c != '\r') = true) (h : c ∈ cs) :
      c ≠ '(' ∧ c ≠ ')' ∧ c ≠ '\r' := by
    have := List.all_eq_true.1 hcs c h
    simpa [and_assoc] using this
  have hplain (h : Text.isIdentChar c = true) : c ≠ '(' ∧ c ≠ ')' ∧ c ≠ '\r' := by
    refine ⟨?_, ?_, ?_⟩ <;> rintro rfl <;> exact absurd h (by decide)
  have hplace : ∀ part ∈ r.controllerPlace, Naming.IsPlain part.toList := by
    intro part hpart
    simp only [controllerPlace, List.mem_cons, List.not_mem_nil, or_false] at hpart
    rcases hpart with rfl | rfl
    · exact Naming.isPlain_of_all (by decide)
    · rw [String.toList_append]
      exact (Naming.isPlain_snake r.model).append (Naming.isPlain_of_all (by decide))
  simp only [beforeCall, String.toList_append, List.mem_cons, List.mem_append] at h
  rcases h with rfl | ((((h | h) | h) | h) | h) | rfl | h
  · decide
  · exact hword (by decide) h
  · rcases modulePath_chars hplace h with rfl | h
    · decide
    · exact hplain h
  · exact hword (by decide) h
  · exact hplain (Naming.isPlain_snake r.model c h)
  · exact hword (by decide) h
  · decide
  · exact hword (by decide) h

private theorem argument_chars {r : Request} : '(' ∉ r.argument ∧ ')' ∉ r.argument ∧ '\r' ∉ r.argument := by
  have hplain : Naming.IsPlain r.argument :=
    (Naming.isPlain_snake r.model).append (Naming.isPlain_of_all (by decide))
  refine ⟨?_, ?_, ?_⟩ <;> exact fun h => absurd (hplain _ h) (by decide)

private theorem argument_inj {r s : Request} (h : r.argument = s.argument) : r.snake = s.snake :=
  String.toList_inj.1 (List.append_cancel_right h)

/-! ### Texts of the file -/

/-- The file before any controller is registered. Its only call has no argument. -/
theorem render_routes :
    Artifact.routes.source.render = "\"\"\"\nAPI route registry.\nGenerated by crudgen.\n\"\"\"\n\n" ++
      "from fastapi import APIRouter\n\napi_router = APIRouter" ++ "()\n" := by
  decide +kernel

private theorem exists_toList_render_routes :
    ∃ before, Artifact.routes.source.render.toList = before ++ '(' :: ')' :: ['\n'] ∧ '(' ∉ before ∧
      '\r' ∉ before := by
  have hcall : "()\n".toList = '(' :: ')' :: ['\n'] := rfl
  rw [render_routes, String.toList_append, hcall]
  exact ⟨_, rfl, by decide +kernel, by decide +kernel⟩

private theorem toList_routesText (rs : List Request) :
    (routesText rs).toList = Artifact.routes.source.render.toList ++ rs.flatMap block := by
  rw [routesText, String.toList_append, String.toList_join, List.map_flatMap, List.flatMap_assoc]
  simp only [toList_routesLines]

private theorem call_infix_blocks_iff {r : Request} {rs : List Request} :
    '(' :: (r.argument ++ [')']) <:+: rs.flatMap block ↔ r.snake ∈ rs.map snake := by
  induction rs with
  | nil => simp
  | cons s rs ih =>
    -- a block has one opening parenthesis, so a call that is found begins there or in a later block
    have hbefore : '(' ∉ s.beforeCall := fun h => (beforeCall_chars h).1 rfl
    have hafter : '(' ∉ s.argument ++ [')', '\n'] := by simp [argument_chars.1]
    have htail (rest : List Char) : s.argument ++ ')' :: ['\n'] ++ rest = (s.argument ++ [')', '\n']) ++ rest := rfl
    rw [List.flatMap_cons, block, List.append_assoc, Text.cons_infix_append_iff hbefore, List.cons_append,
      List.infix_cons_iff, htail, Text.cons_infix_append_iff hafter, ih, List.cons_prefix_cons, List.append_assoc,
      List.cons_append, Text.append_singleton_prefix_iff argument_chars.2.1 argument_chars.2.1, List.map_cons,
      List.mem_cons]
    constructor
    · rintro (⟨-, h⟩ | h)
      · exact Or.inl (argument_inj h)
      · exact Or.inr h
    · rintro (h | h)
      · exact Or.inl ⟨rfl, by rw [argument, argument, h]⟩
      · exact Or.inr h

/-- A text of the file has a controller's line exactly if it has the block of a model with the same name. -/
theorem occursIn_includeLine_iff :
    Text.occursIn r.includeLine (routesText rs) = true ↔ r.snake ∈ rs.map snake := by
  rw [Text.occursIn_iff, toList_routesText]
  constructor
  · intro h
    obtain ⟨before, hrender, hbefore, -⟩ := exists_toList_render_routes
    have hcall : '(' :: (r.argument ++ [')']) <:+: r.includeLine.toList := by
      rw [toList_includeLine]
      exact (List.suffix_append _ _).isInfix
    -- the call in the first lines has no argument, so it is not this one
    have hempty : r.argument ≠ [] := by simp [argument]
    have hpart := hcall.trans h
    rw [hrender, List.append_assoc, Text.cons_infix_append_iff hbefore, List.cons_append, List.infix_cons_iff,
      List.cons_prefix_cons] at hpart
    rcases hpart with ⟨-, hfront⟩ | hpart
    · have hclose : r.argument ++ [')'] <+: [] ++ ')' :: (['\n'] ++ rs.flatMap block) := hfront
      exact absurd ((Text.append_singleton_prefix_iff argument_chars.2.1 List.not_mem_nil).1 hclose) hempty
    · have hrest : '(' :: (r.argument ++ [')']) <:+: [')', '\n'] ++ rs.flatMap block := hpart
      exact call_infix_blocks_iff.1 ((Text.cons_infix_append_iff (by decide)).1 hrest)
  · intro h
    obtain ⟨s, hs, hsame⟩ := List.mem_map.1 h
    have hblock : r.includeLine.toList <:+: s.block := by
      rw [toList_includeLine, block, beforeCall, argument, argument, hsame]
      refine ⟨'\n' :: (("from " ++ s.modulePath s.controllerPlace ++ " import router as " ++ r.snake ++
        "_router  # noqa: E402").toList ++ ['\n']), ['\n'], ?_⟩
      simp only [List.append_assoc, List.cons_append, List.nil_append]
    have hblocks : s.block <:+: rs.flatMap block := by
      rw [List.flatMap_def]
      exact List.infix_of_mem_flatten (List.mem_map_of_mem hs)
    exact (hblock.trans hblocks).trans (List.suffix_append _ _).isInfix

private theorem routesText_append_singleton (rs : List Request) (r : Request) :
    routesText (rs ++ [r]) = routesText rs ++ "\n" ++ "\n".intercalate r.registration ++ "\n" := by
  have hpair (a b : String) : (["", a, b].map (· ++ "\n")).flatMap String.toList =
      "\n".toList ++ (("\n".intercalate [a, b]).toList ++ "\n".toList) := by
    simp
  have hlines : (r.routesLines.map (· ++ "\n")).flatMap String.toList =
      "\n".toList ++ (("\n".intercalate r.registration).toList ++ "\n".toList) := by
    rw [← registration_eq]
    exact hpair _ _
  rw [← String.toList_inj]
  simp only [routesText, String.toList_append, String.toList_join, List.flatMap_append, List.map_append,
    List.flatMap_cons, List.flatMap_nil, List.append_nil, hlines, List.append_assoc]

private theorem endsWith_routesText (rs : List Request) : Text.endsWith "\n" (routesText rs) = true := by
  rw [Text.endsWith_iff]
  induction rs using List.reverseRecOn with
  | nil =>
    obtain ⟨before, hrender, -⟩ := exists_toList_render_routes
    rw [toList_routesText, hrender, List.flatMap_nil, List.append_nil]
    exact ⟨before ++ ['(', ')'], by simp⟩
  | append_singleton rs r _ =>
    rw [routesText_append_singleton, String.toList_append]
    exact List.suffix_append _ _

/-- What one more registration makes of a text of the file. -/
theorem registered?_routesText (rs : List Request) (r : Request) :
    r.registered? (routesText rs) = if r.snake ∈ rs.map snake then none else some (routesText (rs ++ [r])) := by
  have hempty : routesText rs ≠ "" := by
    intro h
    have := endsWith_routesText rs
    rw [h] at this
    exact absurd this (by decide)
  unfold registered?
  simp only [occursIn_includeLine_iff, endsWith_routesText, hempty, if_false, if_true, routesText_append_singleton]

/-- What the first registration makes of no text. -/
theorem registered?_empty (r : Request) : r.registered? "" = some (routesText [r]) := by
  have hempty : routesText [] = Artifact.routes.source.render := by simp [routesText]
  have hoccurs : Text.occursIn r.includeLine "" = false := by
    rw [Bool.eq_false_iff, Ne, Text.occursIn_iff]
    simp [toList_includeLine]
  have hends := endsWith_routesText []
  rw [hempty] at hends
  rw [← List.nil_append [r], routesText_append_singleton, hempty]
  simp [registered?, hoccurs, hends]

theorem not_mem_routesText (rs : List Request) : '\r' ∉ (routesText rs).toList := by
  obtain ⟨before, hrender, -, hbefore⟩ := exists_toList_render_routes
  have hblock (r : Request) : '\r' ∉ r.block := by
    have hcall : '\r' ∉ r.beforeCall := fun h => (beforeCall_chars h).2.2 rfl
    simp [block, hcall, argument_chars.2.2]
  have hblocks : '\r' ∉ rs.flatMap block := by
    intro h
    obtain ⟨r, -, hr⟩ := List.mem_flatMap.1 h
    exact hblock r hr
  rw [toList_routesText, hrender]
  simp [hbefore, hblocks]

end Request

end CrudScaffold
