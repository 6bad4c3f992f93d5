import CrudScaffold.Proofs.Artifact.Routes

/-!
# What a registration adds

The text of the routes file after a registration is the text before it with something added at its end, or the same
text (`registered?_eq`).  What is added ends with the two lines of the registration, each of them whole
(`mem_lines_of_added`), and after it nothing more is to be registered (`registered?_append_added`).
-/

namespace CrudScaffold

namespace Text

/-- A text without line ends. -/
structure IsLine (s : String) : Prop where
  feed : '\n' ∉ s.toList
  carriage : '\r' ∉ s.toList

theorem IsLine.append {a b : String} (ha : IsLine a) (hb : IsLine b) : IsLine (a ++ b) := by
  constructor
  · rw [String.toList_append, List.mem_append, not_or]
    exact ⟨ha.feed, hb.feed⟩
  · rw [String.toList_append, List.mem_append, not_or]
    exact ⟨ha.carriage, hb.carriage⟩

theorem isLine_of_all {s : String} (h : s.toList.all (fun c => c != '\n' && c != '\r') = true) : IsLine s := by
  have hchars (c : Char) (hc : c ∈ s.toList) : c ≠ '\n' ∧ c ≠ '\r' := by
    simpa using List.all_eq_true.1 h c hc
  exact ⟨fun hc => (hchars _ hc).1 rfl, fun hc => (hchars _ hc).2 rfl⟩

/-- Names and dots have no line ends. -/
theorem isLine_of_forall {s : String} (h : ∀ c ∈ s.toList, isIdentChar c = true ∨ c = '.') : IsLine s := by
  constructor
  · exact fun hc => absurd (h _ hc) (by decide)
  · exact fun hc => absurd (h _ hc) (by decide)

/-- The lines of a text. -/
def lines (s : String) : List String := (splitOn '\n' s.toList).map String.ofList

/-- A line between two line feeds, or between the last one and the end. -/
theorem mem_lines_of_break {before line after : String} (h : '\n' ∉ line.toList) :
    line ∈ lines (before ++ "\n" ++ line ++ "\n" ++ after) := by
  have htext : (before ++ "\n" ++ line ++ "\n" ++ after).toList =
      before.toList ++ '\n' :: (line.toList ++ '\n' :: after.toList) := by
    simp
  rw [lines, htext, splitOn_append_cons, splitOn_append_cons, splitOn_of_not_mem h]
  simp

end Text

namespace Request

/-- What is added to the text of the routes file. -/
def added (r : Request) (before : String) : String :=
  if Text.occursIn r.includeLine before then ""
  else
    let skeleton := if before = "" then Artifact.routes.source.render else ""
    skeleton ++ (if Text.endsWith "\n" (before ++ skeleton) then "" else "\n") ++ "\n" ++
      "\n".intercalate r.registration ++ "\n"

variable {r : Request} {before : String}

theorem added_of_occursIn (h : Text.occursIn r.includeLine before = true) : r.added before = "" := if_pos h

theorem registered?_eq (r : Request) (before : String) :
    r.registered? before = if Text.occursIn r.includeLine before then none else some (before ++ r.added before) := by
  unfold registered? added
  by_cases hoccurs : Text.occursIn r.includeLine before = true
  · rw [if_pos hoccurs, if_pos hoccurs]
  · rw [if_neg hoccurs, if_neg hoccurs, if_neg hoccurs]
    by_cases hempty : before = ""
    · simp only [hempty, if_true, String.empty_append]
      split <;> simp only [String.append_assoc, String.append_empty]
    · simp only [hempty, if_false, String.append_empty]
      split <;> simp only [String.append_assoc, String.empty_append]

/-! ### The two lines -/

/-- The line that imports the controller's router. -/
def importLine (r : Request) : String :=
  "from " ++ r.modulePath r.controllerPlace ++ " import router as " ++ r.routerAlias ++ "  # noqa: E402"

theorem registration_eq_lines (r : Request) : r.registration = [r.importLine, r.includeLine] := by
  have hlines := registration_eq r
  rw [routesLines, List.cons.injEq] at hlines
  rw [hlines.2, importLine, includeLine_eq, routerAlias]
  simp only [String.append_assoc, String.reduceAppend]

private theorem isLine_snake (r : Request) {after : String} (hafter : Text.IsLine after) :
    Text.IsLine (r.snake ++ after) :=
  (Text.isLine_of_forall fun c hc => Or.inl (Naming.isPlain_snake r.model c hc)).append hafter

theorem isLine_includeLine (r : Request) : Text.IsLine r.includeLine :=
  ((Text.isLine_of_all (by decide)).append (r.isLine_snake (Text.isLine_of_all (by decide)))).append
    (Text.isLine_of_all (by decide))

theorem isLine_importLine (r : Request) : Text.IsLine r.importLine := by
  have hplace : ∀ part ∈ r.controllerPlace, Naming.IsPlain part.toList := by
    intro part hpart
    simp only [controllerPlace, List.mem_cons, List.not_mem_nil, or_false] at hpart
    rcases hpart with rfl | rfl
    · exact Naming.isPlain_of_all (by decide)
    · rw [String.toList_append]
      exact (Naming.isPlain_snake r.model).append (Naming.isPlain_of_all (by decide))
  have hmodule : Text.IsLine (r.modulePath r.controllerPlace) :=
    Text.isLine_of_forall fun c hc => (modulePath_chars hplace hc).symm
  have halias : Text.IsLine r.routerAlias := r.isLine_snake (Text.isLine_of_all (by decide))
  exact ((((Text.isLine_of_all (by decide)).append hmodule).append (Text.isLine_of_all (by decide))).append
    halias).append (Text.isLine_of_all (by decide))

/-! ### What is there afterwards -/

/-- What is added ends with the two lines. -/
private theorem exists_added_eq (h : Text.occursIn r.includeLine before = false) : ∃ front,
    '\r' ∉ front.toList ∧ r.added before = front ++ "\n" ++ r.importLine ++ "\n" ++ r.includeLine ++ "\n" := by
  have hrender : '\r' ∉ Artifact.routes.source.render.toList := by
    have hempty : routesText [] = Artifact.routes.source.render := by simp [routesText]
    exact hempty ▸ not_mem_routesText []
  let skeleton := if before = "" then Artifact.routes.source.render else ""
  refine ⟨skeleton ++ (if Text.endsWith "\n" (before ++ skeleton) then "" else "\n"), ?_, ?_⟩
  · have hskeleton : '\r' ∉ skeleton.toList := by
      unfold skeleton
      split
      · exact hrender
      · simp
    rw [String.toList_append, List.mem_append, not_or]
    refine ⟨hskeleton, ?_⟩
    split <;> simp
  · have hlines : "\n".intercalate [r.importLine, r.includeLine] = r.importLine ++ "\n" ++ r.includeLine := by
      simp
    unfold added
    rw [h, if_neg Bool.false_ne_true, registration_eq_lines, hlines]
    simp only [skeleton, String.append_assoc]

/-- No carriage return is added. -/
theorem not_mem_added : '\r' ∉ (r.added before).toList := by
  cases h : Text.occursIn r.includeLine before with
  | true => simp [added_of_occursIn h]
  | false =>
    obtain ⟨front, hfront, heq⟩ := exists_added_eq h
    simp [heq, hfront, r.isLine_includeLine.carriage, r.isLine_importLine.carriage]

/-- Both lines of the registration are added as whole lines. -/
theorem mem_lines_of_added (h : Text.occursIn r.includeLine before = false) :
    r.importLine ∈ Text.lines (before ++ r.added before) ∧ r.includeLine ∈ Text.lines (before ++ r.added before) := by
  obtain ⟨front, -, heq⟩ := exists_added_eq h
  rw [heq]
  constructor
  · have hline := @Text.mem_lines_of_break (before ++ front) r.importLine (r.includeLine ++ "\n")
      r.isLine_importLine.feed
    simpa only [String.append_assoc] using hline
  · have hline := @Text.mem_lines_of_break (before ++ front ++ "\n" ++ r.importLine) r.includeLine ""
      r.isLine_includeLine.feed
    simpa only [String.append_assoc, String.append_empty] using hline

/-- A text that has been added to is not added to once more. -/
theorem registered?_append_added : r.registered? (before ++ r.added before) = none := by
  rw [registered?_eq, if_pos]
  cases h : Text.occursIn r.includeLine before with
  | true => rwa [added_of_occursIn h, String.append_empty]
  | false =>
    obtain ⟨front, -, heq⟩ := exists_added_eq h
    rw [heq, Text.occursIn_iff]
    refine ⟨(before ++ (front ++ "\n" ++ r.importLine ++ "\n")).toList, "\n".toList, ?_⟩
    simp only [String.toList_append, List.append_assoc]

end Request

end CrudScaffold
