import CrudScaffold.Proofs.Artifact.Registration
import CrudScaffold.Proofs.Run.Success

/-!
# What a registration makes of any file

The routes file belongs to the application, so that a registration may find any text there.  It leaves a text with the
controller's line alone, and else it writes the text as it was read with the block at its end (`register_leaves`).  For
a text with carriage returns that is more than an addition (`register_appends_iff`), and the controller's line in a
text may be a part of another line, or stand for a controller of another namespace (`register_isRegistered_iff`).
-/

namespace CrudScaffold

open ArtifactKind (register routes)

variable {r : Request} {before : String} {w w' : Workspace} {files : List ProducedFile}

/-- The text of the routes file after a registration, given its text before. -/
def Request.leaves (r : Request) (before : String) : String :=
  if Text.occursIn r.includeLine before then before else Text.translated before ++ r.added (Text.translated before)

/-- What a registration that succeeds leaves in the file, and the size that it reports: that of the text as it was
read, with what is added. -/
theorem register_leaves (hbefore : w.tree.HasText (routes.outputPath "" r) before)
    (h : outcome (register r) w = (.ok files, w')) :
    w'.tree.lookup (routes.outputPath "" r) = .ok (.file (r.leaves before).toUTF8) ∧
      files = [⟨.routes, (routes.outputPath "" r).text,
        (Text.translated before ++ r.added (Text.translated before)).utf8ByteSize⟩] := by
  obtain ⟨-, found, hfound, hcases⟩ := ArtifactKind.register_cases h
  obtain rfl := hfound.unique hbefore
  have hoccurs := @Text.occursIn_translated found _ r.isLine_includeLine.carriage r.isLine_includeLine.feed
  rw [Request.registered?_eq] at hcases
  unfold Request.leaves
  rw [← hoccurs]
  by_cases hthere : Text.occursIn r.includeLine (Text.translated found) = true
  · rw [if_pos hthere] at hcases ⊢
    obtain ⟨-, htree, rfl⟩ | ⟨content, hcontent, -⟩ := hcases
    · constructor
      · cases hfound with
        | missing =>
          -- there is no line in an empty text
          have hempty := Request.registered?_empty r
          rw [Request.registered?_eq, if_pos (hoccurs.symm.trans hthere)] at hempty
          cases hempty
        | there hlookup => rwa [htree]
      · rw [Request.added_of_occursIn hthere, String.append_empty]
    · cases hcontent
  · rw [if_neg hthere] at hcases ⊢
    obtain ⟨hnone, -⟩ | ⟨content, hcontent, hwrites, rfl⟩ := hcases
    · cases hnone
    · obtain rfl := Option.some.inj hcontent
      exact ⟨hwrites.holds, rfl⟩

/-! ### Additions -/

/-- What a registration leaves is the text before with an addition, if that had no carriage return or the line. -/
private theorem leaves_eq_append_iff :
    r.leaves before = before ++ r.added before ↔
      '\r' ∉ before.toList ∨ Text.occursIn r.includeLine before = true := by
  unfold Request.leaves
  by_cases hthere : Text.occursIn r.includeLine before = true
  · rw [if_pos hthere, Request.added_of_occursIn hthere, String.append_empty]
    simp [hthere]
  · rw [if_neg hthere]
    constructor
    · intro h
      have hfront : before.toList <+: Text.withLineFeeds before.toList ++
          (r.added (Text.translated before)).toList := by
        have hlist := congrArg String.toList h
        rw [Text.translated, String.toList_append, String.toList_ofList, String.toList_append] at hlist
        rw [Text.translated, hlist]
        exact List.prefix_append _ _
      exact Or.inl (Text.not_mem_of_prefix_withLineFeeds hfront)
    · intro h
      rw [Text.translated_of_not_mem (h.resolve_right hthere)]

/-- A registration only adds to the file, and reports its size, exactly if there was no carriage return in it, or if
it had the controller's line and no line that ends with both a carriage return and a line feed. In any other file the
line ends are replaced, or the size of the text with line feeds is reported instead of the file's own. -/
theorem register_appends_iff (hbefore : w.tree.HasText (routes.outputPath "" r) before)
    (h : outcome (register r) w = (.ok files, w')) :
    ∃ (after : ByteArray) (size : Int), w'.tree.lookup (routes.outputPath "" r) = .ok (.file after) ∧
      files = [⟨.routes, (routes.outputPath "" r).text, size⟩] ∧
      ((after = before.toUTF8 ++ (r.added before).toUTF8 ∧ size = after.size) ↔
        '\r' ∉ before.toList ∨
          (Text.occursIn r.includeLine before = true ∧ Text.occursIn Text.doubleBreak before = false)) := by
  obtain ⟨hafter, hfiles⟩ := register_leaves hbefore h
  refine ⟨_, _, hafter, hfiles, ?_⟩
  have hbytes : (r.leaves before).toUTF8 = before.toUTF8 ++ (r.added before).toUTF8 ↔
      r.leaves before = before ++ r.added before := by
    have happend : (before ++ r.added before).toUTF8 = before.toUTF8 ++ (r.added before).toUTF8 :=
      String.toByteArray_append
    rw [← happend]
    exact ⟨toUTF8_injective, congrArg String.toUTF8⟩
  have hsize : (((Text.translated before ++ r.added (Text.translated before)).utf8ByteSize : Int) =
      (r.leaves before).toUTF8.size) ↔
        (Text.translated before ++ r.added (Text.translated before)).utf8ByteSize = (r.leaves before).utf8ByteSize :=
    Int.natCast_inj
  rw [hbytes, hsize, leaves_eq_append_iff]
  have hreturn : '\r' ∉ before.toList → Text.occursIn Text.doubleBreak before = false := by
    intro hnone
    rw [Bool.eq_false_iff, Ne, Text.occursIn_iff]
    exact fun hdouble => hnone (hdouble.subset (by decide))
  have hoccurs := @Text.occursIn_translated before _ r.isLine_includeLine.carriage r.isLine_includeLine.feed
  by_cases hthere : Text.occursIn r.includeLine before = true
  · -- nothing is added, so that the sizes are those of the texts
    have hadded := Request.added_of_occursIn (hoccurs.trans hthere)
    rw [hadded, String.append_empty, Request.leaves, if_pos hthere, Text.size_translated_eq_iff]
    simpa [hthere] using hreturn
  · rw [Request.leaves, if_neg hthere]
    simp [hthere]

/-- A file in which another controller is registered grows by the block, and its size is reported. -/
theorem register_appends_iff_of_tag :
    let r : Request := ⟨"Post", ⟨fun _ => true⟩, ⟨[]⟩, "api", "out", "app"⟩
    let before := "api_router = APIRouter()\n\napi_router.include_router(tag_router)\n"
    let w : Workspace := ⟨⟨["home"], [(["home", "out"], .directory), (["home", "out", "routes"], .directory),
      (["home", "out", "routes", "api.py"], .file before.toUTF8)]⟩, ⟨⟨⟨2024, 1, 2⟩, 3, 4, 5, 6⟩, []⟩, ⟨0, []⟩, []⟩
    ∃ (files : List ProducedFile) (w' : Workspace) (after : ByteArray), w.tree.HasText (routes.outputPath "" r) before ∧
      outcome (register r) w = (.ok files, w') ∧ w'.tree.lookup (routes.outputPath "" r) = .ok (.file after) ∧
      after = before.toUTF8 ++ (r.added before).toUTF8 ∧
      files = [⟨.routes, (routes.outputPath "" r).text, after.size⟩] := by
  intro r before w
  have hbefore : w.tree.HasText (routes.outputPath "" r) before := .there (by decide +kernel)
  have hok : (outcome (register r) w).1.isOk = true := by decide +kernel
  obtain ⟨files, w', hrun⟩ := exists_outcome_of_isOk hok
  obtain ⟨after, size, hafter, hfiles, happends⟩ := register_appends_iff hbefore hrun
  obtain ⟨hbytes, hsize⟩ := happends.2 (Or.inl (by decide))
  exact ⟨files, w', after, hbefore, hrun, hafter, hbytes, hsize ▸ hfiles⟩

/-- A file with line ends of two characters, which does not begin with its old bytes after a registration. -/
theorem not_appends_of_doubleBreak :
    let r : Request := ⟨"Post", ⟨fun _ => true⟩, ⟨[]⟩, "api", "out", "app"⟩
    let before := "api_router = None\r\n"
    let w : Workspace := ⟨⟨["home"], [(["home", "out"], .directory), (["home", "out", "routes"], .directory),
      (["home", "out", "routes", "api.py"], .file before.toUTF8)]⟩, ⟨⟨⟨2024, 1, 2⟩, 3, 4, 5, 6⟩, []⟩, ⟨0, []⟩, []⟩
    ∃ files w' after, w.tree.lookup (routes.outputPath "" r) = .ok (.file before.toUTF8) ∧
      outcome (register r) w = (.ok files, w') ∧ w'.tree.lookup (routes.outputPath "" r) = .ok (.file after) ∧
      ¬ before.toUTF8.data.toList <+: after.data.toList := by
  intro r before w
  have hbefore : w.tree.lookup (routes.outputPath "" r) = .ok (.file before.toUTF8) := by decide +kernel
  have hok : (outcome (register r) w).1.isOk = true := by decide +kernel
  obtain ⟨files, w', hrun⟩ := exists_outcome_of_isOk hok
  refine ⟨files, w', _, hbefore, hrun, (register_leaves (.there hbefore) hrun).1, ?_⟩
  decide +kernel

/-! ### The two lines -/

/-- The controller of a request is registered in a text: its router is imported from its own module, in a line of its
own that may end with a comment, and included, in a line of its own. -/
structure Request.IsRegistered (r : Request) (text : String) : Prop where
  imports : ∃ comment : String, (comment.toList.dropWhile (· = ' ')).head?.all (· = '#') = true ∧
    "from " ++ r.modulePath r.controllerPlace ++ " import router as " ++ r.routerAlias ++ comment ∈
      Text.lines (Text.translated text)
  includes : r.includeLine ∈ Text.lines (Text.translated text)

/-- The controller is registered after a registration if the line that includes its router was nowhere in the file. If
it was, whatever it was a part of, the file is left as it was. -/
theorem register_isRegistered_iff (hbefore : w.tree.HasText (routes.outputPath "" r) before)
    (h : outcome (register r) w = (.ok files, w')) :
    ∃ after : String, w'.tree.lookup (routes.outputPath "" r) = .ok (.file after.toUTF8) ∧
      (r.IsRegistered after ↔ (Text.occursIn r.includeLine before = true → r.IsRegistered before)) := by
  refine ⟨r.leaves before, (register_leaves hbefore h).1, ?_⟩
  unfold Request.leaves
  by_cases hthere : Text.occursIn r.includeLine before = true
  · rw [if_pos hthere]
    exact (imp_iff_right hthere).symm
  · have hnew : Text.occursIn r.includeLine (Text.translated before) = false := by
      rw [Text.occursIn_translated r.isLine_includeLine.carriage r.isLine_includeLine.feed]
      simpa using hthere
    have hreturn : '\r' ∉ (Text.translated before ++ r.added (Text.translated before)).toList := by
      rw [String.toList_append, List.mem_append, not_or]
      exact ⟨Text.not_mem_translated before, Request.not_mem_added⟩
    obtain ⟨himport, hinclude⟩ := Request.mem_lines_of_added hnew
    rw [if_neg hthere]
    refine iff_of_true ?_ fun hoccurs => absurd hoccurs hthere
    constructor
    · rw [Text.translated_of_not_mem hreturn]
      exact ⟨"  # noqa: E402", by decide, himport⟩
    · rwa [Text.translated_of_not_mem hreturn]

/-- Where another controller is registered, this one is registered too. -/
theorem register_isRegistered_iff_of_tag :
    let r : Request := ⟨"Post", ⟨fun _ => true⟩, ⟨[]⟩, "api", "out", "app"⟩
    let before := "api_router = APIRouter()\n\napi_router.include_router(tag_router)\n"
    let w : Workspace := ⟨⟨["home"], [(["home", "out"], .directory), (["home", "out", "routes"], .directory),
      (["home", "out", "routes", "api.py"], .file before.toUTF8)]⟩, ⟨⟨⟨2024, 1, 2⟩, 3, 4, 5, 6⟩, []⟩, ⟨0, []⟩, []⟩
    ∃ files w' after, w.tree.HasText (routes.outputPath "" r) before ∧ outcome (register r) w = (.ok files, w') ∧
      w'.tree.lookup (routes.outputPath "" r) = .ok (.file after.toUTF8) ∧ r.IsRegistered after := by
  intro r before w
  have hbefore : w.tree.HasText (routes.outputPath "" r) before := .there (by decide +kernel)
  have hok : (outcome (register r) w).1.isOk = true := by decide +kernel
  obtain ⟨files, w', hrun⟩ := exists_outcome_of_isOk hok
  obtain ⟨after, hafter, hregistered⟩ := register_isRegistered_iff hbefore hrun
  refine ⟨files, w', after, hbefore, hrun, hafter, hregistered.2 fun hoccurs => ?_⟩
  exact absurd hoccurs (by decide +kernel)

/-- A controller that is taken to be registered because another router, whose name ends with that of the application's
router, includes it. -/
theorem not_isRegistered_of_otherRouter :
    let r : Request := ⟨"Post", ⟨fun _ => true⟩, ⟨[]⟩, "api", "out", "app"⟩
    let before := "api_router = APIRouter()\nadmin_api_router = APIRouter()\n" ++
      "admin_api_router.include_router(post_router)\n"
    let w : Workspace := ⟨⟨["home"], [(["home", "out"], .directory), (["home", "out", "routes"], .directory),
      (["home", "out", "routes", "api.py"], .file before.toUTF8)]⟩, ⟨⟨⟨2024, 1, 2⟩, 3, 4, 5, 6⟩, []⟩, ⟨0, []⟩, []⟩
    ∃ files w' after, w.tree.lookup (routes.outputPath "" r) = .ok (.file before.toUTF8) ∧
      outcome (register r) w = (.ok files, w') ∧
      w'.tree.lookup (routes.outputPath "" r) = .ok (.file after.toUTF8) ∧ ¬ r.IsRegistered after := by
  intro r before w
  have hbefore : w.tree.lookup (routes.outputPath "" r) = .ok (.file before.toUTF8) := by decide +kernel
  have hoccurs : Text.occursIn r.includeLine before = true := by decide +kernel
  have hnone : r.registered? (Text.translated before) = none := by
    rw [Request.registered?_eq, Text.occursIn_translated r.isLine_includeLine.carriage r.isLine_includeLine.feed]
    exact if_pos hoccurs
  obtain ⟨files, w', hrun⟩ := ArtifactKind.register_succeeds_iff.2 ⟨before, .there hbefore, Or.inl hnone⟩
  have hafter := (register_leaves (.there hbefore) hrun).1
  rw [Request.leaves, if_pos hoccurs] at hafter
  refine ⟨files, w', before, hbefore, hrun, hafter, fun h => ?_⟩
  exact absurd h.includes (by decide +kernel)

end CrudScaffold
