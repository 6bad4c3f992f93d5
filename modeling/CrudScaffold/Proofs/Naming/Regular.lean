import CrudScaffold.Artifact.Routes
import CrudScaffold.Proofs.Artifact.Importable
import CrudScaffold.Proofs.Artifact.Separate
import CrudScaffold.Proofs.Naming.NormalForm

/-!
# Regular names

A regular name consists of words that begin with a capital and go on with small letters or digits.  Its snake-case form
has the same words (`words_flatten`), so that snake case and pascal case are inverse to each other on regular names
(`pascal_snake_of_isRegular`, `snake_pascal_of_isRegularSnake`).  Two models with different regular names have
different files and modules but for the routes and for migrations of tables that are called alike
(`regularNames_inverse`): a plural can be that of two names, as that of `Box` and `Boxe` is.
-/

namespace CrudScaffold

namespace Naming

/-- A capital with one or more small letters or digits behind it. -/
def IsCapitalWord : List Char → Prop
  | [] => False
  | c :: rest => c.isUpper = true ∧ IsWord rest

/-- A small letter with one or more small letters or digits behind it. -/
def IsSmallWord : List Char → Prop
  | [] => False
  | c :: rest => c.isLower = true ∧ IsWord rest

/-- One or more words with capitals, with nothing between them. -/
def IsRegular (cs : List Char) : Prop :=
  ∃ parts, parts ≠ [] ∧ (∀ part ∈ parts, IsCapitalWord part) ∧ cs = parts.flatten

/-- One or more words without capitals, joined by single underscores. -/
def IsRegularSnake (cs : List Char) : Prop :=
  ∃ parts, parts ≠ [] ∧ (∀ part ∈ parts, IsSmallWord part) ∧ cs = joined ['_'] parts

instance (cs : List Char) : Decidable (IsWord cs) :=
  decidable_of_iff (cs ≠ [] ∧ (cs.all fun c => c.isLower || c.isDigit) = true)
    ⟨fun h => ⟨h.1, by simpa using h.2⟩, fun h => ⟨h.nonempty, by simpa using h.plain⟩⟩

instance : DecidablePred IsCapitalWord
  | [] => inferInstanceAs (Decidable False)
  | c :: rest => inferInstanceAs (Decidable (c.isUpper = true ∧ IsWord rest))

instance : DecidablePred IsSmallWord
  | [] => inferInstanceAs (Decidable False)
  | c :: rest => inferInstanceAs (Decidable (c.isLower = true ∧ IsWord rest))

/-! ### One word -/

private theorem map_toLower_of_isWord {word : List Char} (h : IsWord word) : word.map Char.toLower = word :=
  Text.map_toLower_eq_self_iff.2 fun c hc => ((isWord_iff.1 h).2 c hc).2

theorem IsSmallWord.isWord {word : List Char} (h : IsSmallWord word) : IsWord word := by
  cases word with
  | nil => exact h.elim
  | cons c rest => exact ⟨List.cons_ne_nil _ _, List.forall_mem_cons.2 ⟨Or.inl h.1, h.2.plain⟩⟩

theorem IsCapitalWord.map_toLower {word : List Char} (h : IsCapitalWord word) :
    IsSmallWord (word.map Char.toLower) ∧ capital (word.map Char.toLower) = word := by
  cases word with
  | nil => exact h.elim
  | cons c rest =>
    have hcapital : c.toUpper = c := Text.toUpper_eq_self_iff.2 (Text.isLower_of_isUpper h.1)
    rw [List.map_cons, map_toLower_of_isWord h.2, capital, Text.toUpper_toLower, hcapital]
    exact ⟨⟨Text.isLower_toLower h.1, h.2⟩, rfl⟩

theorem IsSmallWord.capital {word : List Char} (h : IsSmallWord word) :
    IsCapitalWord (Naming.capital word) ∧ (Naming.capital word).map Char.toLower = word := by
  cases word with
  | nil => exact h.elim
  | cons c rest =>
    have halpha : c.isAlpha = true := Bool.or_eq_true_iff.2 (Or.inr h.1)
    have hsmall : c.toLower = c := Text.toLower_of_not_isUpper (Text.isUpper_of_isLower h.1)
    rw [Naming.capital, List.map_cons, map_toLower_of_isWord h.2, Text.toLower_toUpper, hsmall]
    exact ⟨⟨Text.isUpper_toUpper halpha, h.2⟩, rfl⟩

/-! ### All words of a name -/

/-- Every capital in a regular name begins a word, and no other word is found. -/
theorem words_flatten {parts : List (List Char)} (h : ∀ part ∈ parts, IsCapitalWord part) :
    words parts.flatten = parts.map (·.map Char.toLower) := by
  induction parts with
  | nil => rfl
  | cons part parts ih =>
    rw [List.forall_mem_cons] at h
    cases part with
    | nil => exact h.1.elim
    | cons c word =>
      -- a word ends where the next one begins, which is with a capital
      have hrest : ∀ d, parts.flatten.head? = some d → d.isUpper = true := by
        rcases parts with _ | ⟨_ | ⟨e, next⟩, parts⟩
        · simp
        · exact (h.2 [] List.mem_cons_self).elim
        · rintro d ⟨⟩
          exact (h.2 (e :: next) List.mem_cons_self).1
      rw [List.flatten_cons, words_cons_append h.1.1 h.1.2.nonempty (isWord_iff.1 h.1.2).2 hrest, ih h.2, List.map_cons,
        List.map_cons, map_toLower_of_isWord h.1.2]

theorem IsRegularSnake.isSnake {cs : List Char} (h : IsRegularSnake cs) : IsSnake cs := by
  obtain ⟨parts, hne, hparts, hcs⟩ := h
  exact ⟨parts, hne, fun part hpart => (hparts part hpart).isWord, hcs⟩

theorem pascal_snake_of_isRegular {name : String} (h : IsRegular name.toList) :
    IsRegularSnake (snake name).toList ∧ pascal (snake name) = name := by
  obtain ⟨parts, hne, hparts, hname⟩ := h
  have hwords : words name.toList = parts.map (·.map Char.toLower) := hname ▸ words_flatten hparts
  constructor
  · refine ⟨parts.map (·.map Char.toLower), by simpa using hne, fun part hpart => ?_, ?_⟩
    · obtain ⟨word, hword, rfl⟩ := List.mem_map.1 hpart
      exact (hparts word hword).map_toLower.1
    · rw [snake, String.toList_ofList, snakeChars, hwords]
  · have hcapitals : (parts.map (·.map Char.toLower)).map capital = parts := by
      rw [List.map_map]
      exact (List.map_congr_left fun part hpart => (hparts part hpart).map_toLower.2).trans (List.map_id' _)
    rw [pascal_snake, ← String.toList_inj, pascal, String.toList_ofList, hwords, hcapitals, hname]

theorem snake_pascal_of_isRegularSnake {name : String} (h : IsRegularSnake name.toList) :
    IsRegular (pascal name).toList ∧ snake (pascal name) = name := by
  obtain ⟨parts, hne, hparts, hname⟩ := h
  have hwords : words name.toList = parts := hname ▸ words_joined_of_isWord fun part hpart => (hparts part hpart).isWord
  have hpascal : (pascal name).toList = (parts.map capital).flatten := by
    rw [pascal, String.toList_ofList, hwords]
  have hcapitals : ∀ part ∈ parts.map capital, IsCapitalWord part := by
    intro part hpart
    obtain ⟨word, hword, rfl⟩ := List.mem_map.1 hpart
    exact (hparts word hword).capital.1
  have hsmall : (parts.map capital).map (·.map Char.toLower) = parts := by
    rw [List.map_map]
    exact (List.map_congr_left fun part hpart => (hparts part hpart).capital.2).trans (List.map_id' _)
  refine ⟨⟨parts.map capital, by simpa using hne, hcapitals, hpascal⟩, ?_⟩
  rw [← String.toList_inj, snake, String.toList_ofList, snakeChars, hpascal, words_flatten hcapitals, hsmall, hname]

end Naming

/-! ### Models with regular names -/

open Naming (IsRegular IsRegularSnake)

section Two

variable {r r' : Request}

private theorem snake_ne_of_isRegular (h : IsRegular r.model.toList) (h' : IsRegular r'.model.toList)
    (hne : r.model ≠ r'.model) : r.snake ≠ r'.snake := by
  intro hsnake
  have hpascal : Naming.pascal r.snake = Naming.pascal r'.snake := congrArg Naming.pascal hsnake
  unfold Request.snake at hpascal
  rw [(Naming.pascal_snake_of_isRegular h).2, (Naming.pascal_snake_of_isRegular h').2] at hpascal
  exact hne hpascal

private theorem snake_ne_empty_of_isRegular (h : IsRegular r.model.toList) : r.snake ≠ "" := fun hempty =>
  (Naming.pascal_snake_of_isRegular h).1.isSnake.ne_nil (congrArg String.toList hempty)

namespace ArtifactKind

variable {k k' : ArtifactKind}

private theorem sameFile_iff (hsnake : r.snake ≠ "") (hsnake' : r'.snake ≠ "") (hne : r.snake ≠ r'.snake)
    (m m' : Moment) {t : FileTree} (hroot : t.resolve (Path.ofText r.root) = t.resolve (Path.ofText r'.root)) :
    t.resolve (k.outputPath m.stamp r) = t.resolve (k'.outputPath m'.stamp r') ↔
      k.IsShared k' m.stamp m'.stamp r r' := by
  rw [resolve_outputPath hsnake (isModuleName_stamp m), resolve_outputPath hsnake' (isModuleName_stamp m'), hroot,
    List.append_cancel_left_eq, names, names, Artifact.segments_inj (place_ne_nil _ _ _) (place_ne_nil _ _ _),
    place_eq_iff hne (isStamp_stamp m) (isStamp_stamp m')]

private theorem sameModule_iff (hsnake : r.snake ≠ "") (hsnake' : r'.snake ≠ "") (hne : r.snake ≠ r'.snake)
    (m m' : Moment) (hnamespace : r.namespaceModule = r'.namespaceModule) :
    r.modulePath (k.artifact m.stamp r).place = r'.modulePath (k'.artifact m'.stamp r').place ↔
      k.IsShared k' m.stamp m'.stamp r r' := by
  rw [← place_eq_iff hne (isStamp_stamp m) (isStamp_stamp m')]
  have hparts {r : Request} (hsnake : r.snake ≠ "") (k : ArtifactKind) (m : Moment) :
      ∀ part ∈ (k.artifact m.stamp r).place, part ≠ "" ∧ '.' ∉ part.toList := by
    intro part hpart
    have hmodule := isModuleName_of_place hsnake (isModuleName_stamp m) k part hpart
    exact ⟨hmodule.2, FileTree.point_not_mem hmodule⟩
  constructor
  · intro h
    -- no part has a point, so that the path is divided into the parts again
    have hsegments := congrArg Naming.segments h
    rw [Request.segments_modulePath (place_ne_nil _ _ _) (hparts hsnake k m),
      Request.segments_modulePath (place_ne_nil _ _ _) (hparts hsnake' k' m'), hnamespace,
      List.append_cancel_left_eq] at hsegments
    exact List.map_injective_iff.2 (fun _ _ => String.toList_inj.1) hsegments
  · intro h
    rw [h, Request.modulePath, Request.modulePath, hnamespace]

end ArtifactKind

end Two

/-- Snake case and pascal case are inverse to each other on regular names.  Models with different regular names have
different snake-case names and routers; at the same root and in the same namespace they have no files and no modules
in common but the routes, and migrations that are made for tables of one name at one time. -/
theorem regularNames_inverse :
    (∀ s : String, IsRegular s.toList →
      IsRegularSnake (Naming.snake s).toList ∧ Naming.pascal (Naming.snake s) = s) ∧
    (∀ s : String, IsRegularSnake s.toList →
      IsRegular (Naming.pascal s).toList ∧ Naming.snake (Naming.pascal s) = s) ∧
    ∀ r r' : Request, IsRegular r.model.toList → IsRegular r'.model.toList → r.model ≠ r'.model →
      r.snake ≠ r'.snake ∧ r.routerAlias ≠ r'.routerAlias ∧
      ∀ (k k' : ArtifactKind) (m m' : Moment),
        (∀ t : FileTree, t.resolve (Path.ofText r.root) = t.resolve (Path.ofText r'.root) →
          (t.resolve (k.outputPath m.stamp r) = t.resolve (k'.outputPath m'.stamp r') ↔
            k.IsShared k' m.stamp m'.stamp r r')) ∧
        (r.namespaceModule = r'.namespaceModule →
          (r.modulePath (k.artifact m.stamp r).place = r'.modulePath (k'.artifact m'.stamp r').place ↔
            k.IsShared k' m.stamp m'.stamp r r')) := by
  refine ⟨fun s => Naming.pascal_snake_of_isRegular, fun s => Naming.snake_pascal_of_isRegularSnake,
    fun r r' h h' hmodels => ?_⟩
  have hne := snake_ne_of_isRegular h h' hmodels
  have hsnake := snake_ne_empty_of_isRegular h
  have hsnake' := snake_ne_empty_of_isRegular h'
  refine ⟨hne, fun halias => hne ?_, fun k k' m m' => ⟨fun t hroot => ?_, fun hnamespace => ?_⟩⟩
  · exact (String.append_left_inj "_router").1 halias
  · exact ArtifactKind.sameFile_iff hsnake hsnake' hne m m' hroot
  · exact ArtifactKind.sameModule_iff hsnake hsnake' hne m m' hnamespace

/-- Models of which one name begins with the other have different files, such as the files of the models. -/
theorem regularNames_inverse_of_blogs :
    let r : Request := ⟨"Blog", .initial, ⟨[]⟩, "default", "out", "app"⟩
    let r' : Request := ⟨"BlogPost2", .initial, ⟨[]⟩, "default", "out", "app"⟩
    IsRegular r.model.toList ∧ IsRegular r'.model.toList ∧ IsRegularSnake "blog_post2".toList ∧
      Naming.snake r'.model = "blog_post2" ∧ Naming.pascal (Naming.snake r'.model) = r'.model ∧
      Naming.snake (Naming.pascal "blog_post2") = "blog_post2" ∧ r.routerAlias ≠ r'.routerAlias ∧
      ∀ (t : FileTree) (m : Moment),
        t.resolve (ArtifactKind.model.outputPath m.stamp r) ≠ t.resolve (ArtifactKind.model.outputPath m.stamp r') := by
  intro r r'
  have hblog : IsRegular r.model.toList := ⟨["Blog".toList], by decide +kernel⟩
  have hpost : IsRegular r'.model.toList := ⟨["Blog".toList, "Post2".toList], by decide +kernel⟩
  have hsnake : IsRegularSnake "blog_post2".toList := ⟨["blog".toList, "post2".toList], by decide +kernel⟩
  obtain ⟨hpascal, hback, hmodels⟩ := regularNames_inverse
  obtain ⟨-, halias, hplaces⟩ := hmodels r r' hblog hpost (by decide)
  refine ⟨hblog, hpost, hsnake, by decide +kernel, (hpascal _ hpost).2, (hback _ hsnake).2, halias, fun t m hplace => ?_⟩
  obtain ⟨-, hroutes | ⟨hmigration, -⟩⟩ := ((hplaces .model .model m m).1 t rfl).1 hplace
  · cases hroutes
  · cases hmigration

/-- These models have the routes in common, as all models do, and their tables are called alike, so that their
migrations are the same file and module at any one time. -/
theorem not_separateFiles_of_boxes :
    let r : Request := ⟨"Box", .initial, ⟨[]⟩, "default", "out", "app"⟩
    let r' : Request := ⟨"Boxe", .initial, ⟨[]⟩, "default", "out", "app"⟩
    modelName reservedWords "Box" = .ok r.model ∧ modelName reservedWords "Boxe" = .ok r'.model ∧
      IsRegular r.model.toList ∧ IsRegular r'.model.toList ∧ r.model ≠ r'.model ∧
      ∀ m : Moment, ArtifactKind.routes.outputPath m.stamp r = ArtifactKind.routes.outputPath m.stamp r' ∧
        ArtifactKind.migration.outputPath m.stamp r = ArtifactKind.migration.outputPath m.stamp r' ∧
        r.modulePath (ArtifactKind.migration.artifact m.stamp r).place =
          r'.modulePath (ArtifactKind.migration.artifact m.stamp r').place := by
  intro r r'
  have htable : r.table = r'.table := by decide +kernel
  have hplace (m : Moment) : (ArtifactKind.migration.artifact m.stamp r).place =
      (ArtifactKind.migration.artifact m.stamp r').place := by
    simp only [ArtifactKind.artifact, Artifact.migration, Request.migrationPlace, Request.revision, htable]
  refine ⟨by decide +kernel, by decide +kernel, ⟨["Box".toList], by decide +kernel⟩,
    ⟨["Boxe".toList], by decide +kernel⟩, by decide, fun m => ⟨rfl, ?_, ?_⟩⟩
  · rw [ArtifactKind.outputPath, ArtifactKind.outputPath, hplace]
    rfl
  · rw [hplace]
    rfl

end CrudScaffold
