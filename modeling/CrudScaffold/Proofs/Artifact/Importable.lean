import CrudScaffold.Proofs.Artifact.Needs
import CrudScaffold.Proofs.CheckedNames
import CrudScaffold.Proofs.Naming.Segments

/-!
# Modules that can be imported

An import can name a module when every segment of its dotted path is an identifier and no reserved word.  The path has
the segments of the namespace in front, then fixed words and names made from the model's name
(`ArtifactKind.isModulePart_of_needed`); among these only the model's name in snake case, on its own, can be a reserved
word.  So all imports of a run can be read exactly if the namespace and that name allow it (`imports_importable_iff`).
The check of the model's name sees the name as it is given, and not its snake-case form, which leaves out what is no
letter or digit.
-/

namespace CrudScaffold

open Naming (IsPlain segments snakeChars)

/-! ### Paths -/

/-- An identifier that is no reserved word. -/
def isImportable (segment : List Char) : Bool :=
  isIdentChars segment && !reservedWords.contains (String.ofList segment)

/-- A dotted path that an import can name. -/
def IsImportPath (dotted : String) : Prop :=
  ∀ segment ∈ segments dotted, isImportable segment = true

instance (dotted : String) : Decidable (IsImportPath dotted) :=
  inferInstanceAs (Decidable (∀ segment ∈ segments dotted, isImportable segment = true))

theorem isImportable_iff {segment : List Char} :
    isImportable segment = true ↔ isIdentChars segment = true ∧ String.ofList segment ∉ reservedWords := by
  simp [isImportable]

/-- There is no underscore in a reserved word. -/
theorem isImportable_of_underscore {segment : List Char} (h : isIdentChars segment = true) (hmem : '_' ∈ segment) :
    isImportable segment = true := by
  have hwords : ∀ word ∈ reservedWords, '_' ∉ word.toList := by decide +kernel
  refine isImportable_iff.2 ⟨h, fun hreserved => hwords _ hreserved ?_⟩
  rwa [String.toList_ofList]

namespace Request

variable {r : Request}

theorem segments_modulePath {parts : List String} (hne : parts ≠ [])
    (h : ∀ part ∈ parts, part ≠ "" ∧ '.' ∉ part.toList) :
    segments (r.modulePath parts) = segments r.namespaceModule ++ parts.map String.toList := by
  have hnonempty : ∀ part ∈ parts, part ≠ "" := fun part hpart => (h part hpart).1
  have hsplit : Text.splitOn '.' (".".intercalate parts).toList = parts.map String.toList := by
    rw [String.toList_intercalate]
    refine Text.splitOn_intercalate (by simpa using hne) fun part hpart hpoint => ?_
    obtain ⟨p, hp, rfl⟩ := List.mem_map.1 hpart
    exact (h p hp).2 hpoint
  have hpath : ".".intercalate parts ≠ "" := by
    intro hnil
    rw [hnil] at hsplit
    have hnothing : [] ∈ parts.map String.toList := hsplit ▸ List.mem_singleton_self []
    obtain ⟨part, hpart, hempty⟩ := List.mem_map.1 hnothing
    exact hnonempty part hpart (by simpa using hempty)
  obtain ⟨first, rest, rfl⟩ := List.exists_cons_of_ne_nil hne
  have hrest : rest.filter (· ≠ "") = rest :=
    List.filter_eq_self.2 fun part hpart => by simpa using hnonempty part (List.mem_cons_of_mem _ hpart)
  rw [modulePath_cons (hnonempty first List.mem_cons_self), hrest, lead]
  split
  · rename_i hempty
    rw [String.empty_append, segments, if_neg hpath, hsplit, hempty]
    rfl
  · rename_i hnamespace
    rw [Naming.segments_append hnamespace, hsplit]

theorem isImportPath_modulePath_iff {parts : List String} (hne : parts ≠ [])
    (h : ∀ part ∈ parts, isIdentChars part.toList = true) :
    IsImportPath (r.modulePath parts) ↔
      IsImportPath r.namespaceModule ∧ ∀ part ∈ parts, isImportable part.toList = true := by
  have hparts : ∀ part ∈ parts, part ≠ "" ∧ '.' ∉ part.toList := fun part hpart =>
    ⟨fun hempty => ne_nil_of_isIdentChars (h part hpart) (by simp [hempty]),
      fun hpoint => absurd (forall_isIdentChar (h part hpart) _ hpoint) (by decide)⟩
  simp [IsImportPath, segments_modulePath hne hparts, or_imp, forall_and]

end Request

/-- The first letter or digit of every piece of a namespace is a letter, and no piece is a reserved word in snake case.
Pieces without letters and digits are left out of the path. -/
def HasModuleNames (application : String) : Prop :=
  ∀ piece ∈ Naming.splitAt Naming.isPathSeparator application.toList, ∀ c ∈ piece.find? Char.isAlphanum,
    c.isAlpha = true ∧ String.ofList (snakeChars piece) ∉ reservedWords

instance (application : String) : Decidable (HasModuleNames application) :=
  decidable_of_iff ((Naming.splitAt Naming.isPathSeparator application.toList).all fun piece =>
    (piece.find? Char.isAlphanum).all fun c => c.isAlpha && decide (String.ofList (snakeChars piece) ∉ reservedWords))
    (by simp [HasModuleNames, List.all_eq_true, Option.all_eq_true])

theorem isImportPath_modulePath_iff {path : String} :
    IsImportPath (Naming.modulePath path) ↔ HasModuleNames path := by
  simp only [IsImportPath, Naming.segments_modulePath, List.mem_filter, List.mem_map, isImportable_iff, HasModuleNames]
  constructor
  · intro h piece hpiece c hc
    have hne : snakeChars piece ≠ [] := fun hnil => by simp [Naming.snakeChars_eq_nil_iff.1 hnil] at hc
    obtain ⟨hident, hfree⟩ := h _ ⟨⟨piece, hpiece, rfl⟩, by simpa using hne⟩
    rw [Naming.isIdentChars_snakeChars, hc, Option.any_some] at hident
    exact ⟨hident, hfree⟩
  · rintro h _ ⟨⟨piece, hpiece, rfl⟩, hne⟩
    cases hc : piece.find? Char.isAlphanum with
    | none => simp [Naming.snakeChars_eq_nil_iff.2 hc] at hne
    | some c =>
      rw [Naming.isIdentChars_snakeChars, hc, Option.any_some]
      exact h piece hpiece c hc

/-! ### Files -/

/-- An identifier that can be imported, unless it is the model's name on its own. -/
def Request.IsModulePart (r : Request) (part : String) : Prop :=
  isIdentChars part.toList = true ∧ (part = r.snake ∨ isImportable part.toList = true)

section Parts

variable {r : Request} (hident : isIdentChars r.snake.toList = true)

private theorem isModulePart_of_isImportable {part : String} (h : isImportable part.toList = true) :
    r.IsModulePart part :=
  ⟨(isImportable_iff.1 h).1, Or.inr h⟩

include hident

private theorem isModulePart_snake : r.IsModulePart r.snake := ⟨hident, Or.inl rfl⟩

private theorem isModulePart_after {tail : String}
    (h : (tail.toList.all Text.isIdentChar && tail.toList.contains '_') = true) : r.IsModulePart (r.snake ++ tail) := by
  rw [Bool.and_eq_true, List.contains_iff_mem] at h
  refine isModulePart_of_isImportable ?_
  rw [String.toList_append]
  refine isImportable_of_underscore ?_ (List.mem_append_right _ h.2)
  exact (isIdentChars_append_iff (ne_nil_of_isIdentChars hident)).2 ⟨hident, List.all_eq_true.1 h.1⟩

private theorem isModulePart_body (action : BodyAction) :
    r.IsModulePart (action.word ++ "_" ++ r.snake ++ "_request") := by
  have hfront : isIdentChars (action.word ++ "_").toList = true := by cases action <;> decide
  have hplain : ∀ c ∈ (r.snake ++ "_request").toList, Text.isIdentChar c = true := by
    rw [String.toList_append]
    exact IsPlain.append (forall_isIdentChar hident) (Naming.isPlain_of_all (by decide))
  refine isModulePart_of_isImportable ?_
  rw [String.append_assoc, @String.toList_append (action.word ++ "_")]
  refine isImportable_of_underscore ?_ (List.mem_append_left _ (by simp))
  exact (isIdentChars_append_iff (ne_nil_of_isIdentChars hfront)).2 ⟨hfront, hplain⟩

/-- The segments of the modules that files import. -/
theorem ArtifactKind.isModulePart_of_needed {k k' : ArtifactKind} (hk : k' ∈ k.needs r) :
    ∀ part ∈ (k'.artifact "" r).place, r.IsModulePart part := by
  have hdirectory {part : String} (h : isImportable part.toList = true) : r.IsModulePart part :=
    isModulePart_of_isImportable h
  have hpair {part other : String} (h : r.IsModulePart part) (h' : r.IsModulePart other) :
      ∀ p ∈ [part, other], r.IsModulePart p :=
    List.forall_mem_cons.2 ⟨h, List.forall_mem_singleton.2 h'⟩
  cases k' with
  | model => exact hpair (hdirectory (by decide)) (isModulePart_snake hident)
  | controller | factory | filter => exact hpair (hdirectory (by decide)) (isModulePart_after hident (by decide))
  | resource =>
    exact List.forall_mem_cons.2
      ⟨hdirectory (by decide), hpair (isModulePart_snake hident) (isModulePart_after hident (by decide))⟩
  | createRequest =>
    exact List.forall_mem_cons.2
      ⟨hdirectory (by decide), hpair (isModulePart_snake hident) (isModulePart_body hident .create)⟩
  | updateRequest =>
    exact List.forall_mem_cons.2
      ⟨hdirectory (by decide), hpair (isModulePart_snake hident) (isModulePart_body hident .update)⟩
  | seeder | test | migration | routes => cases k <;> simp [needs] at hk

/-- A module that files import has a path that can be named if that of the namespace has, and the model's name, where
it stands on its own, is no reserved word. -/
theorem ArtifactKind.isImportPath_of_needed {k k' : ArtifactKind} (hk : k' ∈ k.needs r)
    (hnamespace : IsImportPath r.namespaceModule) (hfree : r.snake ∉ reservedWords) :
    IsImportPath (r.modulePath (k'.artifact "" r).place) := by
  have hparts := isModulePart_of_needed hident hk
  have hne : (k'.artifact "" r).place ≠ [] := by cases k' <;> exact List.cons_ne_nil _ _
  refine (Request.isImportPath_modulePath_iff hne fun p hp => (hparts p hp).1).2 ⟨hnamespace, fun p hp => ?_⟩
  rcases (hparts p hp).2 with rfl | hp
  · exact isImportable_iff.2 ⟨hident, by rwa [String.ofList_toList]⟩
  · exact hp

/-- The module of the model has its name on its own. -/
theorem snake_not_mem_of_isImportPath (h : IsImportPath (r.modulePath r.modelPlace)) : r.snake ∉ reservedWords := by
  have hparts : ∀ part ∈ r.modelPlace, isIdentChars part.toList = true :=
    List.forall_mem_cons.2 ⟨by decide, List.forall_mem_singleton.2 hident⟩
  have hsegments := ((Request.isImportPath_modulePath_iff (List.cons_ne_nil _ _) hparts).1 h).2
  have hname := hsegments r.snake (List.mem_cons_of_mem _ List.mem_cons_self)
  rw [isImportable_iff, String.ofList_toList] at hname
  exact hname.2

end Parts

/-- The factory imports the model. -/
private theorem modelImport_mem (r : Request) : r.modelImport ∈ ArtifactKind.factory.imports "" r := by
  simp [ArtifactKind.imports, ArtifactKind.artifact, Artifact.factory, Request.factoryImports]

/-! ### Models -/

/-- The name of a module begins with a letter, as the model's name does. -/
private theorem isIdentChars_snake {words : List String} {name model : String} (h : modelName words name = .ok model) :
    isIdentChars (Naming.snake model).toList = true := by
  obtain ⟨c, rest, hmodel, hc⟩ := head_of_modelName h
  rw [Naming.snake, String.toList_ofList, Naming.isIdentChars_snakeChars, hmodel]
  simp [Char.isAlphanum, hc]

/-- A name that has passed the check and ends with a letter or a digit is kept as one word only if it has no other
characters; then the word is the name in lower case, and has been checked. -/
private theorem snake_not_mem_of_getLast? {words : List String} {name model : String}
    (h : modelName words name = .ok model) (hwords : ∀ word ∈ words, '_' ∉ word.toList)
    (hlast : model.toList.getLast?.any Char.isAlphanum = true) : Naming.snake model ∉ words := by
  intro hmem
  obtain ⟨c, rest, hmodel, hc⟩ := head_of_modelName h
  have hunderscore : '_' ∉ snakeChars model.toList := by
    have hword := hwords _ hmem
    rwa [Naming.snake, String.toList_ofList] at hword
  have hall : ∀ x ∈ model.toList, x.isAlphanum = true := by
    intro x hx
    by_contra hx'
    have hhead : model.toList.head?.any Char.isAlphanum = true := by simp [hmodel, Char.isAlphanum, hc]
    exact hunderscore (Naming.underscore_mem_snakeChars hhead hlast hx (by simpa using hx'))
  have hlower : Naming.snake model = Text.lowercase model := by
    have hplain : ∀ x ∈ model.toList, Text.isIdentChar x = true := fun x hx => by simp [Text.isIdentChar, hall x hx]
    rw [Naming.snake, Text.lowercase, Naming.snakeChars_of_not_mem hunderscore, List.filter_eq_self.2 hall,
      lower_of_isIdentChar hplain]
  rw [hlower, lowercase_of_modelName h] at hmem
  exact lowercase_not_mem_of_modelName h hmem

/-- The paths that files import from can be named exactly if every piece of the namespace begins with a letter, and
neither one of them nor the model's name is a reserved word in snake case.  The model's name is one only if it has been
hidden from the check by something at the end that is no letter or digit. -/
theorem imports_importable_iff {c : Command} {a : Arguments} {r : Request} (h : c.request a = .ok r) :
    ((IsImportPath r.namespaceModule ∧ ∀ (k : ArtifactKind) (stamp : String), ∀ i ∈ k.imports stamp r,
        i.origin = r.databaseModule ∨ i.origin ∉ r.foreignModules → IsImportPath i.origin) ↔
      HasModuleNames r.application ∧ r.snake ∉ reservedWords) ∧
    (c.reserved = reservedWords → r.snake ∈ reservedWords →
      r.model.toList.getLast?.any Char.isAlphanum = false) := by
  have hmodel := Command.model_of_request h
  have hident : isIdentChars r.snake.toList = true := isIdentChars_snake hmodel
  have hsnake := snake_ne_empty hmodel
  refine ⟨⟨?_, ?_⟩, ?_⟩
  · rintro ⟨hnamespace, himports⟩
    have horigin : r.modelImport.origin = r.modulePath r.modelPlace := by simp only [Request.modelImport]
    have hown : r.modulePath r.modelPlace ∉ r.foreignModules := ArtifactKind.needed_not_foreign hsnake .model
    have hpath := himports .factory "" _ (modelImport_mem r)
    rw [horigin] at hpath
    exact ⟨isImportPath_modulePath_iff.1 hnamespace, snake_not_mem_of_isImportPath hident (hpath (Or.inr hown))⟩
  · rintro ⟨hnamespace, hfree⟩
    have hpath : IsImportPath r.namespaceModule := isImportPath_modulePath_iff.2 hnamespace
    refine ⟨hpath, fun k stamp i hi horigin => ?_⟩
    rcases horigin with hdatabase | hown
    · rw [hdatabase]
      exact (Request.isImportPath_modulePath_iff (by simp) (by decide)).2 ⟨hpath, by decide⟩
    · obtain ⟨k', hk', hmodule⟩ := ArtifactKind.exists_needed (blank_not_mem_of_modelName hmodel) hsnake hi hown
      rw [hmodule]
      exact ArtifactKind.isImportPath_of_needed hident hk' hpath hfree
  · intro hreserved hmem
    have hwords : ∀ word ∈ c.reserved, '_' ∉ word.toList := by
      rw [hreserved]
      decide +kernel
    rw [← Bool.not_eq_true]
    intro hlast
    exact snake_not_mem_of_getLast? hmodel hwords hlast (hreserved ▸ hmem)

/-- The pieces of this namespace begin with letters. -/
theorem imports_importable_of_blogPost :
    let c : Command := ⟨.fallback, .standard, reservedWords⟩
    let a : Arguments := ⟨"blogPost", none, [("controller", true)], none, .text "out", .text "Acme\\Blog2"⟩
    ∃ r, c.request a = .ok r ∧ IsImportPath r.namespaceModule ∧ ∀ i ∈ ArtifactKind.controller.imports "" r,
      i.origin = r.databaseModule ∨ i.origin ∉ r.foreignModules → IsImportPath i.origin := by
  intro c a
  have hany : (c.request a).toOption.any
      (fun r => decide (HasModuleNames r.application ∧ r.snake ∉ reservedWords)) = true := by
    decide +kernel
  obtain ⟨r, hrequest, hnames⟩ := exists_of_any_toOption hany
  obtain ⟨hnamespace, himports⟩ := (imports_importable_iff hrequest).1.2 (of_decide_eq_true hnames)
  exact ⟨r, hrequest, hnamespace, himports .controller ""⟩

/-- The check refuses the reserved word but not the word with an underscore, and the module has the word for its
name. -/
theorem not_imports_importable_of_class :
    let c : Command := ⟨.fallback, .standard, reservedWords⟩
    let a : Arguments := ⟨"class_", none, [("factory", true)], none, .text "out", .absent⟩
    ∃ r, c.request a = .ok r ∧ r.modelImport ∈ ArtifactKind.factory.imports "" r ∧
      r.modelImport.line = "from app.models.class import Class_" ∧ ¬ IsImportPath r.modelImport.origin := by
  intro c a
  have hany : (c.request a).toOption.any (fun r => decide
      (r.modelImport.line = "from app.models.class import Class_" ∧ ¬ IsImportPath r.modelImport.origin)) = true := by
    decide +kernel
  obtain ⟨r, hrequest, hclass⟩ := exists_of_any_toOption hany
  exact ⟨r, hrequest, modelImport_mem r, of_decide_eq_true hclass⟩

end CrudScaffold
