import CrudScaffold.Proofs.Artifact.Place
import CrudScaffold.Proofs.Naming.Plural
import CrudScaffold.Proofs.Naming.Segments
import CrudScaffold.Proofs.Request

/-!
# Normal forms of names

A snake-case name is empty, or it is made of words of small letters and digits that are joined by single underscores;
these are the texts that stay as they are in snake case (`snakeChars_eq_self_iff`).  The paths of modules are such names
joined by points.  The table of a model differs from its snake-case name in the last word only, and the route has
hyphens between the same words (`exists_words_of_snake`), so the files of a model that has passed the check lie under
plain names (`names_normalForm`).
-/

namespace CrudScaffold

namespace Naming

/-- Small letters and digits, and at least one of them. -/
structure IsWord (cs : List Char) : Prop where
  nonempty : cs ≠ []
  plain : ∀ c ∈ cs, c.isLower = true ∨ c.isDigit = true

/-- One or more words that are joined by single underscores. -/
def IsSnake (cs : List Char) : Prop :=
  ∃ parts, parts ≠ [] ∧ (∀ part ∈ parts, IsWord part) ∧ cs = joined ['_'] parts

/-! ### Words -/

theorem isWord_iff {cs : List Char} :
    IsWord cs ↔ cs ≠ [] ∧ ∀ c ∈ cs, c.isAlphanum = true ∧ c.isUpper = false := by
  have hsmall (c : Char) : c.isLower = true ∨ c.isDigit = true ↔ c.isAlphanum = true ∧ c.isUpper = false := by
    have hlower : c.isUpper = true → c.isLower = false := Text.isLower_of_isUpper
    have hdigit : c.isUpper = true → c.isDigit = false := Text.isDigit_of_isUpper
    unfold Char.isAlphanum Char.isAlpha
    grind
  simp only [← hsmall]
  exact ⟨fun h => ⟨h.nonempty, h.plain⟩, fun h => ⟨h.1, h.2⟩⟩

theorem isWord_of_mem_words {cs word : List Char} (h : word ∈ words cs) : IsWord word :=
  isWord_iff.2 ⟨(isPlain_of_words h).2, fun _ hc => of_mem_words h hc⟩

theorem isWord_pluralWord {word : List Char} (h : IsWord word) : IsWord (pluralWord word) :=
  isWord_iff.2 (pluralWord_small (isWord_iff.1 h).2)

theorem words_joined_of_isWord {parts : List (List Char)} (h : ∀ part ∈ parts, IsWord part) :
    words (joined ['_'] parts) = parts :=
  words_joined fun part hpart => isWord_iff.1 (h part hpart)

theorem IsWord.not_mem {word : List Char} (h : IsWord word) {c : Char} (hc : c.isAlphanum = false) : c ∉ word :=
  fun hmem => absurd ((isWord_iff.1 h).2 c hmem).1 (by simp [hc])

/-! ### Snake case -/

theorem snakeChars_snakeChars (cs : List Char) : snakeChars (snakeChars cs) = snakeChars cs :=
  congrArg (joined ['_']) (words_snakeChars cs)

theorem isSnake_snakeChars {cs : List Char} (h : snakeChars cs ≠ []) : IsSnake (snakeChars cs) := by
  refine ⟨words cs, ?_, fun _ => isWord_of_mem_words, rfl⟩
  intro hnil
  rw [snakeChars, hnil] at h
  exact h rfl

theorem IsSnake.ne_nil {cs : List Char} (h : IsSnake cs) : cs ≠ [] := by
  obtain ⟨parts, hne, hparts, rfl⟩ := h
  intro hnil
  rw [← words_joined_of_isWord hparts, hnil] at hne
  exact hne rfl

/-- The texts that stay as they are in snake case are those in normal form. -/
theorem snakeChars_eq_self_iff {cs : List Char} : snakeChars cs = cs ↔ cs = [] ∨ IsSnake cs := by
  constructor
  · intro h
    rcases eq_or_ne cs [] with hnil | hne
    · exact Or.inl hnil
    · exact Or.inr (h ▸ isSnake_snakeChars (h.symm ▸ hne))
  · rintro (rfl | ⟨parts, -, hparts, rfl⟩)
    · rfl
    · rw [snakeChars, words_joined_of_isWord hparts]

/-! ### Paths of modules -/

section SplitAt

variable {cut : Char → Bool}

private theorem splitAt_append {front rest piece : List Char} {others : List (List Char)}
    (hfront : ∀ c ∈ front, cut c = false) (hrest : splitAt cut rest = piece :: others) :
    splitAt cut (front ++ rest) = (front ++ piece) :: others := by
  induction front with
  | nil => exact hrest
  | cons c front ih =>
    rw [List.forall_mem_cons] at hfront
    rw [List.cons_append, splitAt, ih hfront.2, hfront.1]
    rfl

/-- Texts that are joined by a separator, and have none themselves, are found again. -/
theorem splitAt_joined {x : Char} (hx : cut x = true) {parts : List (List Char)} (hne : parts ≠ [])
    (h : ∀ part ∈ parts, ∀ c ∈ part, cut c = false) : splitAt cut (joined [x] parts) = parts := by
  unfold joined
  induction parts with
  | nil => exact absurd rfl hne
  | cons part parts ih =>
    rw [List.forall_mem_cons] at h
    cases parts with
    | nil =>
      have hend : splitAt cut [] = [[]] := rfl
      simpa using splitAt_append h.1 hend
    | cons other parts =>
      have hcut : splitAt cut (x :: [x].intercalate (other :: parts)) = [] :: other :: parts := by
        rw [splitAt, if_pos hx, ih (List.cons_ne_nil _ _) h.2]
      rw [List.intercalate_cons_cons, List.append_assoc, List.singleton_append, splitAt_append h.1 hcut,
        List.append_nil]

end SplitAt

theorem exists_names_modulePath (path : String) :
    ∃ names, (∀ name ∈ names, IsSnake name) ∧ (modulePath path).toList = joined ['.'] names := by
  refine ⟨_, fun name hname => ?_, by rw [modulePath, String.toList_ofList]⟩
  obtain ⟨hmem, hne⟩ := List.mem_filter.1 hname
  obtain ⟨piece, -, rfl⟩ := List.mem_map.1 hmem
  exact isSnake_snakeChars (by simpa using hne)

/-- There is no separator of paths in a snake-case name. -/
theorem IsSnake.isPathSeparator_eq_false {cs : List Char} (h : IsSnake cs) {c : Char} (hc : c ∈ cs) :
    isPathSeparator c = false := by
  rw [← snakeChars_eq_self_iff.2 (Or.inr h)] at hc
  have hplain := isPlain_snakeChars cs c hc
  rw [← Bool.not_eq_true]
  intro hcut
  simp only [isPathSeparator, Bool.or_eq_true, beq_iff_eq] at hcut
  rcases hcut with (rfl | rfl) | rfl <;> exact absurd hplain (by decide)

/-- Snake-case names that are joined by points are the path of a module already. -/
theorem modulePath_of_names {path : String} {names : List (List Char)} (hnames : ∀ name ∈ names, IsSnake name)
    (hpath : path.toList = joined ['.'] names) : modulePath path = path := by
  rw [← String.toList_inj, modulePath, String.toList_ofList, hpath]
  rcases eq_or_ne names [] with rfl | hne
  · rfl
  have hsnake : names.map snakeChars = names :=
    (List.map_congr_left fun name hname => snakeChars_eq_self_iff.2 (Or.inr (hnames name hname))).trans (List.map_id' _)
  have hkept : names.filter (!·.isEmpty) = names :=
    List.filter_eq_self.2 fun name hname => by simpa using (hnames name hname).ne_nil
  rw [splitAt_joined (by decide) hne fun name hname c => (hnames name hname).isPathSeparator_eq_false, hsnake, hkept]

theorem modulePath_modulePath (path : String) : modulePath (modulePath path) = modulePath path := by
  obtain ⟨names, hnames, hpath⟩ := exists_names_modulePath path
  exact modulePath_of_names hnames hpath

end Naming

/-! ### Names of a request -/

open Naming (IsWord IsSnake joined)

namespace Request

/-- The table has the words of the snake-case name with the last one in the plural, and so has the route. -/
theorem exists_words_of_snake {r : Request} (h : r.snake ≠ "") : ∃ front last,
    (∀ word ∈ front ++ [last], IsWord word) ∧ r.snake.toList = joined ['_'] (front ++ [last]) ∧
      r.table.toList = joined ['_'] (front ++ [Naming.pluralWord last]) ∧
      r.route.toList = '/' :: joined ['-'] (front ++ [Naming.pluralWord last]) := by
  have hchars : Naming.snakeChars r.model.toList ≠ [] := fun hnil =>
    h (String.toList_inj.1 (String.toList_ofList.trans hnil))
  obtain ⟨parts, hne, hparts, hsnake⟩ := Naming.isSnake_snakeChars hchars
  obtain ⟨front, last, rfl⟩ : ∃ front last, parts = front ++ [last] :=
    ⟨_, _, (List.dropLast_concat_getLast hne).symm⟩
  have hlast : IsWord last := hparts last (by simp)
  have hplural : ∀ word ∈ front ++ [Naming.pluralWord last], IsWord word := by
    intro word hword
    rcases List.mem_append.1 hword with hword | hword
    · exact hparts word (List.mem_append_left _ hword)
    · exact List.mem_singleton.1 hword ▸ Naming.isWord_pluralWord hlast
  have hname : r.snake.toList = joined ['_'] (front ++ [last]) := String.toList_ofList.trans hsnake
  have htable : r.plural.toList = joined ['_'] (front ++ [Naming.pluralWord last]) := by
    rw [plural, Naming.plural, String.toList_ofList, hname,
      Naming.pluralChars_joined front hlast.nonempty (hlast.not_mem (by decide))]
  have hroute : (Naming.kebab r.plural).toList = joined ['-'] (front ++ [Naming.pluralWord last]) := by
    rw [Naming.kebab, String.toList_ofList, htable, Naming.words_joined_of_isWord hplural]
  refine ⟨front, last, hparts, hname, htable, ?_⟩
  rw [route, String.toList_append, hroute]
  rfl

end Request

/-- Names in snake case and paths of modules are in normal form and stay so.  If the name of a model has passed the
check, its snake-case name and its table are words joined by underscores, its route has hyphens between the words of the
table, and every file lies below the root under plain names. -/
theorem names_normalForm :
    (∀ s : String,
      (Naming.snake s = "" ↔ ∀ c ∈ s.toList, c.isAlphanum = false) ∧
        (Naming.snake s ≠ "" → IsSnake (Naming.snake s).toList) ∧
        Naming.snake (Naming.snake s) = Naming.snake s) ∧
    (∀ s : String,
      (∃ names, (∀ name ∈ names, IsSnake name) ∧ (Naming.modulePath s).toList = joined ['.'] names) ∧
        Naming.modulePath (Naming.modulePath s) = Naming.modulePath s) ∧
    ∀ (reserved : List String) (given : String) (r : Request), modelName reserved given = .ok r.model →
      IsSnake r.snake.toList ∧
      (∃ words, words ≠ [] ∧ (∀ word ∈ words, IsWord word) ∧ r.table.toList = joined ['_'] words ∧
        r.route.toList = '/' :: joined ['-'] words) ∧
      ∀ (k : ArtifactKind) (m : Moment), ∃ names, names ≠ [] ∧
        (∀ name ∈ names, Path.IsName name ∧ ∀ c ∈ name.toList, Text.isIdentChar c = true ∨ c = '.') ∧
        k.outputPath m.stamp r = (Path.ofText r.root).under names := by
  refine ⟨fun s => ⟨?_, fun hne => ?_, ?_⟩, fun s => ⟨?_, ?_⟩, fun reserved given r h => ⟨?_, ?_, fun k m => ?_⟩⟩
  · rw [← String.toList_eq_nil_iff, Naming.snake, String.toList_ofList, Naming.snakeChars_eq_nil_iff]
    simp
  · rw [Naming.snake, String.toList_ofList]
    refine Naming.isSnake_snakeChars fun hnil => hne ?_
    rw [Naming.snake, hnil]
  · rw [Naming.snake, Naming.snake, String.toList_ofList, Naming.snakeChars_snakeChars]
  · exact Naming.exists_names_modulePath s
  · exact Naming.modulePath_modulePath s
  · obtain ⟨front, last, hwords, hsnake, -⟩ := Request.exists_words_of_snake (snake_ne_empty h)
    exact ⟨front ++ [last], by simp, hwords, hsnake⟩
  · obtain ⟨front, last, hwords, -, htable, hroute⟩ := Request.exists_words_of_snake (snake_ne_empty h)
    refine ⟨front ++ [Naming.pluralWord last], by simp, ?_, htable, hroute⟩
    rw [List.forall_mem_append] at hwords ⊢
    exact ⟨hwords.1, List.forall_mem_singleton.2 (Naming.isWord_pluralWord (hwords.2 last List.mem_cons_self))⟩
  · have hsnake := snake_ne_empty h
    have hstamp := ArtifactKind.isModuleName_stamp m
    obtain ⟨hpath, hnames⟩ := ArtifactKind.outputPath_eq_under hsnake hstamp k
    exact ⟨k.names m.stamp r, k.names_ne_nil _ _,
      fun name hname => ⟨hnames name hname, k.chars_of_mem_names hsnake hstamp hname⟩, hpath⟩

/-- A run of capitals is a word of its own. -/
theorem names_normalForm_of_capitals :
    let r : Request := ⟨"HTTPBox", .initial, ⟨[]⟩, "api", "out", "app"⟩
    modelName reservedWords "HTTPBox" = .ok r.model ∧ r.snake = "http_box" ∧ r.table = "http_boxes" ∧
      r.route = "/http-boxes" ∧ IsSnake r.snake.toList ∧
      ∃ words, words ≠ [] ∧ (∀ word ∈ words, IsWord word) ∧ r.table.toList = joined ['_'] words ∧
        r.route.toList = '/' :: joined ['-'] words := by
  intro r
  have hmodel : modelName reservedWords "HTTPBox" = .ok r.model := by decide +kernel
  obtain ⟨hsnake, hwords, -⟩ := names_normalForm.2.2 reservedWords "HTTPBox" r hmodel
  exact ⟨hmodel, by decide +kernel, by decide +kernel, by decide +kernel, hsnake, hwords⟩

end CrudScaffold
