import CrudScaffold.Proofs.Artifact.Registration
import CrudScaffold.Proofs.Source.Collected
import CrudScaffold.Proofs.Source.Mapping
import CrudScaffold.Proofs.Text.Cut

/-!
# Import blocks

A block of import lines is read back as the modules and names that it was made from.  It has one line for each module,
in up to three sections, and the order in which modules and names came makes no difference to it
(`importBlock_readsBack`).
-/

namespace CrudScaffold.Source

/-! ### Lines that are read -/

/-- A module or a name as import lines can hold it: no line break, no comma, and `import` is no word of it. -/
def IsImportText (s : String) : Prop :=
  '\n' ∉ s.toList ∧ ',' ∉ s.toList ∧ "import".toList ∉ Text.splitOn ' ' s.toList

instance (s : String) : Decidable (IsImportText s) :=
  inferInstanceAs (Decidable ('\n' ∉ s.toList ∧ ',' ∉ s.toList ∧ "import".toList ∉ Text.splitOn ' ' s.toList))

namespace Import

/-- The names of a line, with a comma and a blank between them. -/
def namesOf (cs : List Char) : List String :=
  match Text.splitOn ',' cs with
  | [] => []
  | first :: others => .ofList first :: others.map fun part => .ofList (part.drop 1)

/-- The import that a line asks for. -/
def ofLine? (line : String) : Option Import :=
  if "import ".toList <+: line.toList then some ⟨.ofList (line.toList.drop 7), []⟩
  else if "from ".toList <+: line.toList then
    (Text.cut? " import ".toList (line.toList.drop 5)).map fun p => ⟨.ofList p.1, namesOf p.2⟩
  else none

variable {i : Import}

theorem line_of_plain {origin : String} : (⟨origin, []⟩ : Import).line = "import " ++ origin := rfl

theorem line_of_names {origin : String} {names : List String} (hne : names ≠ []) :
    (⟨origin, names⟩ : Import).line = "from " ++ origin ++ " import " ++ ", ".intercalate names := by
  obtain ⟨name, names, rfl⟩ := List.exists_cons_of_ne_nil hne
  rfl

private theorem namesOf_intercalate {names : List String} (hne : names ≠ []) (h : ∀ name ∈ names, ',' ∉ name.toList) :
    namesOf (", ".intercalate names).toList = names := by
  obtain ⟨name, names, rfl⟩ := List.exists_cons_of_ne_nil hne
  have htext : (", ".intercalate (name :: names)).toList =
      [',', ' '].intercalate (name.toList :: names.map String.toList) := String.toList_intercalate
  have hparts : ∀ part ∈ name.toList :: names.map String.toList, ',' ∉ part := by
    rw [← List.map_cons]
    exact List.forall_mem_map.2 h
  have hnames : ((names.map String.toList).map (' ' :: ·)).map (fun part => String.ofList (part.drop 1)) = names := by
    rw [List.map_map, List.map_map]
    exact (List.map_congr_left fun name _ => String.ofList_toList).trans (List.map_id' _)
  rw [namesOf, htext, Text.splitOn_comma hparts]
  exact congrArg₂ List.cons String.ofList_toList hnames

/-- Every line is read as the import that it was written for. -/
theorem ofLine?_line (horigin : IsImportText i.origin) (hnames : ∀ name ∈ i.names, IsImportText name) :
    ofLine? i.line = some i := by
  obtain ⟨origin, names⟩ := i
  by_cases hne : names = []
  · subst hne
    have htext : ("import " ++ origin).toList = "import ".toList ++ origin.toList := String.toList_append
    rw [line_of_plain, ofLine?, htext, if_pos (List.prefix_append _ _)]
    exact congrArg some (congrArg₂ Import.mk String.ofList_toList rfl)
  · have htext : ("from " ++ origin ++ " import " ++ ", ".intercalate names).toList =
        "from ".toList ++ (origin.toList ++ ' ' :: ("import".toList ++ ' ' :: (", ".intercalate names).toList)) := by
      simp
    have hplain : ¬ "import ".toList <+: "from ".toList ++
        (origin.toList ++ ' ' :: ("import".toList ++ ' ' :: (", ".intercalate names).toList)) := by
      intro h
      exact absurd (List.cons_prefix_cons.1 h).1 (by decide)
    have hcut := @Text.cut?_word _ _ (", ".intercalate names).toList (by decide) horigin.2.2
    rw [line_of_names hne, ofLine?, htext, if_neg hplain, if_pos (List.prefix_append _ _)]
    change (Text.cut? (' ' :: ("import".toList ++ [' '])) (origin.toList ++
      ' ' :: ("import".toList ++ ' ' :: (", ".intercalate names).toList))).map _ = _
    rw [hcut, Option.map_some, namesOf_intercalate hne fun name hname => (hnames name hname).2.1, String.ofList_toList]

theorem line_ne_empty (i : Import) : i.line ≠ "" := by
  obtain ⟨origin, names⟩ := i
  by_cases hne : names = []
  · subst hne
    rw [line_of_plain]
    simp
  · rw [line_of_names hne]
    simp

/-- Lines have no line break if their modules and names have none. -/
theorem break_not_mem_line (horigin : IsImportText i.origin) (hnames : ∀ name ∈ i.names, IsImportText name) :
    '\n' ∉ i.line.toList := by
  obtain ⟨origin, names⟩ := i
  have hjoined : '\n' ∉ (", ".intercalate names).toList := by
    rw [String.toList_intercalate]
    intro hmem
    rcases Naming.mem_joined hmem with hmem | ⟨_, hpart, hmem⟩
    · exact absurd hmem (by decide)
    · obtain ⟨name, hname, rfl⟩ := List.mem_map.1 hpart
      exact (hnames name hname).1 hmem
  by_cases hne : names = []
  · subst hne
    rw [line_of_plain]
    simpa using horigin.1
  · rw [line_of_names hne]
    simp only [String.toList_append, List.mem_append, not_or]
    exact ⟨⟨⟨by decide, horigin.1⟩, by decide⟩, hjoined⟩

end Import

namespace Imports

variable {imports : Imports}

/-! ### Sections -/

variable {application : Option String}

/-- The sections that are not empty, each with its place. -/
def parts (imports : Imports) (application : Option String) : List (ImportSection × List Import) :=
  (ImportSection.all.map fun s => (s, imports.toLines.filter fun i => importSection i.origin application = s)).filter
    (!·.2.isEmpty)

theorem map_snd_parts (imports : Imports) (application : Option String) :
    (imports.parts application).map Prod.snd = imports.sections application := by
  rw [parts, sections, List.filter_map, List.filter_map, List.map_map]
  rfl

theorem of_mem_parts {part : ImportSection × List Import} (h : part ∈ imports.parts application) :
    part.2 ≠ [] ∧ part.2 = imports.toLines.filter fun i => importSection i.origin application = part.1 := by
  obtain ⟨hmem, hfilled⟩ := List.mem_filter.1 h
  obtain ⟨s, -, rfl⟩ := List.mem_map.1 hmem
  exact ⟨by simpa using hfilled, rfl⟩

theorem parts_sublist (imports : Imports) (application : Option String) :
    ((imports.parts application).map Prod.fst).Sublist ImportSection.all := by
  have hall : ImportSection.all = (ImportSection.all.map fun s =>
      (s, imports.toLines.filter fun i => importSection i.origin application = s)).map Prod.fst := by
    rw [List.map_map]
    exact (List.map_id _).symm
  rw [hall]
  exact List.filter_sublist.map _

end Imports

/-! ### The text of a block -/

/-- The lines of a block; an empty one has none. -/
def blockLines (block : String) : List String :=
  if block = "" then [] else Text.lines block

/-- What a block of import lines is read as, with an entry for every line that is not blank. -/
def readBlock? (block : String) : Option Imports :=
  ((blockLines block).filter (· ≠ "")).mapM fun line => (Import.ofLine? line).map fun i => (i.origin, i.names)

/-- Blank lines stand between sections only. -/
private theorem filter_intercalate {sections : List (List Import)} :
    ([""].intercalate (sections.map fun lines => lines.map Import.line)).filter (· ≠ "") =
      sections.flatten.map Import.line := by
  have hline (lines : List Import) : (lines.map Import.line).filter (· ≠ "") = lines.map Import.line := by
    refine List.filter_eq_self.2 fun line hline => ?_
    obtain ⟨i, -, rfl⟩ := List.mem_map.1 hline
    exact decide_eq_true i.line_ne_empty
  induction sections with
  | nil => rfl
  | cons lines sections ih =>
    cases sections with
    | nil => simpa using hline lines
    | cons others sections =>
      rw [List.map_cons, List.map_cons, List.intercalate_cons_cons, List.append_assoc, List.filter_append, hline,
        List.flatten_cons, List.map_append, ← ih]
      rfl

section Block

variable {sections : List (List Import)} (hfilled : ∀ lines ∈ sections, lines ≠ [])

include hfilled

/-- Two line breaks between sections are a blank line. -/
private theorem toList_importBlock : (importBlock sections).toList =
    ['\n'].intercalate (([""].intercalate (sections.map fun lines => lines.map Import.line)).map String.toList) := by
  induction sections with
  | nil => rfl
  | cons lines sections ih =>
    rw [List.forall_mem_cons] at hfilled
    have htext : ("\n".intercalate (lines.map Import.line)).toList =
        ['\n'].intercalate ((lines.map Import.line).map String.toList) := String.toList_intercalate
    cases sections with
    | nil =>
      rw [importBlock, List.map_singleton, String.intercalate_singleton, htext, List.map_singleton,
        List.intercalate_singleton]
    | cons others sections =>
      have hrest := ih hfilled.2
      have hblock : importBlock (lines :: others :: sections) =
          "\n".intercalate (lines.map Import.line) ++ "\n\n" ++ importBlock (others :: sections) :=
        String.intercalate_cons_cons
      have hlines : [""].intercalate ((lines :: others :: sections).map fun lines => lines.map Import.line) =
          lines.map Import.line ++ "" ::
            [""].intercalate ((others :: sections).map fun lines => lines.map Import.line) := by
        rw [List.map_cons, List.map_cons, List.intercalate_cons_cons, List.append_assoc]
        rfl
      have hne : [""].intercalate ((others :: sections).map fun lines => lines.map Import.line) ≠ [] := by
        obtain ⟨i, others, rfl⟩ := List.exists_cons_of_ne_nil (hfilled.2 others List.mem_cons_self)
        cases sections <;> simp [List.intercalate_cons_cons]
      rw [hlines, hblock, String.toList_append, String.toList_append, htext, hrest]
      generalize [""].intercalate ((others :: sections).map fun lines => lines.map Import.line) = rest at hne
      obtain ⟨line, rest, rfl⟩ := List.exists_cons_of_ne_nil hne
      have hfirst : (lines.map Import.line).map String.toList ≠ [] := by simpa using hfilled.1
      have hbreaks : "\n\n".toList = ['\n'] ++ ("".toList ++ ['\n']) := rfl
      rw [List.map_append, @List.map_cons _ _ String.toList "", Text.intercalate_append _ hfirst (List.cons_ne_nil _ _),
        List.map_cons, @List.intercalate_cons_cons _ _ "".toList, hbreaks]
      simp only [List.append_assoc]

variable (hbreaks : ∀ lines ∈ sections, ∀ i ∈ lines, '\n' ∉ i.line.toList)

include hbreaks

/-- The lines of a block are those of its sections, with a blank line between two of them. -/
theorem blockLines_importBlock : blockLines (importBlock sections) =
    [""].intercalate (sections.map fun lines => lines.map Import.line) := by
  cases sections with
  | nil => rfl
  | cons lines sections =>
    obtain ⟨i, lines, rfl⟩ := List.exists_cons_of_ne_nil (hfilled lines List.mem_cons_self)
    have htext := toList_importBlock hfilled
    obtain ⟨others, hothers⟩ : ∃ others,
        [""].intercalate (((i :: lines) :: sections).map fun lines => lines.map Import.line) = i.line :: others := by
      cases sections with
      | nil => exact ⟨_, List.intercalate_singleton⟩
      | cons _ _ => exact ⟨_, List.intercalate_cons_cons⟩
    have hfree : ∀ part ∈ (i.line :: others).map String.toList, '\n' ∉ part := by
      rw [← hothers]
      refine List.forall_mem_map.2 fun line hline => ?_
      by_cases hblank : line = ""
      · rw [hblank]
        exact List.not_mem_nil
      · obtain ⟨part, hpart, hmem⟩ := (Text.mem_intercalate_iff hblank).1 hline
        obtain ⟨lines', hlines', rfl⟩ := List.mem_map.1 hpart
        obtain ⟨j, hj, rfl⟩ := List.mem_map.1 hmem
        exact hbreaks lines' hlines' j hj
    have hsplit : Text.lines (importBlock ((i :: lines) :: sections)) = i.line :: others := by
      rw [Text.lines, htext, hothers, Text.splitOn_intercalate (by simp) hfree, List.map_map]
      exact (List.map_congr_left fun _ _ => String.ofList_toList).trans (List.map_id' _)
    have hne : importBlock ((i :: lines) :: sections) ≠ "" := by
      intro hempty
      rw [hempty] at hsplit
      exact i.line_ne_empty (List.cons.inj hsplit).1.symm
    rw [blockLines, if_neg hne, hsplit, hothers]

/-- A block is read as the lines that it was made from. -/
theorem readBlock?_importBlock (hread : ∀ lines ∈ sections, ∀ i ∈ lines, Import.ofLine? i.line = some i) :
    readBlock? (importBlock sections) = some (sections.flatten.map fun i => (i.origin, i.names)) := by
  rw [readBlock?, blockLines_importBlock hfilled hbreaks, filter_intercalate]
  have hlines : ∀ i ∈ sections.flatten, Import.ofLine? i.line = some i := by
    intro i hi
    obtain ⟨lines, hlines, hi⟩ := List.mem_flatten.1 hi
    exact hread lines hlines i hi
  generalize sections.flatten = all at hlines
  induction all with
  | nil => rfl
  | cons i all ih =>
    rw [List.forall_mem_cons] at hlines
    rw [List.map_cons, List.mapM_cons, ih hlines.2, hlines.1]
    rfl

end Block

/-! ### Blocks of mappings -/

namespace Imports

variable {imports : Imports} {application : Option String}

/-- A mapping from modules to sets of names, all of which import lines can hold. -/
structure IsMapping (imports : Imports) : Prop where
  keys : imports.keys.Nodup
  names : ∀ e ∈ imports, e.2.Nodup
  moduleTexts : ∀ e ∈ imports, IsImportText e.1
  nameTexts : ∀ e ∈ imports, ∀ name ∈ e.2, IsImportText name

/-- How the block of a mapping is laid out: the sections that are not empty, in order, with one blank line between
two of them and none at the ends. -/
structure LaidOut (imports : Imports) (application : Option String) (parts : List (ImportSection × List Import)) :
    Prop where
  lines : blockLines (importBlock (imports.sections application)) =
    [""].intercalate (parts.map fun part => part.2.map Import.line)
  /-- At most three, and the standard library comes before other libraries, and these before the application. -/
  order : (parts.map Prod.fst).Sublist ImportSection.all
  filled : ∀ part ∈ parts, part.2 ≠ []
  placed : ∀ part ∈ parts, ∀ i ∈ part.2, importSection i.origin application = part.1
  ordered : ∀ part ∈ parts, part.2.Pairwise Import.Before
  sorted : ∀ part ∈ parts, ∀ i ∈ part.2, i.names.Pairwise (· ≤ ·)
  unblank : ∀ part ∈ parts, ∀ i ∈ part.2, i.line ≠ ""

theorem mem_toLines {i : Import} : i ∈ imports.toLines ↔ ∃ e ∈ imports, i = ⟨e.1, sortTexts e.2⟩ := by
  rw [imports.toLines_perm.mem_iff, lines, List.mem_map]
  exact exists_congr fun e => and_congr_right fun _ => eq_comm

theorem flatten_sections (imports : Imports) (application : Option String) :
    (imports.sections application).flatten.Perm imports.lines := by
  unfold sections
  rw [List.flatten_filter_not_isEmpty, ← List.flatMap_def]
  exact (perm_filter_sections _ _).trans imports.toLines_perm

theorem of_mem_sections {lines : List Import} (h : lines ∈ imports.sections application) :
    lines ≠ [] ∧ ∀ i ∈ lines, i ∈ imports.toLines := by
  rw [← map_snd_parts] at h
  obtain ⟨part, hpart, rfl⟩ := List.mem_map.1 h
  obtain ⟨hfilled, hlines⟩ := of_mem_parts hpart
  exact ⟨hfilled, fun i hi => (List.mem_filter.1 (hlines ▸ hi)).1⟩

namespace IsMapping

variable (h : imports.IsMapping)

include h

/-- Every line of the block is one line, and is read as the import that it was written for. -/
theorem read_of_mem {lines : List Import} {i : Import} (hlines : lines ∈ imports.sections application)
    (hi : i ∈ lines) : '\n' ∉ i.line.toList ∧ Import.ofLine? i.line = some i := by
  obtain ⟨e, he, rfl⟩ := mem_toLines.1 ((of_mem_sections hlines).2 i hi)
  have hmodule := h.moduleTexts e he
  have hnames : ∀ name ∈ sortTexts e.2, IsImportText name := fun name hname =>
    h.nameTexts e he name (List.mem_mergeSort.1 hname)
  exact ⟨Import.break_not_mem_line hmodule hnames, Import.ofLine?_line hmodule hnames⟩

theorem laidOut (application : Option String) : imports.LaidOut application (imports.parts application) where
  lines := by
    have hlines := blockLines_importBlock (fun lines hlines => (of_mem_sections hlines).1)
      fun lines (hlines : lines ∈ imports.sections application) i hi => (h.read_of_mem hlines hi).1
    rw [hlines, ← map_snd_parts, List.map_map]
    rfl
  order := imports.parts_sublist application
  filled part hpart := (of_mem_parts hpart).1
  placed part hpart i hi := by
    rw [(of_mem_parts hpart).2] at hi
    exact of_decide_eq_true (List.mem_filter.1 hi).2
  ordered part hpart := by
    rw [(of_mem_parts hpart).2]
    exact (pairwise_toLines h.keys).filter _
  sorted part hpart i hi := by
    rw [(of_mem_parts hpart).2] at hi
    obtain ⟨e, -, rfl⟩ := mem_toLines.1 (List.mem_filter.1 hi).1
    exact pairwise_sortTexts e.2
  unblank part hpart i _ := i.line_ne_empty

/-- The block is read as a mapping with the same modules and names, with one line for each module. -/
theorem exists_readBlock? (application : Option String) :
    ∃ found, readBlock? (importBlock (imports.sections application)) = some found ∧
      found.keys.Perm imports.keys ∧ found.Same imports := by
  have hread := readBlock?_importBlock (fun lines hlines => (of_mem_sections hlines).1)
    (fun lines (hlines : lines ∈ imports.sections application) i hi => (h.read_of_mem hlines hi).1)
    fun lines hlines i hi => (h.read_of_mem hlines hi).2
  have hperm : imports.sorted.Perm ((imports.sections application).flatten.map fun i => (i.origin, i.names)) := by
    have hlines := ((imports.flatten_sections application).map fun i => (i.origin, i.names)).symm
    rw [lines, List.map_map] at hlines
    exact hlines
  refine ⟨_, hread, ?_, same_of_perm_sorted h.keys hperm⟩
  rw [← imports.keys_sorted]
  exact hperm.symm.map Prod.fst

end IsMapping

/-- A block of import lines has one line for each module, from which the mapping is read back.  Mappings have one
block if and only if they have the same modules and names, in whatever order they came; and its lines are laid out
in sections. -/
theorem importBlock_readsBack (application : Option String) (h : imports.IsMapping) :
    (∃ found, Source.readBlock? (importBlock (imports.sections application)) = some found ∧
        found.keys.Perm imports.keys ∧ found.Same imports) ∧
      (∀ others : Imports, others.IsMapping →
        (importBlock (others.sections application) = importBlock (imports.sections application) ↔
          others.Same imports)) ∧
      ∃ parts, imports.LaidOut application parts := by
  refine ⟨h.exists_readBlock? application, fun others hothers => ?_, _, h.laidOut application⟩
  constructor
  · intro hblock
    obtain ⟨found, hfound, -, hsame⟩ := h.exists_readBlock? application
    obtain ⟨found', hfound', -, hsame'⟩ := hothers.exists_readBlock? application
    rw [hblock, hfound] at hfound'
    obtain rfl := Option.some.inj hfound'
    exact hsame'.symm.trans hsame
  · intro hsame
    rw [sections, sections, toLines_congr hothers.keys h.keys hsame]

/-- Modules of all three sections, whole ones among them. -/
theorem importBlock_readsBack_of_six :
    let imports : Imports :=
      [("app.database", ["Base"]), ("sqlalchemy.orm", ["mapped_column", "Mapped"]), ("importlib", ["import_module"]),
        ("datetime as dt", []), ("pydantic", ["Field"]), ("app", ["", "Model as Other"])]
    imports.IsMapping ∧
      (∃ found, Source.readBlock? (importBlock (imports.sections (some "app"))) = some found ∧
        found.keys.Perm imports.keys ∧ found.Same imports) ∧
      ∃ parts, imports.LaidOut (some "app") parts := by
  intro imports
  have h : imports.IsMapping :=
    ⟨by decide, by decide, by decide +kernel, by decide +kernel⟩
  obtain ⟨hfound, -, hparts⟩ := importBlock_readsBack (some "app") h
  exact ⟨h, hfound, hparts⟩

end Imports

end Source

end CrudScaffold