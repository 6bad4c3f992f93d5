import CrudScaffold.Table
import CrudScaffold.Proofs.Text.Affix
import Mathlib.Data.List.DropRight
import Mathlib.Data.List.Forall2

/-!
# Reading a table back

Row by row the columns of a table become as wide as their widest cells, unless a row has a cell without a column
(`render?_eq`).  Then all lines are equally long, and every cell is found between the columns in which the border has its
plus signs, whatever characters it is made of (`readCells_line`, `render?_readsBack`).
-/

namespace CrudScaffold

namespace Table

/-! ### Widths -/

/-- The widths of the columns after one more row, every cell of which needs a column. -/
def widened? : List Nat → List String → Option (List Nat)
  | widths, [] => some widths
  | [], _ :: _ => none
  | width :: widths, cell :: cells => (widened? widths cells).map (max width cell.length :: ·)

variable {widths widths' : List Nat} {row cells : List String} {rows : List (List String)}

/-- A row widens every column to the length of the cell that it has there. -/
theorem widened?_eq (widths : List Nat) (row : List String) :
    widened? widths row =
      if row.length ≤ widths.length then some (widths.mapIdx fun i width => max width (row[i]?.getD "").length)
      else none := by
  induction widths generalizing row with
  | nil => cases row <;> simp [widened?]
  | cons width widths ih =>
    cases row with
    | nil => simp [widened?, List.mapIdx_eq_zipIdx_map]
    | cons cell cells =>
      rw [widened?, ih]
      by_cases hlength : cells.length ≤ widths.length
      · simp [hlength, List.mapIdx_cons]
      · simp [hlength]

/-- After all rows every column is as wide as its widest cell. -/
theorem foldlM_widened?_eq (widths : List Nat) (rows : List (List String)) :
    rows.foldlM widened? widths =
      if ∀ row ∈ rows, row.length ≤ widths.length then
        some (widths.mapIdx fun i width => (rows.map fun row => (row[i]?.getD "").length).foldl max width)
      else none := by
  induction rows generalizing widths with
  | nil => simp [List.mapIdx_eq_zipIdx_map]
  | cons row rows ih =>
    rw [List.foldlM_cons, widened?_eq]
    by_cases hrow : row.length ≤ widths.length
    · rw [if_pos hrow, Option.bind_eq_bind, Option.bind_some, ih, List.length_mapIdx, List.mapIdx_mapIdx]
      simp [hrow, Function.comp_def]
    · simp [hrow]

/-- If every cell has a column, these are the widths of the table. -/
theorem foldlM_widened?_widths (t : Table) :
    t.rows.foldlM widened? (t.headers.map String.length) = if t.isRectangular then some t.widths else none := by
  have hwidths : t.widths = (t.headers.map String.length).mapIdx fun i width =>
      (t.rows.map fun row => (row[i]?.getD "").length).foldl max width := by
    rw [widths, List.mapIdx_eq_zipIdx_map, List.zipIdx_map, List.map_map]
    rfl
  rw [foldlM_widened?_eq, ← hwidths, isRectangular]
  simp only [List.all_eq_true, decide_eq_true_eq, List.length_map]

/-- The lines are made with the widths that the columns have after the last row. -/
theorem render?_eq (t : Table) :
    t.render? = (t.rows.foldlM widened? (t.headers.map String.length)).map fun widths =>
      "\n".intercalate ([border widths, line widths t.headers, border widths] ++ t.rows.map (line widths) ++
        [border widths]) := by
  rw [foldlM_widened?_widths, render?]
  split
  · rfl
  · rfl

/-- Only a row with more cells than there are columns keeps a table from being written. -/
theorem render?_eq_none_iff {t : Table} : t.render? = none ↔ ∃ row ∈ t.rows, t.headers.length < row.length := by
  rw [render?_eq, Option.map_eq_none_iff, foldlM_widened?_eq, List.length_map]
  simp

/-- Every cell has a column that is wide enough. -/
def Fits : List Nat → List String → Prop :=
  List.Forall₂ fun width cell => cell.length ≤ width

/-- After a row what has fitted fits as before, and so does the row. -/
theorem fits_of_widened? (h : widened? widths row = some widths') :
    widths'.length = widths.length ∧ (∀ cells, Fits widths cells → Fits widths' cells) ∧
      (row.length = widths.length → Fits widths' row) := by
  induction widths generalizing row widths' with
  | nil =>
    cases row with
    | nil =>
      obtain rfl := Option.some.inj h
      exact ⟨rfl, fun _ hcells => hcells, fun _ => .nil⟩
    | cons cell cells => cases h
  | cons width widths ih =>
    cases row with
    | nil =>
      obtain rfl := Option.some.inj h
      exact ⟨rfl, fun _ hcells => hcells, fun hlength => nomatch hlength⟩
    | cons cell row =>
      obtain ⟨later, hlater, rfl⟩ := Option.map_eq_some_iff.1 h
      obtain ⟨hlength, hkept, hrow⟩ := ih hlater
      refine ⟨congrArg (· + 1) hlength, fun cells hcells => ?_, fun hcount => ?_⟩
      · cases hcells with
        | cons hfirst hothers => exact .cons (hfirst.trans (Nat.le_max_left _ _)) (hkept _ hothers)
      · exact .cons (Nat.le_max_right _ _) (hrow (Nat.succ.inj hcount))

/-- After all rows the first cells fit as before, and so does every row. -/
theorem fits_of_foldlM_widened? (h : rows.foldlM widened? widths = some widths') :
    widths'.length = widths.length ∧ (∀ cells, Fits widths cells → Fits widths' cells) ∧
      ∀ row ∈ rows, row.length = widths.length → Fits widths' row := by
  induction rows generalizing widths with
  | nil =>
    obtain rfl := Option.some.inj h
    exact ⟨rfl, fun _ hcells => hcells, fun _ hrow => nomatch hrow⟩
  | cons row rows ih =>
    rw [List.foldlM_cons, Option.bind_eq_bind] at h
    obtain ⟨between, hrow, hrows⟩ := Option.bind_eq_some_iff.1 h
    obtain ⟨hlength, hkept, hfits⟩ := fits_of_widened? hrow
    obtain ⟨hlength', hkept', hfits'⟩ := ih hrows
    refine ⟨hlength'.trans hlength, fun cells hcells => hkept' _ (hkept _ hcells), ?_⟩
    exact List.forall_mem_cons.2 ⟨fun hcount => hkept' _ (hfits hcount), fun row' hrow' hcount =>
      hfits' row' hrow' (hcount.trans hlength.symm)⟩

private theorem fits_headers (headers : List String) : Fits (headers.map String.length) headers := by
  induction headers with
  | nil => exact .nil
  | cons header headers ih => exact .cons le_rfl ih

/-! ### Lines -/

/-- Texts side by side, with edges around them. -/
def fenced (edge : Char) : List (List Char) → List Char
  | [] => [edge]
  | part :: parts => edge :: (part ++ fenced edge parts)

private theorem intercalate_fenced (edge : Char) {parts : List (List Char)} (h : parts ≠ []) :
    edge :: ([edge].intercalate parts ++ [edge]) = fenced edge parts := by
  induction parts with
  | nil => exact absurd rfl h
  | cons part parts ih =>
    cases parts with
    | nil => rw [List.intercalate_singleton, fenced, fenced]
    | cons other parts =>
      rw [List.intercalate_cons_cons, fenced, ← ih (by simp)]
      simp

theorem mem_fenced_iff {edge c : Char} {parts : List (List Char)} :
    c ∈ fenced edge parts ↔ c = edge ∨ ∃ part ∈ parts, c ∈ part := by
  induction parts with
  | nil => simp [fenced]
  | cons part parts ih =>
    rw [fenced, List.mem_cons, List.mem_append, ih]
    simp only [List.mem_cons, exists_eq_or_imp]
    tauto

theorem length_fenced {edge edge' : Char} {parts parts' : List (List Char)}
    (h : List.Forall₂ (fun part part' => part.length = part'.length) parts parts') :
    (fenced edge parts).length = (fenced edge' parts').length := by
  induction h with
  | nil => rfl
  | cons hpart _ ih => simp [fenced, hpart, ih]

/-- The stretches of a border between its plus signs. -/
def dashes (widths : List Nat) : List (List Char) :=
  widths.map fun width => List.replicate (width + 2) '-'

/-- The cells of a line with the blanks around them. -/
def paddedCells (widths : List Nat) (cells : List String) : List (List Char) :=
  cells.zipWith (fun text width => (cell text width).toList) widths

theorem toList_cell (text : String) (width : Nat) :
    (cell text width).toList = ' ' :: (text.toList ++ List.replicate (width - text.length + 1) ' ') := by
  have hcell : cell text width = " " ++ text ++ .ofList (List.replicate (width - text.length) ' ') ++ " " := rfl
  rw [hcell, List.replicate_succ']
  simp

theorem toList_border (h : widths ≠ []) : (border widths).toList = fenced '+' (dashes widths) := by
  have hborder : border widths =
      "+" ++ "+".intercalate (widths.map fun width => .ofList (List.replicate (width + 2) '-')) ++ "+" := rfl
  rw [← intercalate_fenced '+' (by simpa [dashes] using h), hborder]
  simp [String.toList_intercalate, dashes, Function.comp_def]

theorem toList_line (h : paddedCells widths cells ≠ []) :
    (line widths cells).toList = fenced '|' (paddedCells widths cells) := by
  rw [← intercalate_fenced '|' h, line]
  simp [String.toList_intercalate, paddedCells, List.map_zipWith]

/-- Under every stretch of the border stands a cell of the same length. -/
theorem length_dashes_paddedCells (h : Fits widths cells) :
    List.Forall₂ (fun dash part => '+' ∉ dash ∧ dash.length = part.length) (dashes widths)
      (paddedCells widths cells) := by
  induction h with
  | nil => exact .nil
  | @cons width text widths cells hfits _ ih =>
    refine .cons ⟨fun h => absurd (List.eq_of_mem_replicate h) (by decide), ?_⟩ ih
    change (List.replicate (width + 2) '-').length = (cell text width).toList.length
    rw [toList_cell, List.length_replicate, List.length_cons, List.length_append, List.length_replicate,
      String.length_toList]
    omega

/-! ### Reading -/

/-- What stands in a line between each two neighbours of the given places. -/
def between (line : List Char) : List Nat → List (List Char)
  | a :: b :: marks => (line.drop (a + 1)).take (b - (a + 1)) :: between line (b :: marks)
  | _ => []

/-- The text without the spaces at its end. -/
def withoutSpaces (cs : List Char) : List Char :=
  cs.rdropWhile (· == ' ')

/-- The cells of a line below a border: what stands between the places of the plus signs, without the blank in front and
those behind. -/
def readCells (border line : List Char) : List (List Char) :=
  (between line (border.idxsOf '+')).map fun part => withoutSpaces part.tail

theorem withoutSpaces_append (cs : List Char) (n : Nat) :
    withoutSpaces (cs ++ List.replicate n ' ') = withoutSpaces cs := by
  induction n with
  | zero => simp
  | succ n ih =>
    rw [List.replicate_succ', ← List.append_assoc, withoutSpaces, List.rdropWhile_concat_pos _ _ _ (by decide)]
    exact ih

private theorem idxsOf_append_of_not_mem {c : Char} {xs : List Char} (h : c ∉ xs) (ys : List Char) (n : Nat) :
    (xs ++ ys).idxsOf c n = ys.idxsOf c (n + xs.length) := by
  have hnone : xs.idxsOf c n = [] := by
    induction xs generalizing n with
    | nil => rfl
    | cons x xs ih =>
      rw [List.mem_cons, not_or] at h
      rw [List.idxsOf_cons, if_neg (by simpa using Ne.symm h.1), ih h.2]
  rw [List.idxsOf_append, hnone, List.nil_append]

/-- The first plus sign of a border is its first character. -/
private theorem idxsOf_fenced (parts : List (List Char)) (n : Nat) :
    ∃ later, (fenced '+' parts).idxsOf '+' n = n :: later := by
  cases parts <;> exact ⟨_, rfl⟩

/-- Between the places of the plus signs stand the cells, whatever characters they are made of. -/
theorem between_fenced {stretches parts : List (List Char)}
    (h : List.Forall₂ (fun dash part => '+' ∉ dash ∧ dash.length = part.length) stretches parts) (front : List Char) :
    between (front ++ fenced '|' parts) ((fenced '+' stretches).idxsOf '+' front.length) = parts := by
  induction h generalizing front with
  | nil => rfl
  | @cons dash part stretches parts hdash _ ih =>
    obtain ⟨hplus, hlength⟩ := hdash
    -- the next place is behind the cell, and the rest of the line is read from there
    have hrest := ih (front ++ '|' :: part)
    have hnext : (front ++ '|' :: part).length = front.length + 1 + dash.length := by
      simp only [List.length_append, List.length_cons]
      omega
    obtain ⟨later, hlater⟩ := idxsOf_fenced stretches (front.length + 1 + dash.length)
    rw [hnext, hlater] at hrest
    have hline : front ++ fenced '|' (part :: parts) = front ++ '|' :: part ++ fenced '|' parts := by simp [fenced]
    have hmarks : (fenced '+' (dash :: stretches)).idxsOf '+' front.length =
        front.length :: (front.length + 1 + dash.length) :: later := by
      rw [fenced, List.idxsOf_cons, if_pos (by decide), idxsOf_append_of_not_mem hplus, hlater]
    have hpart : ((front ++ '|' :: part ++ fenced '|' parts).drop (front.length + 1)).take
        (front.length + 1 + dash.length - (front.length + 1)) = part := by
      have hfront : front ++ '|' :: part ++ fenced '|' parts = (front ++ ['|']) ++ (part ++ fenced '|' parts) := by simp
      rw [hfront, List.drop_left' (by simp), Nat.add_sub_cancel_left, hlength, List.take_left]
    rw [hmarks, between, hline, hpart, hrest]

/-- Below the places of the plus signs in the border the cells are read, but for the spaces at their ends. -/
def ReadsAs (border line : List Char) (cells : List String) : Prop :=
  ∀ (i : Nat) (text : String), cells[i]? = some text → (readCells border line)[i]? = some (withoutSpaces text.toList)

theorem readsAs_line (h : Fits widths cells) : ReadsAs (border widths).toList (line widths cells).toList cells := by
  intro i text htext
  obtain ⟨width, hwidth, -⟩ : ∃ width, widths[i]? = some width ∧ text.length ≤ width := by
    have hsame := List.Forall₂.length_eq h
    obtain ⟨hi, rfl⟩ := List.getElem?_eq_some_iff.1 htext
    exact ⟨widths[i], List.getElem?_eq_getElem _, List.Forall₂.get h (by omega) hi⟩
  have hpart : (paddedCells widths cells)[i]? = some (cell text width).toList :=
    List.getElem?_zipWith_eq_some.2 ⟨text, width, htext, hwidth, rfl⟩
  have hwidths : widths ≠ [] := by
    rintro rfl
    simp at hwidth
  have hparts : paddedCells widths cells ≠ [] := by
    intro hnil
    simp [hnil] at hpart
  have hbetween := between_fenced (length_dashes_paddedCells h) []
  rw [List.nil_append, List.length_nil] at hbetween
  rw [readCells, toList_border hwidths, toList_line hparts, hbetween, List.getElem?_map, hpart, Option.map_some,
    toList_cell, List.tail_cons, withoutSpaces_append]

/-- A line is as long as the border. -/
theorem length_line (h : Fits widths cells) : (line widths cells).toList.length = (border widths).toList.length := by
  cases h with
  | nil => rfl
  | cons hfirst hothers =>
    rw [toList_border (by simp), toList_line (by simp [paddedCells])]
    refine (length_fenced ?_).symm
    exact List.Forall₂.imp (fun _ _ hpart => hpart.2) (length_dashes_paddedCells (.cons hfirst hothers))

/-- Besides its edges and blanks a line has the characters of its cells only. -/
theorem mem_line {c : Char} (h : c ∈ (line widths cells).toList) :
    c ∈ "+-| ".toList ∨ ∃ text ∈ cells, c ∈ text.toList := by
  by_cases hparts : paddedCells widths cells = []
  · have hcells : cells.zipWith cell widths = [] := by simpa [paddedCells] using hparts
    have hedges : (line widths cells).toList.all ("+-| ".toList.contains ·) = true := by
      rw [line, hcells]
      decide
    exact Or.inl (List.contains_iff_mem.1 (List.all_eq_true.1 hedges c h))
  · rw [toList_line hparts, mem_fenced_iff] at h
    rcases h with rfl | ⟨part, hpart, h⟩
    · exact Or.inl (by decide)
    · obtain ⟨i, hi⟩ := List.mem_iff_getElem?.1 hpart
      obtain ⟨text, width, htext, -, rfl⟩ := List.getElem?_zipWith_eq_some.1 hi
      rw [toList_cell, List.mem_cons, List.mem_append, List.mem_replicate] at h
      rcases h with rfl | h | ⟨-, rfl⟩
      · exact Or.inl (by decide)
      · exact Or.inr ⟨text, List.mem_of_getElem? htext, h⟩
      · exact Or.inl (by decide)

theorem mem_border {c : Char} (h : c ∈ (border widths).toList) : c ∈ "+-| ".toList := by
  by_cases hwidths : widths = []
  · subst hwidths
    have hedges : (border []).toList.all ("+-| ".toList.contains ·) = true := by decide
    exact List.contains_iff_mem.1 (List.all_eq_true.1 hedges c h)
  · rw [toList_border hwidths, mem_fenced_iff] at h
    rcases h with rfl | ⟨stretch, hstretch, h⟩
    · decide
    · obtain ⟨width, -, rfl⟩ := List.mem_map.1 hstretch
      rw [List.eq_of_mem_replicate h]
      decide

private theorem mem_lines_iff {t : Table} {l : String} :
    l ∈ t.lines ↔ l = border t.widths ∨ ∃ cells ∈ t.headers :: t.rows, l = line t.widths cells := by
  simp only [lines, List.cons_append, List.nil_append, List.mem_cons, List.mem_append, List.mem_map, List.not_mem_nil,
    or_false, exists_eq_or_imp]
  grind

/-- A table cannot be written exactly if a row has more cells than there are columns.  If every row has a cell for every
column, and there is no line feed in the cells, the text has four lines more than there are rows.  They are equally long,
nothing stands in them but edges, blanks and the characters of the cells, and below the places of the plus signs in the
border the headers and the cells of every row are read. -/
theorem render?_readsBack (t : Table) :
    (t.render? = none ↔ ∃ row ∈ t.rows, t.headers.length < row.length) ∧
    ((∀ row ∈ t.rows, row.length = t.headers.length) →
      (∀ text ∈ t.headers ++ t.rows.flatten, '\n' ∉ text.toList) →
      ∃ text border header shown, t.render? = some text ∧
        Text.splitOn '\n' text.toList = [border, header, border] ++ shown ++ [border] ∧
        (Text.splitOn '\n' text.toList).length = 4 + t.rows.length ∧
        (∀ line ∈ Text.splitOn '\n' text.toList, line.length = border.length ∧
          ∀ c ∈ line, c ∈ "+-| ".toList ∨ ∃ text ∈ t.headers ++ t.rows.flatten, c ∈ text.toList) ∧
        ReadsAs border header t.headers ∧ List.Forall₂ (ReadsAs border) shown t.rows) := by
  refine ⟨render?_eq_none_iff, fun hrows hbreaks => ?_⟩
  have hrect : t.isRectangular = true :=
    List.all_eq_true.2 fun row hrow => decide_eq_true (hrows row hrow).le
  have hwidths := foldlM_widened?_widths t
  rw [if_pos hrect] at hwidths
  obtain ⟨-, hkept, hfits⟩ := fits_of_foldlM_widened? hwidths
  have hfitting : ∀ cells ∈ t.headers :: t.rows, Fits t.widths cells :=
    List.forall_mem_cons.2 ⟨hkept _ (fits_headers t.headers), fun row hrow => hfits row hrow (by simp [hrows row hrow])⟩
  have htexts : ∀ cells ∈ t.headers :: t.rows, ∀ text ∈ cells, text ∈ t.headers ++ t.rows.flatten :=
    List.forall_mem_cons.2 ⟨fun text => List.mem_append_left _, fun row hrow text htext =>
      List.mem_append_right _ (List.mem_flatten_of_mem hrow htext)⟩
  -- what is said of lines, said of the border and of the lines of cells
  have hlines : ∀ l ∈ t.lines, l.toList.length = (border t.widths).toList.length ∧
      ∀ c ∈ l.toList, c ∈ "+-| ".toList ∨ ∃ text ∈ t.headers ++ t.rows.flatten, c ∈ text.toList := by
    intro l hl
    rcases mem_lines_iff.1 hl with rfl | ⟨cells, hcells, rfl⟩
    · exact ⟨rfl, fun c hc => Or.inl (mem_border hc)⟩
    · refine ⟨length_line (hfitting cells hcells), fun c hc => (mem_line hc).imp_right ?_⟩
      exact fun ⟨text, htext, hc⟩ => ⟨text, htexts cells hcells text htext, hc⟩
  have hsplit : Text.splitOn '\n' t.text.toList = t.lines.map String.toList := by
    rw [text, String.toList_intercalate]
    refine Text.splitOn_intercalate (by simp [lines]) (List.forall_mem_map.2 fun l hl hbreak => ?_)
    rcases (hlines l hl).2 '\n' hbreak with hedge | ⟨text, htext, hbreak⟩
    · exact absurd hedge (by decide)
    · exact hbreaks text htext hbreak
  refine ⟨t.text, (border t.widths).toList, (line t.widths t.headers).toList,
    t.rows.map fun row => (line t.widths row).toList, if_pos hrect, ?_, ?_, ?_, ?_, ?_⟩
  · simp [hsplit, lines, Function.comp_def]
  · simp only [hsplit, lines, List.length_map, List.length_append, List.length_cons, List.length_nil]
    omega
  · exact hsplit ▸ List.forall_mem_map.2 hlines
  · exact readsAs_line (hfitting _ List.mem_cons_self)
  · exact List.forall₂_map_left_iff.2 (List.forall₂_same.2 fun row hrow =>
      readsAs_line (hfitting row (List.mem_cons_of_mem _ hrow)))

/-- Of cells that look like edges, and of a row with a cell too many. -/
theorem render?_readsBack_of_signs :
    (⟨["a"], [["b", "c"]]⟩ : Table).render? = none ∧
    ∃ text border header first second,
      (⟨["a|b", "+"], [["", "x + y "], ["|", "z"]]⟩ : Table).render? = some text ∧
      Text.splitOn '\n' text.toList = [border, header, border, first, second, border] ∧
      header.length = border.length ∧ second.length = border.length ∧
      (readCells border header)[0]? = some "a|b".toList ∧ (readCells border header)[1]? = some "+".toList ∧
      (readCells border first)[1]? = some "x + y".toList ∧ (readCells border second)[0]? = some "|".toList := by
  have hmissing := (render?_readsBack ⟨["a"], [["b", "c"]]⟩).1.2 ⟨_, List.mem_singleton_self _, by decide⟩
  obtain ⟨text, border, header, shown, htext, hsplit, -, hlines, hheader, hshown⟩ :=
    (render?_readsBack ⟨["a|b", "+"], [["", "x + y "], ["|", "z"]]⟩).2 (by decide) (by decide)
  match shown, hshown with
  | [first, second], .cons hfirst (.cons hsecond .nil) =>
    refine ⟨hmissing, text, border, header, first, second, htext, hsplit, ?_, ?_, ?_, ?_, ?_, ?_⟩
    · exact (hlines header (hsplit ▸ by simp)).1
    · exact (hlines second (hsplit ▸ by simp)).1
    · exact hheader 0 "a|b" rfl
    · exact hheader 1 "+" rfl
    · exact hfirst 1 "x + y " rfl
    · exact hsecond 0 "|" rfl

end Table

end CrudScaffold
