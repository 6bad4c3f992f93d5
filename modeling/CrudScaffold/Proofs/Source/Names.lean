import CrudScaffold.Proofs.Artifact.Registration
import CrudScaffold.Proofs.Text.LineBreak
import CrudScaffold.Source.Expr

/-!
# Names that lines bind

What the lines of a text bind at the top level, read from the text itself: an import binds the names that it takes, or
those that it gives to them, and an assignment binds the name on its left.  Of several lines that bind one name it is
the last one that counts (`lastBinder`).
-/

namespace CrudScaffold

namespace Text

/-! ### Texts from their lines -/

/-- The lines of a text in which each line is ended. -/
theorem lines_join {ls : List String} (h : ∀ l ∈ ls, IsLine l) :
    lines (String.join (ls.map (· ++ "\n"))) = ls ++ [""] := by
  induction ls with
  | nil => rfl
  | cons l ls ih =>
    rw [List.forall_mem_cons] at h
    have hlines := ih h.2
    rw [lines] at hlines ⊢
    have htext : (String.join ((l :: ls).map (· ++ "\n"))).toList =
        l.toList ++ '\n' :: (String.join (ls.map (· ++ "\n"))).toList := by
      simp
    rw [htext, splitOn_append_cons, splitOn_of_not_mem h.1.feed, List.map_append, hlines]
    simp

end Text

namespace Source

/-! ### Words of code -/

/-- The words of a line of code. They are separated by blanks and commas, and a comment is left out. -/
def codeWords (line : String) : List String :=
  let code := (line.toList.takeWhile (· != '#')).map fun c => if c = ',' then ' ' else c
  ((Text.splitOn ' ' code).filter (!·.isEmpty)).map String.ofList

/-- No character that ends a word. -/
def IsUnbroken (s : String) : Prop := ∀ c ∈ s.toList, c ≠ ' ' ∧ c ≠ ',' ∧ c ≠ '#'

theorem isUnbroken_of_all {s : String} (h : s.toList.all (fun c => c != ' ' && c != ',' && c != '#') = true) :
    IsUnbroken s := by
  intro c hc
  simpa [and_assoc] using List.all_eq_true.1 h c hc

/-- Names and dotted names are not broken. -/
theorem isUnbroken_of_forall {s : String} (h : ∀ c ∈ s.toList, c = '.' ∨ Text.isIdentChar c = true) :
    IsUnbroken s := by
  intro c hc
  refine ⟨?_, ?_, ?_⟩ <;> rintro rfl <;> exact absurd (h _ hc) (by decide)

theorem IsUnbroken.append {a b : String} (ha : IsUnbroken a) (hb : IsUnbroken b) : IsUnbroken (a ++ b) := by
  intro c hc
  rw [String.toList_append] at hc
  exact (List.mem_append.1 hc).elim (ha c) (hb c)

/-- What is joined by blanks are the words of the line, whatever comment follows. -/
theorem codeWords_intercalate {pieces : List String} (hne : pieces ≠ []) (h : ∀ p ∈ pieces, IsUnbroken p)
    {comment : String} (hcomment : comment.toList.head?.all (· = '#') = true) :
    codeWords (" ".intercalate pieces ++ comment) = pieces.filter (· ≠ "") := by
  have hcode : (" ".intercalate pieces).toList = [' '].intercalate (pieces.map String.toList) :=
    String.toList_intercalate
  have hchars : ∀ c ∈ (" ".intercalate pieces).toList, c ≠ ',' ∧ c ≠ '#' := by
    intro c hc
    rw [hcode] at hc
    rcases Naming.mem_joined hc with hc | ⟨_, hpiece, hc⟩
    · rw [List.mem_singleton.1 hc]
      decide
    · obtain ⟨p, hp, rfl⟩ := List.mem_map.1 hpiece
      exact (h p hp c hc).2
  have htake : (" ".intercalate pieces ++ comment).toList.takeWhile (· != '#') =
      (" ".intercalate pieces).toList := by
    have hnone : comment.toList.takeWhile (· != '#') = [] := by
      cases hc : comment.toList with
      | nil => rfl
      | cons c cs =>
        rw [hc] at hcomment
        have hfirst : c = '#' := by simpa using hcomment
        simp [hfirst]
    rw [String.toList_append, List.takeWhile_append_of_pos fun c hc => by simpa using (hchars c hc).2, hnone,
      List.append_nil]
  have hcommas : ((" ".intercalate pieces).toList.map fun c => if c = ',' then ' ' else c) =
      (" ".intercalate pieces).toList :=
    (List.map_congr_left fun c hc => if_neg (hchars c hc).1).trans (List.map_id' _)
  have hsplit : Text.splitOn ' ' (" ".intercalate pieces).toList = pieces.map String.toList := by
    rw [hcode]
    refine Text.splitOn_intercalate (by simpa using hne) fun part hpart => ?_
    obtain ⟨p, hp, rfl⟩ := List.mem_map.1 hpart
    exact fun hblank => (h p hp _ hblank).1 rfl
  have hwords (p : String) : (!p.toList.isEmpty) = decide (p ≠ "") := by
    rw [Bool.eq_iff_iff]
    simp
  rw [codeWords, htake]
  simp only [hcommas, hsplit, List.filter_map, List.map_map, Function.comp_def, hwords, String.ofList_toList,
    List.map_id']

/-! ### Names -/

/-- The names that things are given: the one after `as`, or else the thing's own. -/
def givenNames : List String → List String
  | _ :: "as" :: name :: rest => name :: givenNames rest
  | thing :: rest => thing :: givenNames rest
  | [] => []

/-- The names that a line at the top level binds: those of an import, or the one that it assigns to. -/
def lineNames (line : String) : List String :=
  match codeWords line with
  | "from" :: _ :: "import" :: things => givenNames things
  | "import" :: modules => (givenNames modules).map headName
  | name :: "=" :: _ => [name]
  | _ => []

/-- The names that the lines of a text bind, in order. -/
def boundNames (text : String) : List String :=
  (Text.lines (Text.translated text)).flatMap lineNames

/-- The last of the lines that binds a name. -/
def lastBinder (name : String) (lines : List String) : Option String :=
  lines.reverse.find? fun line => (lineNames line).contains name

variable {name : String} {before after : List String}

theorem lastBinder_append (name : String) (before after : List String) :
    lastBinder name (before ++ after) = (lastBinder name after).or (lastBinder name before) := by
  rw [lastBinder, List.reverse_append, List.find?_append]
  rfl

theorem lastBinder_eq_none (h : ∀ line ∈ after, name ∉ lineNames line) : lastBinder name after = none := by
  refine List.find?_eq_none.2 fun line hline => ?_
  simpa using h line (List.mem_reverse.1 hline)

end Source

end CrudScaffold
