import CrudScaffold.Proofs.Outcome
import CrudScaffold.Proofs.Schema.Words

/-!
# Reading modifiers

A trimmed and nested text is read as a modifier exactly when the modifier is well formed and the text spells it
(`parseModifier_eq_ok_iff`).  A list of such texts is read one by one, and no kind may come twice.
-/

namespace CrudScaffold

open Nesting
open Text (Blanks Padded Trimmed isBlank isIdentChar)

/-! ### Walks over calls -/

/-- A call is nested when its argument with nothing but the parentheses around it is. -/
private theorem nested_call_iff {word gap l core r : List Char} (hw : isIdentChars word = true)
    (hgap : Blanks gap) (hl : Blanks l) (hr : Blanks r) :
    Nested isSchemaSeparator (word ++ gap ++ '(' :: (l ++ core ++ r ++ [')'])) ↔
      Nested isSchemaSeparator ('(' :: (core ++ [')'])) := by
  have hword := walk_of_isIdentChar (forall_isIdentChar hw) 0
  have hblank {cs : List Char} (h : Blanks cs) (d : Nat) : walk isSchemaSeparator ⟨none, d⟩ cs = some ⟨none, d⟩ :=
    walk_of_blanks (fun _ => isSchemaSeparator_of_isBlank) h d
  have hcore (n : Nesting) (h : walk isSchemaSeparator ⟨none, 1⟩ core = some n) :
      walk isSchemaSeparator n r = some n :=
    walk_of_blanks_anywhere (fun _ => isSchemaSeparator_of_isBlank)
      (wellQuoted_walk (by simp [Nesting.WellQuoted]) h) hr
  have hwalk : walk isSchemaSeparator outside (word ++ gap ++ '(' :: (l ++ core ++ r ++ [')'])) =
      walk isSchemaSeparator outside ('(' :: (core ++ [')'])) := by
    unfold outside
    simp only [walk_append, hword, hblank hgap, walk_cons, next?_opening, Option.bind_some, hblank hl]
    cases h : walk isSchemaSeparator ⟨none, 1⟩ core with
    | none => rfl
    | some n => simp [hcore n h]
  rw [← walk_iff_nested, ← walk_iff_nested, hwalk]

/-- Ordinary characters in parentheses are nested. -/
private theorem nested_of_ordinary {cs : List Char} (h : ∀ c ∈ cs, Ordinary c) :
    Nested isSchemaSeparator ('(' :: (cs ++ [')'])) := by
  rw [← walk_iff_nested]
  simp [outside, walk_of_ordinary_inside h 0]

/-! ### One modifier -/

theorem ofWord?_eq_some_iff {word : String} {kind : ModifierKind} :
    ModifierKind.ofWord? word = some kind ↔ kind.word = word := by
  have hall : ∀ k : ModifierKind, ModifierKind.ofWord? k.word = some k := by intro k; cases k <;> decide
  constructor
  · intro h
    simpa using List.find?_some h
  · rintro rfl
    exact hall kind

private theorem ordinary_of_target {cs : List Char} (h : IsTarget cs) : ∀ c ∈ cs, Ordinary c := by
  rcases h with h | ⟨table, column, ht, hc, rfl⟩
  · exact fun c hc => ordinary_of_isIdentChar (forall_isIdentChar h c hc)
  · intro c hmem
    simp only [List.mem_append, List.mem_cons] at hmem
    rcases hmem with hmem | rfl | hmem
    · exact ordinary_of_isIdentChar (forall_isIdentChar ht c hmem)
    · exact ⟨rfl, by decide, by decide⟩
    · exact ordinary_of_isIdentChar (forall_isIdentChar hc c hmem)

private theorem trimmed_of_target {cs : List Char} (h : IsTarget cs) : Trimmed cs := by
  refine Text.trimmed_of_forall fun c hmem => ?_
  rcases h with h | ⟨table, column, ht, hc, rfl⟩
  · exact isBlank_of_isIdentChar (forall_isIdentChar h c hmem)
  · simp only [List.mem_append, List.mem_cons] at hmem
    rcases hmem with hmem | rfl | hmem
    · exact isBlank_of_isIdentChar (forall_isIdentChar ht c hmem)
    · decide
    · exact isBlank_of_isIdentChar (forall_isIdentChar hc c hmem)

private theorem ne_nil_of_target {cs : List Char} (h : IsTarget cs) : cs ≠ [] := by
  rcases h with h | ⟨table, column, -, -, rfl⟩
  · exact ne_nil_of_isIdentChars h
  · simp

/-- What the text between the parentheses of a modifier has to be. -/
private def ReadsArgument (kind : ModifierKind) (core : List Char) (argument : String) : Prop :=
  core ≠ [] ∧ (kind = .references → IsTarget core) ∧
    if kind = .onDelete then argument = Text.lowercase (.ofList core) ∧ argument ∈ deleteActions.map Prod.fst
    else argument = .ofList core

private theorem isNone_lookup_action {action : String} :
    (deleteActions.lookup action).isNone = true ↔ action ∉ deleteActions.map Prod.fst := by
  rw [Option.isNone_iff_eq_none, List.lookup_eq_none_iff]
  simp only [List.mem_map, not_exists, not_and, bne_iff_ne, ne_eq]
  exact ⟨fun h e he hea => h e he hea.symm, fun h e he hea => h e he hea.symm⟩

/-- The argument of a modifier that takes one, read from the text between its parentheses. -/
private def readArgument (kind : ModifierKind) (word : String) (core : List Char) : Except SchemaFault String :=
  if core.isEmpty then .error (.missingArgument word)
  else if kind = .references ∧ !Schema.isReference core then .error (.malformedReference (.ofList core))
  else if kind = .onDelete then
    if (deleteActions.lookup (Text.lowercase (.ofList core))).isNone then
      .error (.unknownAction (Text.lowercase (.ofList core)))
    else .ok (Text.lowercase (.ofList core))
  else .ok (.ofList core)

private theorem readArgument_eq_ok_iff {kind : ModifierKind} {word argument : String} {core : List Char} :
    readArgument kind word core = .ok argument ↔ ReadsArgument kind core argument := by
  have hreference : ¬ (kind = .references ∧ (!Schema.isReference core) = true) ↔
      (kind = .references → IsTarget core) := by
    rw [not_and, Bool.not_eq_true', Bool.not_eq_false, isReference_iff]
  unfold readArgument ReadsArgument
  simp only [refuse_eq_ok_iff, List.isEmpty_iff, hreference]
  refine and_congr_right fun _ => and_congr_right fun _ => ?_
  by_cases haction : kind = .onDelete
  · simp only [haction, if_true, refuse_eq_ok_iff, isNone_lookup_action, not_not, Except.ok.injEq]
    constructor
    · rintro ⟨hknown, rfl⟩
      exact ⟨rfl, hknown⟩
    · rintro ⟨rfl, hknown⟩
      exact ⟨hknown, rfl⟩
  · simp only [haction, if_false, Except.ok.injEq]
    exact eq_comm

/-- The reader in terms of the raw modifier. -/
private theorem parseModifier_of_raw {cs : List Char} {raw : Schema.RawModifier}
    (hraw : Schema.rawModifier? cs = some raw) :
    Schema.parseModifier cs = match ModifierKind.ofWord? (Text.lowercase raw.word) with
      | none => .error (.unknownModifier (Text.lowercase raw.word))
      | some kind =>
        if kind.isFlag then
          if raw.argument.isSome then .error (.needlessArgument (Text.lowercase raw.word)) else .ok ⟨kind, none⟩
        else
          (readArgument kind (Text.lowercase raw.word) (Text.trim (raw.argument.getD []))).map
            fun argument => ⟨kind, some argument⟩ := by
  have hne : cs.isEmpty = false := by
    cases cs with
    | nil => simp [Schema.rawModifier?, isIdentChars] at hraw
    | cons c cs => rfl
  unfold Schema.parseModifier readArgument
  simp only [bind, Except.bind, throw, throwThe, MonadExceptOf.throw, pure, Except.pure, hne, hraw, Except.map,
    Bool.false_eq_true, if_false]
  cases ModifierKind.ofWord? (Text.lowercase raw.word) with
  | none => rfl
  | some kind =>
    simp only
    split
    · split <;> rfl
    · split
      · rfl
      split
      · rfl
      split
      · split <;> rfl
      · rfl

private theorem parseModifier_of_no_raw {cs : List Char} (hraw : Schema.rawModifier? cs = none) (m : Modifier) :
    Schema.parseModifier cs ≠ .ok m := by
  unfold Schema.parseModifier
  simp only [bind, Except.bind, throw, throwThe, MonadExceptOf.throw, hraw]
  split <;> simp

private theorem parseModifier_eq_ok_iff_raw {cs : List Char} {m : Modifier} :
    Schema.parseModifier cs = .ok m ↔
      ∃ word argument, Schema.rawModifier? cs = some ⟨.ofList word, argument⟩ ∧ InSomeCase m.kind.word word ∧
        if m.kind.isFlag then argument = none ∧ m.argument = none
        else ∃ inside given, argument = some inside ∧ m.argument = some given ∧
          ReadsArgument m.kind (Text.trim inside) given := by
  obtain ⟨kind, argument⟩ := m
  simp only [inSomeCase_iff]
  constructor
  · intro h
    cases hraw : Schema.rawModifier? cs with
    | none => exact absurd h (parseModifier_of_no_raw hraw _)
    | some raw =>
      obtain ⟨word, given⟩ := raw
      rw [parseModifier_of_raw hraw] at h
      refine ⟨word.toList, given, by rw [String.ofList_toList], ?_⟩
      cases hkind : ModifierKind.ofWord? (Text.lowercase word) with
      | none => simp [hkind] at h
      | some read =>
        have hword := ofWord?_eq_some_iff.1 hkind
        simp only [hkind] at h
        rw [String.ofList_toList, ← hword]
        by_cases hflag : read.isFlag = true
        · rw [if_pos hflag, refuse_eq_ok_iff, Option.not_isSome_iff_eq_none] at h
          obtain ⟨rfl, hm⟩ := h
          obtain ⟨rfl, rfl⟩ := Modifier.mk.inj (Except.ok.inj hm)
          exact ⟨rfl, by rw [if_pos hflag]; exact ⟨rfl, rfl⟩⟩
        · rw [if_neg hflag, map_eq_ok_iff] at h
          obtain ⟨text, hread, hm⟩ := h
          obtain ⟨rfl, rfl⟩ := Modifier.mk.inj hm
          rw [readArgument_eq_ok_iff] at hread
          refine ⟨rfl, ?_⟩
          rw [if_neg hflag]
          cases given with
          | none => exact absurd (Text.trim_eq_nil_iff.2 Text.blanks_nil) hread.1
          | some inside => exact ⟨inside, text, rfl, rfl, hread⟩
  · rintro ⟨word, given, hraw, hword, hrest⟩
    rw [parseModifier_of_raw hraw, ofWord?_eq_some_iff.2 hword.symm]
    simp only
    by_cases hflag : kind.isFlag = true
    · rw [if_pos hflag] at hrest ⊢
      obtain ⟨rfl, rfl⟩ := hrest
      rfl
    · rw [if_neg hflag] at hrest ⊢
      obtain ⟨inside, text, rfl, rfl, hread⟩ := hrest
      exact map_eq_ok_iff.2 ⟨text, readArgument_eq_ok_iff.2 hread, rfl⟩

/-- A call begins with a letter and ends with a parenthesis. -/
private theorem trimmed_call {word gap l inside r : List Char} (hw : isIdentChars word = true) :
    Trimmed (word ++ gap ++ '(' :: (l ++ inside ++ r ++ [')'])) := by
  constructor
  · intro c hc
    obtain ⟨d, rest, rfl, -, -⟩ := isIdentChars_iff.1 hw
    obtain rfl : d = c := by simpa using hc
    exact isBlank_of_isIdentChar (forall_isIdentChar hw d (by simp))
  · intro c hc
    have hlast : word ++ gap ++ '(' :: (l ++ inside ++ r ++ [')']) =
        (word ++ gap ++ '(' :: (l ++ inside ++ r)) ++ [')'] := by simp
    rw [hlast, List.getLast?_concat, Option.some.injEq] at hc
    exact hc ▸ by decide

private theorem wellFormed_flag {kind : ModifierKind} (h : kind.isFlag = true) :
    Modifier.WellFormed ⟨kind, none⟩ := by
  cases kind <;> simp_all [ModifierKind.isFlag, Modifier.WellFormed]

/-- Well-formed arguments are the ones that are read, apart from what encloses a default. -/
private theorem readsArgument_iff {kind : ModifierKind} (hkind : ¬ kind.isFlag = true) {core : List Char}
    {argument : String} :
    (Trimmed core ∧ ReadsArgument kind core argument ∧ Nested isSchemaSeparator ('(' :: (core ++ [')']))) ↔
      Modifier.WellFormed ⟨kind, some argument⟩ ∧ Modifier.ArgumentSpelledAs kind argument core := by
  have hlist : argument = .ofList core ↔ core = argument.toList := by
    rw [← String.toList_inj, String.toList_ofList, eq_comm]
  unfold ReadsArgument Modifier.ArgumentSpelledAs
  cases kind with
  | nullable | unique | index | unsigned => exact absurd rfl hkind
  | default =>
    simp only [reduceCtorEq, if_false, false_implies, true_and, Modifier.WellFormed, hlist]
    constructor
    · rintro ⟨htrim, ⟨hne, rfl⟩, hnested⟩
      exact ⟨⟨by rintro rfl; exact hne rfl, htrim, hnested⟩, rfl⟩
    · rintro ⟨⟨hne, htrim, hnested⟩, rfl⟩
      exact ⟨htrim, ⟨fun h => hne (String.toList_eq_nil_iff.1 h), rfl⟩, hnested⟩
  | references =>
    simp only [reduceCtorEq, if_false, true_implies, Modifier.WellFormed, hlist]
    constructor
    · rintro ⟨-, ⟨-, htarget, rfl⟩, -⟩
      exact ⟨htarget, rfl⟩
    · rintro ⟨htarget, rfl⟩
      exact ⟨trimmed_of_target htarget, ⟨ne_nil_of_target htarget, htarget, rfl⟩,
        nested_of_ordinary (ordinary_of_target htarget)⟩
  | onDelete =>
    simp only [reduceCtorEq, if_true, false_implies, true_and, Modifier.WellFormed, inSomeCase_iff]
    constructor
    · rintro ⟨-, ⟨-, rfl, hknown⟩, -⟩
      exact ⟨hknown, rfl⟩
    · rintro ⟨hknown, rfl⟩
      have haction := isIdentChars_of_action hknown (inSomeCase_iff.2 rfl)
      have hident := forall_isIdentChar haction
      exact ⟨trimmed_of_forall_isIdentChar hident, ⟨ne_nil_of_isIdentChars haction, rfl, hknown⟩,
        nested_of_ordinary fun c hc => ordinary_of_isIdentChar (hident c hc)⟩

/-- A trimmed and nested text is read as a modifier exactly when it spells a well-formed one. -/
theorem parseModifier_eq_ok_iff {cs : List Char} {m : Modifier} :
    (Trimmed cs ∧ Schema.parseModifier cs = .ok m ∧ Nested isSchemaSeparator cs) ↔ m.WellFormed ∧ m.SpelledAs cs := by
  obtain ⟨kind, argument⟩ := m
  rw [parseModifier_eq_ok_iff_raw]
  simp only
  constructor
  · rintro ⟨htrim, ⟨word, given, hraw, hword, hread⟩, hnested⟩
    obtain ⟨hw, gap, hgap, rfl⟩ := rawModifier?_eq_some_iff.1 hraw
    by_cases hflag : kind.isFlag = true
    · simp only [hflag, if_true] at hread
      obtain ⟨rfl, rfl⟩ := hread
      -- blanks after the word would be blanks at the end of the text
      obtain rfl : gap = [] := by
        have := Text.trim_of_padded htrim (Text.padded_self _)
        rw [Text.trim_of_padded (trimmed_of_forall_isIdentChar (forall_isIdentChar hw))
          ⟨[], gap, Text.blanks_nil, hgap, by simp⟩] at this
        simpa using this
      simp only [Option.elim_none, List.append_nil]
      exact ⟨wellFormed_flag hflag, .word hword⟩
    · simp only [hflag, Bool.false_eq_true, if_false] at hread
      obtain ⟨inside, argument, rfl, rfl, hargument⟩ := hread
      obtain ⟨l, r, hl, hr, hinside⟩ := Text.padded_trim inside
      simp only [Option.elim_some] at hnested ⊢
      rw [hinside] at hnested ⊢
      obtain ⟨hwell, hspelled⟩ := (readsArgument_iff hflag).1
        ⟨Text.trimmed_trim inside, hargument, (nested_call_iff hw hgap hl hr).1 hnested⟩
      exact ⟨hwell, .call hword hgap hl hr hspelled⟩
  · rintro ⟨hwell, hspelled⟩
    cases hspelled with
    | word hword =>
      have hw := isIdentChars_of_kind hword
      have hflag : kind.isFlag = true := by cases kind <;> first | rfl | simp [Modifier.WellFormed] at hwell
      refine ⟨trimmed_of_forall_isIdentChar (forall_isIdentChar hw), ⟨cs, none, ?_, hword, by simp [hflag]⟩, ?_⟩
      · exact rawModifier?_eq_some_iff.2 ⟨hw, [], Text.blanks_nil, by simp⟩
      · exact walk_iff_nested.1 (walk_of_isIdentChar (forall_isIdentChar hw) 0)
    | @call _ argument word gap l inside r hword hgap hl hr hargument =>
      have hw := isIdentChars_of_kind hword
      have hflag : ¬ kind.isFlag = true := by
        intro h
        cases kind <;> first | exact absurd h (by decide) | simp [Modifier.WellFormed] at hwell
      obtain ⟨htrim, hread, hnested⟩ := (readsArgument_iff hflag).2 ⟨hwell, hargument⟩
      have hcall := (nested_call_iff hw hgap hl hr).2 hnested
      refine ⟨trimmed_call hw, ⟨word, some (l ++ inside ++ r), ?_, hword, ?_⟩, hcall⟩
      · exact rawModifier?_eq_some_iff.2 ⟨hw, gap, hgap, by simp⟩
      · simp only [hflag, Bool.false_eq_true, if_false]
        exact ⟨_, argument, rfl, rfl, (Text.trim_of_padded htrim ⟨l, r, hl, hr, rfl⟩).symm ▸ hread⟩

/-! ### Parts one by one -/

/-- Every part is read, and no two have one key. -/
theorem readDistinct_eq_ok_iff {α β κ ε : Type} [BEq κ] [LawfulBEq κ] {read : α → Except ε β} {key : β → κ}
    {repeated : α → β → ε} {seen : List κ} {parts : List α} {bs : List β} :
    Schema.readDistinct read key repeated seen parts = .ok bs ↔
      List.Forall₂ (fun b part => read part = .ok b) bs parts ∧
        (bs.map key).Nodup ∧ ∀ k ∈ seen, k ∉ bs.map key := by
  induction parts generalizing seen bs with
  | nil => cases bs <;> simp [Schema.readDistinct]
  | cons part parts ih =>
    have hstep : Schema.readDistinct read key repeated seen (part :: parts) = .ok bs ↔
        ∃ b, read part = .ok b ∧ key b ∉ seen ∧
          ∃ rest, Schema.readDistinct read key repeated (key b :: seen) parts = .ok rest ∧ b :: rest = bs := by
      rw [Schema.readDistinct, bind_eq_ok_iff]
      refine exists_congr fun b => and_congr_right fun _ => ?_
      simp only [throw, throwThe, MonadExceptOf.throw, pure, Except.pure, List.contains_iff_mem]
      by_cases hseen : key b ∈ seen
      · simp [hseen, bind, Except.bind]
      · simp only [hseen, if_false, not_false_eq_true, true_and]
        rw [bind_eq_ok_iff]
        simp only [Except.ok.injEq]
    rw [hstep]
    cases bs with
    | nil => simp
    | cons b bs =>
      simp only [ih, List.cons.injEq, List.forall₂_cons, List.map_cons, List.nodup_cons, List.mem_cons,
        forall_eq_or_imp, not_or]
      constructor
      · rintro ⟨b, hb, hseen, bs, ⟨hrest, hnodup, hkey, hother⟩, rfl, rfl⟩
        exact ⟨⟨hb, hrest⟩, ⟨hkey, hnodup⟩, fun k hk => ⟨fun h => hseen (h ▸ hk), hother k hk⟩⟩
      · rintro ⟨⟨hb, hrest⟩, ⟨hkey, hnodup⟩, hother⟩
        exact ⟨b, hb, fun h => (hother _ h).1 rfl, bs, ⟨hrest, hnodup, hkey, fun k hk => (hother k hk).2⟩, rfl, rfl⟩

end CrudScaffold
