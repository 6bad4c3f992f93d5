import CrudScaffold.Proofs.Schema.Fields
import CrudScaffold.Proofs.Text.OneLine

/-!
# What messages about schemas quote

The message about a schema that cannot be read quotes the stretch of it that the fault was found in, and often a
part of that stretch once more.  All else in the message is fixed, so the message has a line break exactly if the
stretch has one (`SchemaError.oneLine_message_iff`).
-/

namespace CrudScaffold

open Text (OneLine oneLine_append_iff oneLine_append_iff_left oneLine_between_iff oneLine_lowercase)

variable {separator : Char} {cs : List Char}

/-! ### Messages of faults -/

/-- What the message of a fault quotes. -/
def SchemaFault.quoted : SchemaFault → String
  | invalidName name | reservedName name | implicitName name | shadowingName name | repeatedName name
  | untyped name => name
  | unknownType word | unknownModifier word | needlessArgument word | missingArgument word => word
  | malformedModifier text => text
  | malformedReference target => target
  | unknownAction action => action
  | imbalance (.quoted quote) => quote.toString
  | imbalance .closed | imbalance .opened | emptyField | unnamed | emptyModifier | repeatedModifier _ | strayAction => ""

/-- All else in the message of a fault is on one line. -/
theorem SchemaFault.oneLine_message_iff (f : SchemaFault) : OneLine f.message ↔ OneLine f.quoted := by
  have htype (type : FieldType) : OneLine type.word := by cases type <;> decide
  have hkind (kind : ModifierKind) : OneLine kind.word := by cases kind <;> decide
  have hlist {α : Type} {word : α → String} (hword : ∀ a, OneLine (word a)) (words : List α) :
      OneLine (", ".intercalate (words.map word)) :=
    OneLine.intercalate (by decide) (List.forall_mem_map.2 fun a _ => hword a)
  cases f with
  | imbalance i =>
    cases i with
    | quoted quote => exact oneLine_between_iff (by decide) (by decide)
    | closed | opened => exact iff_of_true (by decide) Text.oneLine_empty
  | emptyField | unnamed | emptyModifier | strayAction => exact iff_of_true (by decide +kernel) Text.oneLine_empty
  | repeatedModifier kind =>
    exact iff_of_true ((oneLine_between_iff (by decide) (by decide)).2 (hkind kind)) Text.oneLine_empty
  | unknownType word =>
    refine (oneLine_append_iff_left (by decide)).trans ((oneLine_append_iff_left (hlist htype _)).trans ?_)
    exact oneLine_between_iff (by decide) (by decide)
  | unknownModifier word =>
    refine (oneLine_append_iff_left (by decide)).trans ((oneLine_append_iff_left (hlist hkind _)).trans ?_)
    exact oneLine_between_iff (by decide) (by decide)
  | unknownAction action =>
    refine (oneLine_append_iff_left ?_).trans ?_
    · decide +kernel
    · exact oneLine_between_iff (by decide) (by decide)
  | _ => exact oneLine_between_iff (by decide) (by decide +kernel)

/-! ### Splitting -/

/-- What is not closed inside quotes is a quote. -/
theorem isQuote_of_splitFrom {q : Char} {quote : Option Char} {depth : Nat}
    (h : splitFrom separator quote depth cs = .error (.quoted q)) (hquote : ∀ q' ∈ quote, isQuote q' = true) :
    isQuote q = true := by
  induction quote, depth, cs using splitFrom.induct separator with
  | case1 q' depth =>
    rw [splitFrom] at h
    cases h
    exact hquote q rfl
  | case2 => cases h
  | case3 depth hdepth =>
    rw [splitFrom, if_neg hdepth] at h
    cases h
  | case4 q' depth c rest ih =>
    rw [splitFrom] at h
    refine ih (map_eq_error_iff.1 h) fun q'' hq => hquote q'' ?_
    split at hq
    · cases hq
    · exact hq
  | case5 depth c rest hc ih =>
    simp only [splitFrom, hc, if_true] at h
    exact ih (map_eq_error_iff.1 h) fun q' hq => Option.mem_some.1 hq ▸ hc
  | case6 depth rest hc ih =>
    simp only [splitFrom, hc, if_true] at h
    exact ih (map_eq_error_iff.1 h) hquote
  | case7 rest hc hopening =>
    simp only [splitFrom, hc, hopening, if_true, if_false] at h
    cases h
  | case8 rest depth hc hopening ih =>
    simp only [splitFrom, hc, hopening, if_true, if_false] at h
    exact ih (map_eq_error_iff.1 h) hquote
  | case9 depth c rest hc hopening hclosing hseparator ih =>
    obtain ⟨rfl, rfl⟩ := hseparator
    simp only [splitFrom, hc, hopening, hclosing, and_self, if_true, if_false] at h
    exact ih (map_eq_error_iff.1 h) hquote
  | case10 depth c rest hc hopening hclosing hseparator ih =>
    simp only [splitFrom, hc, hopening, hclosing, hseparator, if_false] at h
    exact ih (map_eq_error_iff.1 h) hquote

theorem oneLine_of_splitTopLevel {i : Imbalance} (h : splitTopLevel separator cs = .error i) :
    OneLine (SchemaFault.imbalance i).quoted := by
  cases i with
  | quoted q =>
    have hquote : isQuote q = true := isQuote_of_splitFrom h fun q' hq => absurd hq (Option.not_mem_none q')
    have hq : q = '\'' ∨ q = '"' := by simpa [isQuote] using hquote
    rcases hq with rfl | rfl
    · decide
    · decide
  | _ => exact Text.oneLine_empty

theorem infix_of_splitTopLevel (hsep : Ordinary separator) {piece : List Char} {pieces : List (List Char)}
    (h : splitTopLevel separator cs = .ok pieces) (hp : piece ∈ pieces) : piece <:+: cs := by
  obtain ⟨-, -, rfl⟩ := (splitTopLevel_eq_ok_iff hsep).1 h
  clear h
  induction pieces with
  | nil => cases hp
  | cons first others ih =>
    cases others with
    | nil =>
      have hjoined : [separator].intercalate [first] = piece := by
        rw [List.mem_singleton.1 hp, List.intercalate_singleton]
      exact hjoined ▸ List.infix_rfl
    | cons second others =>
      rw [List.intercalate_cons_cons]
      rcases List.mem_cons.1 hp with rfl | hp
      · exact ⟨[], [separator] ++ [separator].intercalate (second :: others), by simp⟩
      · exact (ih hp).trans (List.suffix_append _ _).isInfix

/-! ### The parts of a field -/

/-- What is wrong with a list of parts is wrong with one of them, or its key has been seen. -/
theorem exists_part_of_readDistinct_error {α β κ ε : Type} [BEq κ] {read : α → Except ε β} {key : β → κ}
    {repeated : α → β → ε} {seen : List κ} {parts : List α} {e : ε}
    (h : Schema.readDistinct read key repeated seen parts = .error e) :
    ∃ part ∈ parts, read part = .error e ∨ ∃ b, read part = .ok b ∧ e = repeated part b := by
  induction parts generalizing seen with
  | nil => cases h
  | cons part parts ih =>
    rw [Schema.readDistinct, bind_eq_error_iff] at h
    rcases h with hread | ⟨b, hread, h⟩
    · exact ⟨part, List.mem_cons_self, Or.inl hread⟩
    split at h
    · exact ⟨part, List.mem_cons_self, Or.inr ⟨b, hread, (Except.error.inj h).symm⟩⟩
    · rcases bind_eq_error_iff.1 h with hrest | ⟨_, -, h⟩
      · obtain ⟨part', hpart, hfault⟩ := ih hrest
        exact ⟨part', List.mem_cons_of_mem part hpart, hfault⟩
      · cases h

namespace Schema

variable {fault : SchemaFault}

theorem oneLine_of_nameFault? {name : String} (h : nameFault? name = some fault) (hname : OneLine name) :
    OneLine fault.quoted := by
  unfold nameFault? at h
  split at h
  · exact Option.some.inj h ▸ Text.oneLine_empty
  -- every other fault quotes the name
  · iterate 4
      split at h
      · exact Option.some.inj h ▸ hname
    cases h

theorem oneLine_of_parseType {word : String} (h : parseType word = .error fault) (hword : OneLine word) :
    OneLine fault.quoted := by
  unfold parseType at h
  simp only at h
  split at h
  · cases h
  split at h
  · cases h
  · exact Except.error.inj h ▸ hword

theorem oneLine_of_rawModifier? {raw : RawModifier} (h : rawModifier? cs = some raw) (hcs : OneLine (.ofList cs)) :
    OneLine raw.word ∧ OneLine (.ofList (Text.trim (raw.argument.getD []))) := by
  obtain ⟨word, argument⟩ := raw
  rw [← String.ofList_toList (s := word)] at h ⊢
  obtain ⟨-, gap, -, rfl⟩ := rawModifier?_eq_some_iff.1 h
  refine ⟨hcs.of_infix ?_, hcs.of_infix ((Text.trim_infix _).trans ?_)⟩
  · exact (List.prefix_append _ _).isInfix.trans (List.prefix_append _ _).isInfix
  · cases argument with
    | none => exact List.nil_infix
    | some inside => exact ⟨word.toList ++ gap ++ ['('], [')'], by simp⟩

theorem oneLine_of_parseModifier (h : parseModifier cs = .error fault) (hcs : OneLine (.ofList cs)) :
    OneLine fault.quoted := by
  unfold parseModifier at h
  simp only [bind, Except.bind, throw, throwThe, MonadExceptOf.throw, pure, Except.pure] at h
  rcases refuse_eq_error_iff.1 h with ⟨-, rfl⟩ | ⟨-, h⟩
  · exact Text.oneLine_empty
  cases hraw : rawModifier? cs with
  | none =>
    rw [hraw] at h
    exact Except.error.inj h ▸ hcs
  | some raw =>
    obtain ⟨hword, hargument⟩ := oneLine_of_rawModifier? hraw hcs
    have hlower := oneLine_lowercase hword
    simp only [hraw] at h
    cases hkind : ModifierKind.ofWord? (Text.lowercase raw.word) with
    | none =>
      rw [hkind] at h
      exact Except.error.inj h ▸ hlower
    | some kind =>
      simp only [hkind] at h
      split at h
      · split at h
        · exact Except.error.inj h ▸ hlower
        · cases h
      rcases refuse_eq_error_iff.1 h with ⟨-, rfl⟩ | ⟨-, h⟩
      · exact hlower
      rcases refuse_eq_error_iff.1 h with ⟨-, rfl⟩ | ⟨-, h⟩
      · exact hargument
      split at h
      · split at h
        · exact Except.error.inj h ▸ oneLine_lowercase hargument
        · cases h
      · cases h

theorem oneLine_of_parseModifiers {parts : List (List Char)} (h : parseModifiers parts = .error fault)
    (hparts : ∀ part ∈ parts, OneLine (.ofList part)) : OneLine fault.quoted := by
  obtain ⟨part, hpart, hfault | ⟨_, -, rfl⟩⟩ := exists_part_of_readDistinct_error h
  · exact oneLine_of_parseModifier hfault (hparts part hpart)
  · exact Text.oneLine_empty

theorem oneLine_of_parseParts {parts : List (List Char)} (h : parseParts parts = .error fault)
    (hparts : ∀ part ∈ parts, OneLine (.ofList part)) : OneLine fault.quoted := by
  have hhead {parts : List (List Char)} (hparts : ∀ part ∈ parts, OneLine (.ofList part)) :
      OneLine (.ofList (parts.headD [])) := by
    cases parts with
    | nil => exact Text.oneLine_empty
    | cons part parts => exact hparts part List.mem_cons_self
  unfold parseParts at h
  simp only [bind, Except.bind, throw, throwThe, MonadExceptOf.throw, pure, Except.pure] at h
  split at h
  · rename_i hname
    exact Except.error.inj h ▸ oneLine_of_nameFault? hname (hhead hparts)
  rcases refuse_eq_error_iff.1 h with ⟨-, rfl⟩ | ⟨-, h⟩
  · exact hhead hparts
  cases htype : parseType (.ofList (parts.tail.headD [])) with
  | error fault' =>
    rw [htype] at h
    obtain rfl := Except.error.inj h
    exact oneLine_of_parseType htype (hhead fun part hp => hparts part (List.mem_of_mem_tail hp))
  | ok type =>
    cases hmodifiers : parseModifiers (parts.drop 2) with
    | error fault' =>
      rw [htype, hmodifiers] at h
      obtain rfl := Except.error.inj h
      exact oneLine_of_parseModifiers hmodifiers fun part hp => hparts part (List.mem_of_mem_drop hp)
    | ok modifiers =>
      simp only [htype, hmodifiers] at h
      rcases refuse_eq_error_iff.1 h with ⟨-, rfl⟩ | ⟨-, h⟩
      · exact Text.oneLine_empty
      · cases h

/-! ### Fields and whole schemas -/

/-- What is wrong with a field is told with all of its text, and quotes no other line breaks than that. -/
theorem near_of_parseField {e : SchemaError} (h : parseField cs = .error e) :
    (e.near.getD "").toList <:+: cs ∧ (OneLine (e.near.getD "") → OneLine e.fault.quoted) := by
  have htrim : (String.ofList (Text.trim cs)).toList <:+: cs := by
    rw [String.toList_ofList]
    exact Text.trim_infix cs
  unfold parseField at h
  rcases refuse_eq_error_iff.1 h with ⟨-, rfl⟩ | ⟨-, h⟩
  · exact ⟨List.nil_infix, id⟩
  cases hsplit : splitTopLevel ':' (Text.trim cs) with
  | error i =>
    rw [hsplit] at h
    obtain rfl := Except.error.inj h
    exact ⟨htrim, fun _ => oneLine_of_splitTopLevel hsplit⟩
  | ok pieces =>
    rw [hsplit] at h
    obtain ⟨fault, hfault, rfl⟩ := mapError_eq_error_iff.1 h
    refine ⟨htrim, fun hline => oneLine_of_parseParts hfault ?_⟩
    intro part hpart
    obtain ⟨piece, hpiece, rfl⟩ := List.mem_map.1 hpart
    exact hline.of_infix ((Text.trim_infix piece).trans (infix_of_splitTopLevel ordinary_colon hsplit hpiece))

theorem oneLine_name_of_parseField {f : Field} (h : parseField cs = .ok f) : OneLine f.name := by
  obtain ⟨pieces, -, hparts⟩ := parseField_eq_ok_iff_parts.1 h
  obtain ⟨name, _, _, hpieces, hname, hfault, -⟩ := parseParts_eq_ok_iff.1 hparts
  obtain ⟨piece, -, rfl⟩ := List.mem_map.1 (hpieces ▸ List.mem_cons_self)
  rw [hname]
  exact Text.oneLine_of_isIdentChar (forall_isIdentChar ((nameFault?_eq_none_iff (Text.trimmed_trim piece)).1 hfault).1)

/-- What is wrong with a schema is told with a stretch of it, and quotes no other line breaks than that. -/
theorem near_of_parse {text : String} {e : SchemaError} (h : parse (some text) = .error e) :
    (e.near.getD "").toList <:+: text.toList ∧ (OneLine (e.near.getD "") → OneLine e.fault.quoted) := by
  unfold parse at h
  simp only at h
  split at h
  · cases h
  cases hsplit : splitTopLevel ',' text.toList with
  | error i =>
    rw [hsplit] at h
    obtain rfl := Except.error.inj h
    refine ⟨?_, fun _ => oneLine_of_splitTopLevel hsplit⟩
    change (String.ofList _).toList <:+: _
    rw [String.toList_ofList]
    exact Text.trim_infix _
  | ok segments =>
    rw [hsplit] at h
    obtain ⟨segment, hsegment, hfault⟩ := exists_part_of_readDistinct_error (map_eq_error_iff.1 h)
    have hwithin : segment <:+: text.toList := infix_of_splitTopLevel ordinary_comma hsplit hsegment
    rcases hfault with hfault | ⟨f, hf, rfl⟩
    · obtain ⟨hnear, hquoted⟩ := near_of_parseField hfault
      exact ⟨hnear.trans hwithin, hquoted⟩
    · refine ⟨?_, fun _ => oneLine_name_of_parseField hf⟩
      change (String.ofList _).toList <:+: _
      rw [String.toList_ofList]
      exact (Text.trim_infix segment).trans hwithin

end Schema

/-- The message about a schema has a line break exactly if the quoted stretch has one. -/
theorem SchemaError.oneLine_message_iff {raw : Option String} {e : SchemaError} (h : Schema.parse raw = .error e) :
    OneLine e.problem.message ↔ OneLine (e.near.getD "") := by
  have hquoted : OneLine (e.near.getD "") → OneLine e.fault.message := by
    cases raw with
    | none => cases h
    | some text => exact fun hnear => e.fault.oneLine_message_iff.2 ((Schema.near_of_parse h).2 hnear)
  obtain ⟨fault, near⟩ := e
  cases near with
  | none => exact iff_of_true (oneLine_append_iff.2 ⟨by decide, hquoted Text.oneLine_empty⟩) Text.oneLine_empty
  | some near =>
    refine ⟨fun hmessage => ?_, fun hnear => ?_⟩
    · exact (oneLine_between_iff (by decide) (by decide)).1 (oneLine_append_iff.1 hmessage).1
    · exact oneLine_append_iff.2 ⟨(oneLine_between_iff (by decide) (by decide)).2 hnear, hquoted hnear⟩

end CrudScaffold
