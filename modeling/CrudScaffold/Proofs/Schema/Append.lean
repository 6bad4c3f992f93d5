import CrudScaffold.Proofs.Schema.Fields
import CrudScaffold.Proofs.Text.Affix

/-!
# Schemas one behind the other

A text in which quotes and parentheses match is split on its own, whatever stands behind the comma after it
(`splitTopLevel_append`).  So two schemas with a comma between them are read as the fields of the first and then
those of the second: what is wrong with the first is found first, and what can be wrong besides is a name that both
have (`parse_append`).
-/

namespace CrudScaffold

/-- Both texts are split on their own. -/
theorem splitTopLevel_append {separator : Char} (hsep : Ordinary separator) {xs ys : List Char}
    {pieces others : List (List Char)} (hx : splitTopLevel separator xs = .ok pieces)
    (hy : splitTopLevel separator ys = .ok others) :
    splitTopLevel separator (xs ++ separator :: ys) = .ok (pieces ++ others) := by
  obtain ⟨hne, hnested, rfl⟩ := (splitTopLevel_eq_ok_iff hsep).1 hx
  obtain ⟨hne', hnested', rfl⟩ := (splitTopLevel_eq_ok_iff hsep).1 hy
  refine (splitTopLevel_eq_ok_iff hsep).2 ⟨by simp [hne], fun p hp => ?_, ?_⟩
  · exact (List.mem_append.1 hp).elim (hnested p) (hnested' p)
  · rw [Text.intercalate_append _ hne hne', List.singleton_append]

/-! ### Parts of a list -/

section Parts

variable {α β κ ε : Type} [BEq κ] {read : α → Except ε β} {key : β → κ} {repeated : α → β → ε}

/-- The parts in front are read first, and their keys have been seen when the others are read. -/
theorem readDistinct_append (seen : List κ) (parts others : List α) :
    Schema.readDistinct read key repeated seen (parts ++ others) = (do
      let bs ← Schema.readDistinct read key repeated seen parts
      let cs ← Schema.readDistinct read key repeated ((bs.map key).reverse ++ seen) others
      return bs ++ cs) := by
  induction parts generalizing seen with
  | nil =>
    simp only [List.nil_append, List.map_nil, List.reverse_nil, Schema.readDistinct, pure, Except.pure, bind,
      Except.bind]
    cases Schema.readDistinct read key repeated seen others <;> rfl
  | cons part parts ih =>
    simp only [List.cons_append, Schema.readDistinct, ih, bind, Except.bind, throw, throwThe, MonadExceptOf.throw,
      pure, Except.pure]
    cases read part with
    | error e => rfl
    | ok b =>
      by_cases hb : seen.contains (key b) = true
      · simp [hb]
      · simp only [hb, Bool.false_eq_true, if_false]
        cases Schema.readDistinct read key repeated (key b :: seen) parts with
        | error e => rfl
        | ok bs =>
          simp only [List.map_cons, List.reverse_cons, List.append_assoc, List.singleton_append]
          cases Schema.readDistinct read key repeated ((bs.map key).reverse ++ key b :: seen) others <;> rfl

/-- An error in the parts in front is found whatever stands behind them. -/
theorem readDistinct_append_of_error {seen : List κ} {parts : List α} {e : ε}
    (h : Schema.readDistinct read key repeated seen parts = .error e) (others : List α) :
    Schema.readDistinct read key repeated seen (parts ++ others) = .error e := by
  rw [readDistinct_append, h]
  rfl

variable [LawfulBEq κ]

/-- What both lists of parts are read as, if no key is in both. -/
theorem readDistinct_append_of_ok {parts others : List α} {bs cs : List β}
    (hparts : Schema.readDistinct read key repeated [] parts = .ok bs)
    (hothers : Schema.readDistinct read key repeated [] others = .ok cs) (hkeys : ∀ c ∈ cs, key c ∉ bs.map key) :
    Schema.readDistinct read key repeated [] (parts ++ others) = .ok (bs ++ cs) := by
  obtain ⟨hreads, hnodup, -⟩ := readDistinct_eq_ok_iff.1 hparts
  obtain ⟨hreads', hnodup', -⟩ := readDistinct_eq_ok_iff.1 hothers
  refine readDistinct_eq_ok_iff.2 ⟨List.rel_append hreads hreads', ?_, by simp⟩
  rw [List.map_append, List.nodup_append]
  refine ⟨hnodup, hnodup', fun k hk k' hk' heq => ?_⟩
  obtain ⟨c, hc, rfl⟩ := List.mem_map.1 hk'
  exact hkeys c hc (heq ▸ hk)

/-- What is read from the parts in front of one, and from that one. -/
theorem exists_part_of_readDistinct {parts : List α} {before after : List β} {b : β}
    (h : Schema.readDistinct read key repeated [] parts = .ok (before ++ b :: after)) :
    ∃ fronts part rest, parts = fronts ++ part :: rest ∧ fronts.length = before.length ∧
      Schema.readDistinct read key repeated [] fronts = .ok before ∧ read part = .ok b := by
  obtain ⟨hreads, hnodup, -⟩ := readDistinct_eq_ok_iff.1 h
  have hfronts := List.forall₂_take before.length hreads
  have hrest := List.forall₂_drop before.length hreads
  rw [List.take_left] at hfronts
  rw [List.drop_left] at hrest
  obtain ⟨part, rest, hpart, -, hdrop⟩ := List.forall₂_cons_left_iff.1 hrest
  rw [List.map_append, List.nodup_append] at hnodup
  refine ⟨parts.take before.length, part, rest, ?_, hfronts.length_eq.symm, ?_, hpart⟩
  · rw [← hdrop, List.take_append_drop]
  · exact readDistinct_eq_ok_iff.2 ⟨hfronts, hnodup.1, by simp⟩

/-- The first part with a key that has been read is reported. -/
theorem readDistinct_repeated {parts rest : List α} {part : α} {bs : List β} {b : β}
    (hparts : Schema.readDistinct read key repeated [] parts = .ok bs) (hpart : read part = .ok b)
    (hkey : key b ∈ bs.map key) :
    Schema.readDistinct read key repeated [] (parts ++ part :: rest) = .error (repeated part b) := by
  have hseen : ((bs.map key).reverse ++ []).contains (key b) = true := by
    simpa [List.contains_iff_mem] using hkey
  rw [readDistinct_append, hparts]
  simp only [bind, Except.bind, Schema.readDistinct, hpart, hseen, if_true, throw, throwThe, MonadExceptOf.throw]

/-- If a key is in both lists, the first of the other parts that has such a key is reported. -/
theorem readDistinct_append_of_shared {parts others : List α} {bs cs : List β} {c : β}
    (hparts : Schema.readDistinct read key repeated [] parts = .ok bs)
    (hothers : Schema.readDistinct read key repeated [] others = .ok cs) (hc : c ∈ cs)
    (hshared : key c ∈ bs.map key) :
    ∃ before b after part, cs = before ++ b :: after ∧ (∀ d ∈ before, key d ∉ bs.map key) ∧ key b ∈ bs.map key ∧
      others[before.length]? = some part ∧
      Schema.readDistinct read key repeated [] (parts ++ others) = .error (repeated part b) := by
  obtain ⟨b, hb⟩ : ∃ b, cs.find? (fun b => (bs.map key).contains (key b)) = some b :=
    Option.isSome_iff_exists.1 (List.find?_isSome.2 ⟨c, hc, List.contains_iff_mem.2 hshared⟩)
  obtain ⟨hrepeated, before, after, rfl, hbefore⟩ := List.find?_eq_some_iff_append.1 hb
  obtain ⟨fronts, part, rest, rfl, hlength, hread, hpart⟩ := exists_part_of_readDistinct hothers
  have hfound : key b ∈ bs.map key := List.contains_iff_mem.1 hrepeated
  have hapart : ∀ d ∈ before, key d ∉ bs.map key := fun d hd hmem => by
    have hfresh := hbefore d hd
    rw [List.contains_iff_mem.2 hmem] at hfresh
    cases hfresh
  -- up to that part nothing is repeated
  have hfront := readDistinct_append_of_ok hparts hread hapart
  have hkey : key b ∈ (bs ++ before).map key := by
    rw [List.map_append]
    exact List.mem_append_left _ hfound
  refine ⟨before, b, after, part, rfl, hapart, hfound, by simp [← hlength], ?_⟩
  rw [← List.append_assoc, readDistinct_repeated hfront hpart hkey]

end Parts

/-! ### Schemas -/

/-- Two texts in which quotes and parentheses match are read one after the other.  An error in the first is the error of
both together.  If each is read on its own, both together are read as the fields of the first and then those of the
second, unless a name is in both; then the first field of the second that has such a name is reported. -/
theorem parse_append {a b : String} {segments others : List (List Char)} (ha : ¬ Text.Blanks a.toList)
    (hb : ¬ Text.Blanks b.toList) (hsegments : splitTopLevel ',' a.toList = .ok segments)
    (hothers : splitTopLevel ',' b.toList = .ok others) :
    (∀ e, Schema.parse (some a) = .error e → Schema.parse (some (a ++ "," ++ b)) = .error e) ∧
      ∀ s t, Schema.parse (some a) = .ok s → Schema.parse (some b) = .ok t →
        ((∀ name ∈ t.names, name ∉ s.names) →
          Schema.parse (some (a ++ "," ++ b)) = .ok ⟨s.fields ++ t.fields⟩) ∧
        ((∃ name ∈ t.names, name ∈ s.names) → ∃ before f after segment,
          t.fields = before ++ f :: after ∧ (∀ g ∈ before, g.name ∉ s.names) ∧ f.name ∈ s.names ∧
            others[before.length]? = some segment ∧
            Schema.parse (some (a ++ "," ++ b)) =
              .error ⟨.repeatedName f.name, some (.ofList (Text.trim segment))⟩) := by
  have hchars : (a ++ "," ++ b).toList = a.toList ++ ',' :: b.toList := by simp
  have hblank : ¬ Text.Blanks (a ++ "," ++ b).toList := by
    rw [hchars]
    exact fun h => absurd (h ',' (by simp)) (by decide)
  have hsplit : splitTopLevel ',' (a ++ "," ++ b).toList = .ok (segments ++ others) := by
    rw [hchars]
    exact splitTopLevel_append ordinary_comma hsegments hothers
  rw [parse_of_split hblank hsplit]
  constructor
  · intro e he
    rw [parse_of_split ha hsegments] at he
    cases hread : Schema.parseFields segments with
    | error e' =>
      rw [hread] at he
      rw [Schema.parseFields, readDistinct_append_of_error hread]
      exact he
    | ok fields =>
      rw [hread] at he
      cases he
  · intro s t hs ht
    have hfirst := parseFields_of_parse ha hsegments hs
    have hsecond := parseFields_of_parse hb hothers ht
    constructor
    · intro hapart
      have hnames : ∀ f ∈ t.fields, f.name ∉ s.fields.map Field.name := fun f hf =>
        hapart f.name (List.mem_map_of_mem hf)
      rw [Schema.parseFields, readDistinct_append_of_ok hfirst hsecond hnames]
      rfl
    · rintro ⟨name, hname, hshared⟩
      obtain ⟨g, hg, rfl⟩ := List.mem_map.1 hname
      obtain ⟨before, f, after, segment, hfields, hapart, hfound, hsegment, hread⟩ :=
        readDistinct_append_of_shared hfirst hsecond hg hshared
      refine ⟨before, f, after, segment, hfields, hapart, hfound, hsegment, ?_⟩
      rw [Schema.parseFields, hread]
      rfl

/-- A type is missing in the first text; or the second field of the second text has a name of the first. -/
theorem parse_append_untyped_shared :
    Schema.parse (some "title,body:text") = .error ⟨.untyped "title", some "title"⟩ ∧
      ∃ before f after segment,
        [(⟨"slug", .string, []⟩ : Field), ⟨"title", .text, []⟩] = before ++ f :: after ∧
          (∀ g ∈ before, g.name ∉ ["title", "body"]) ∧ f.name ∈ ["title", "body"] ∧
          ["slug:string".toList, " title:text".toList][before.length]? = some segment ∧
          Schema.parse (some "title:string,body:text,slug:string, title:text") =
            .error ⟨.repeatedName f.name, some (.ofList (Text.trim segment))⟩ := by
  have hblank {text : String} (h : text.toList.all Text.isBlank = false) : ¬ Text.Blanks text.toList :=
    fun hblanks => by simp [List.all_eq_true.2 hblanks] at h
  constructor
  · exact (@parse_append "title" "body:text" ["title".toList] ["body:text".toList] (hblank (by decide))
      (hblank (by decide)) (by decide +kernel) (by decide +kernel)).1 ⟨.untyped "title", some "title"⟩
      (by decide +kernel)
  · exact ((@parse_append "title:string,body:text" "slug:string, title:text"
      ["title:string".toList, "body:text".toList] ["slug:string".toList, " title:text".toList]
      (hblank (by decide)) (hblank (by decide)) (by decide +kernel) (by decide +kernel)).2
      ⟨[⟨"title", .string, []⟩, ⟨"body", .text, []⟩]⟩ ⟨[⟨"slug", .string, []⟩, ⟨"title", .text, []⟩]⟩
      (by decide +kernel) (by decide +kernel)).2 (by decide +kernel)

end CrudScaffold
