import CrudScaffold.CommandLine.Invocation
import CrudScaffold.Proofs.Outcome

/-!
# Where switches stand on a command line

Switches say the same wherever they stand, and in between the texts for the model and the schema are read.  The order
of the switches among themselves is all that is left of a command line, except for one thing: the schema has to follow
the model at once.  A switch between the two leaves the schema over, and the command line is refused
(`ofTexts_interleaved`).
-/

namespace CrudScaffold.CommandLine

/-- A word that does not begin with a hyphen. -/
def IsPlain (s : String) : Prop := s.toList.head? ≠ some '-'

/-- Words that make up switches with all that they need.  One word may hold several switches, and the last one may
take its text from the word after it. -/
inductive ReadsAs : List String → List (Switch × Option String) → Prop
  | alone {word : String} {first : Switch} {attachment : Attachment} {uses : List (Switch × Option String)}
      (hword : Word.ofText word = .ok (.switch first attachment))
      (hcluster : Cluster.ofSwitch first attachment = .ok ⟨uses, none⟩) : ReadsAs [word] uses
  | followed {word text : String} {first last : Switch} {attachment : Attachment}
      {uses : List (Switch × Option String)} (hword : Word.ofText word = .ok (.switch first attachment))
      (hcluster : Cluster.ofSwitch first attachment = .ok ⟨uses, some last⟩) (htext : IsPlain text) :
      ReadsAs [word, text] (uses ++ [(last, some text)])

/-- Words that stand together and make up switches, none of which asks for help or for the version. -/
structure Group where
  words : List String
  uses : List (Switch × Option String)
  reads : ReadsAs words uses
  ordinary : ∀ use ∈ uses, use.1 ≠ .help ∧ use.1 ≠ .version

/-- All words of some groups. -/
def wordsOf (groups : List Group) : List String := groups.flatMap Group.words

/-- All switches of some groups. -/
def usesOf (groups : List Group) : List (Switch × Option String) := groups.flatMap Group.uses

theorem ne_hyphens_of_isPlain {s : String} (h : IsPlain s) : s ≠ "--" := by
  rintro rfl
  exact h (by decide)

theorem ofText_of_isPlain {s : String} (h : IsPlain s) : Word.ofText s = .ok (.text s) := by
  rw [Word.ofText, if_neg (ne_hyphens_of_isPlain h)]
  unfold IsPlain at h
  split
  · rename_i hcs
    rw [hcs] at h
    exact absurd rfl h
  · rename_i hcs
    rw [hcs] at h
    exact absurd rfl h
  · rfl

/-- A switch under one of its spellings stands alone, or is followed by its text. -/
theorem readsAs_of_spelled {spelling : String} {s : Switch} (h : (spelling, s) ∈ Switch.spelled) :
    if s.takesText then ∀ text, IsPlain text → ReadsAs [spelling, text] [(s, some text)]
    else ReadsAs [spelling] [(s, none)] := by
  have hall : ∀ e ∈ Switch.spelled, (Word.ofText e.1).toOption.any (· = .switch e.2 .nothing) = true := by
    decide +kernel
  obtain ⟨word, hword, hswitch⟩ := exists_of_any_toOption (hall _ h)
  rw [of_decide_eq_true hswitch] at hword
  split
  · rename_i htakes
    exact fun text htext => .followed hword (by rw [Cluster.ofSwitch, Cluster.last, if_pos htakes]) htext
  · rename_i htakes
    exact .alone hword (by rw [Cluster.ofSwitch, Cluster.last, if_neg htakes]; rfl)

/-- The place after a switch: the model may still come, and the schema may not. -/
def Place.interrupted (place : Place) : Place :=
  if place = .model then .model else .none

namespace Reading

variable {r : Reading} {place : Place} {model schema : Option String} {unrecognized : List String}

/-! ### What switches do -/

/-- What a switch does that does not end the reading. -/
def use (r : Reading) (u : Switch × Option String) : Reading :=
  match r.apply u with
  | .ok r' => r'
  | .error _ => r

def useAll (r : Reading) (uses : List (Switch × Option String)) : Reading := uses.foldl use r

theorem apply_eq_use {u : Switch × Option String} (h : u.1 ≠ .help ∧ u.1 ≠ .version) :
    r.apply u = .ok (r.use u) := by
  obtain ⟨s, text⟩ := u
  cases s with
  | help => exact absurd rfl h.1
  | version => exact absurd rfl h.2
  | _ => rfl

theorem applyAll_eq_useAll {uses : List (Switch × Option String)}
    (h : ∀ use ∈ uses, use.1 ≠ .help ∧ use.1 ≠ .version) : r.applyAll uses = .ok (r.useAll uses) := by
  induction uses generalizing r with
  | nil => rfl
  | cons u uses ih =>
    rw [applyAll, List.foldlM_cons, apply_eq_use (h u (by simp))]
    exact ih fun v hv => h v (by simp [hv])

theorem useAll_append (r : Reading) (uses uses' : List (Switch × Option String)) :
    r.useAll (uses ++ uses') = (r.useAll uses).useAll uses' := List.foldl_append

theorem wanting_useAll (r : Reading) (uses : List (Switch × Option String)) : (r.useAll uses).wanting = r.wanting := by
  induction uses generalizing r with
  | nil => rfl
  | cons u uses ih =>
    obtain ⟨s, text⟩ := u
    rw [useAll, List.foldl_cons]
    refine (ih _).trans ?_
    cases s <;> rfl

/-! ### What is known besides -/

/-- The reading with something else known of the texts that belong to no switch. -/
def withTexts (r : Reading) (place : Place) (model schema : Option String) (unrecognized : List String) : Reading :=
  { r with place := place, model := model, schema := schema, unrecognized := unrecognized }

/-- Switches leave alone what is known of the other texts, and it makes no difference to them. -/
theorem useAll_withTexts (uses : List (Switch × Option String)) :
    (r.withTexts place model schema unrecognized).useAll uses =
      (r.useAll uses).withTexts place model schema unrecognized := by
  induction uses generalizing r with
  | nil => rfl
  | cons u uses ih =>
    obtain ⟨s, text⟩ := u
    have hstep : (r.withTexts place model schema unrecognized).use (s, text) =
        (r.use (s, text)).withTexts place model schema unrecognized := by
      cases s <;> rfl
    rw [useAll, List.foldl_cons, hstep]
    exact ih

/-! ### Reading on -/

/-- What is known when some more words have been read. -/
def readAll (r : Reading) (words : List String) : Except Stop Reading := do
  let words ← (Word.ofTexts words).mapError .refused
  words.foldlM step r

theorem readAll_nil : r.readAll [] = .ok r := rfl

theorem readAll_cons {s : String} {word : Word} {r' : Reading} (hword : Word.ofText s = .ok word)
    (hseparator : word ≠ .separator) (hstep : r.step word = .ok r') (rest : List String) :
    r.readAll (s :: rest) = r'.readAll rest := by
  have hwords : Word.ofTexts (s :: rest) = (Word.ofTexts rest).map (word :: ·) := by
    rw [Word.ofTexts, hword]
    cases word with
    | separator => exact absurd rfl hseparator
    | _ => cases Word.ofTexts rest <;> rfl
  rw [readAll, readAll, hwords]
  cases Word.ofTexts rest with
  | error e => rfl
  | ok words =>
    change (word :: words).foldlM step r = words.foldlM step r'
    rw [List.foldlM_cons, hstep]
    rfl

/-- A group is read for what its switches do, and interrupts the other texts. -/
theorem readAll_group (hr : r.wanting = none) (g : Group) (rest : List String) :
    r.readAll (g.words ++ rest) = (r.interrupt.useAll g.uses).readAll rest := by
  obtain ⟨words, uses, hreads, hordinary⟩ := g
  have hused : r.interrupt.applyAll uses = .ok (r.interrupt.useAll uses) := applyAll_eq_useAll hordinary
  cases hreads with
  | alone hword hcluster => exact readAll_cons hword nofun ((step_switch hr hcluster).trans hused) rest
  | followed hword hcluster htext =>
    refine (readAll_cons hword nofun (step_switch_wanting hr hcluster) _).trans ?_
    refine readAll_cons (ofText_of_isPlain htext) nofun (Eq.trans ?_ hused) rest
    -- the text is read for the switch that waits for it, which then waits no longer
    have hinterrupt : { r.interrupt with wanting := none } = r.interrupt := by
      rw [interrupt, ← hr]
    simp only [step, hinterrupt]

/-- A group after the other, wherever the reading is. -/
theorem readAll_groups (hr : r.wanting = none) (groups : List Group) (rest : List String) :
    (r.withTexts place model schema unrecognized).readAll (wordsOf groups ++ rest) =
      ((r.useAll (usesOf groups)).withTexts (if groups = [] then place else place.interrupted) model schema
        unrecognized).readAll rest := by
  induction groups generalizing r place with
  | nil => rfl
  | cons g groups ih =>
    have hwords : wordsOf (g :: groups) ++ rest = g.words ++ (wordsOf groups ++ rest) := List.append_assoc ..
    have huses : usesOf (g :: groups) = g.uses ++ usesOf groups := rfl
    have hgroup (rest : List String) : (r.withTexts place model schema unrecognized).readAll (g.words ++ rest) =
        ((r.useAll g.uses).withTexts place.interrupted model schema unrecognized).readAll rest := by
      rw [← useAll_withTexts]
      exact readAll_group (r := r.withTexts place model schema unrecognized) hr g rest
    have hplace : (if groups = [] then place.interrupted else place.interrupted.interrupted) = place.interrupted := by
      split
      · rfl
      · cases place <;> rfl
    rw [hwords, hgroup, ih ((wanting_useAll r g.uses).trans hr), huses, useAll_append, hplace,
      if_neg (List.cons_ne_nil g groups)]

/-! ### The two texts -/

theorem readAll_model (hr : r.wanting = none) {text : String} (htext : IsPlain text) (rest : List String) :
    (r.withTexts .model none schema unrecognized).readAll (text :: rest) =
      (r.withTexts .schema (some text) schema unrecognized).readAll rest := by
  have hstep := step_model (r := r.withTexts .model none schema unrecognized) hr rfl text
  exact readAll_cons (ofText_of_isPlain htext) nofun hstep rest

/-- A text that follows the model at once is the schema. -/
theorem readAll_schema (hr : r.wanting = none) {text : String} (htext : IsPlain text) (rest : List String) :
    (r.withTexts .schema model none unrecognized).readAll (text :: rest) =
      (r.withTexts .afterSchema model (some text) unrecognized).readAll rest := by
  have hstep := step_schema (r := r.withTexts .schema model none unrecognized) hr rfl text
  have hgiven : given? (some text) = some text := by simp [given?, ne_hyphens_of_isPlain htext]
  rw [hgiven] at hstep
  exact readAll_cons (ofText_of_isPlain htext) nofun hstep rest

/-- A text in any other place is left over. -/
theorem readAll_leftover (hr : r.wanting = none) {text : String} (htext : IsPlain text) (rest : List String) :
    (r.withTexts .none model schema []).readAll (text :: rest) =
      (r.withTexts .none model schema [text]).readAll rest := by
  have hstep := step_leftover (r := r.withTexts .none model schema []) hr rfl text
  exact readAll_cons (ofText_of_isPlain htext) nofun hstep rest

/-! ### The end -/

theorem readAll_groups_end (hr : r.wanting = none) (groups : List Group) :
    (r.withTexts place model schema unrecognized).readAll (wordsOf groups) =
      .ok ((r.useAll (usesOf groups)).withTexts (if groups = [] then place else place.interrupted) model schema
        unrecognized) := by
  simpa only [List.append_nil, readAll_nil] using readAll_groups hr groups []

theorem finish_eq_ok {model schema : String} (hr : r.wanting = none) :
    (r.withTexts place (some model) (some schema) []).finish =
      .ok ⟨⟨model, some schema, Choice.options.map fun c => (c.name, r.chosen.contains c), r.group, r.root,
        r.application⟩, r.settings, r.verbosity, r.quiet⟩ := by
  simp only [finish, withTexts, hr]

theorem finish_eq_error {model s : String} (hr : r.wanting = none) :
    (r.withTexts place (some model) schema [s]).finish = .error (.unrecognized [s]) := by
  simp only [finish, withTexts, hr]

end Reading

/-- The invocation with a model, a schema and what switches ask for. -/
def Invocation.ofUses (model schema : String) (uses : List (Switch × Option String)) : Invocation :=
  let r := Reading.initial.useAll uses
  ⟨⟨model, some schema, Choice.options.map fun c => (c.name, r.chosen.contains c), r.group, r.root, r.application⟩,
    r.settings, r.verbosity, r.quiet⟩

open Reading in
/-- A command line with the texts for a model and its schema, in this order, and groups of switches before, between
and after them.  Without switches in between the groups are read in order, wherever the texts stand; with some, the
schema is not recognized. -/
theorem ofTexts_interleaved {model schema : String} (hmodel : IsPlain model) (hschema : IsPlain schema)
    {options before between after : List Group} (hoptions : options = before ++ (between ++ after)) :
    Invocation.ofTexts (wordsOf before ++ model :: (wordsOf between ++ schema :: wordsOf after)) =
      if between = [] then .ok (.ofUses model schema (usesOf options))
      else .error (.refused (.unrecognized [schema])) := by
  have hwanting (uses : List (Switch × Option String)) : (initial.useAll uses).wanting = none :=
    wanting_useAll initial uses
  have hread (words : List String) : Invocation.ofTexts words =
      initial.readAll words >>= fun r => r.finish.mapError .refused := by
    unfold Invocation.ofTexts readAll
    cases (Word.ofTexts words).mapError Stop.refused <;> rfl
  have hbefore (rest : List String) : initial.readAll (wordsOf before ++ rest) =
      ((initial.useAll (usesOf before)).withTexts .model none none []).readAll rest := by
    change (initial.withTexts .model none none []).readAll _ = _
    rw [readAll_groups rfl]
    cases before <;> rfl
  subst hoptions
  rw [hread, hbefore, readAll_model (hwanting _) hmodel, readAll_groups (hwanting _), ← useAll_append]
  by_cases hbetween : between = []
  · subst hbetween
    have huses : usesOf before ++ usesOf [] ++ usesOf after = usesOf (before ++ ([] ++ after)) := by
      simp [usesOf]
    rw [if_pos rfl, if_pos rfl, readAll_schema (hwanting _) hschema, readAll_groups_end (hwanting _), ← useAll_append,
      huses]
    exact congrArg (Except.mapError Stop.refused) (finish_eq_ok (hwanting _))
  · rw [if_neg hbetween, if_neg hbetween]
    change (readAll (withTexts _ .none _ _ _) _ >>= _) = _
    rw [readAll_leftover (hwanting _) hschema, readAll_groups_end (hwanting _), ← useAll_append]
    exact congrArg (Except.mapError Stop.refused) (finish_eq_error (hwanting _))

/-- Letters in one word, a text in the word of its switch, and one in the next word: before and after the texts these
are read, and between them the schema is left over. -/
theorem ofTexts_interleaved_of_letters :
    IsPlain "Post" ∧ IsPlain "title:string" ∧
      Invocation.ofTexts ["-cR", "--plug=out", "Post", "title:string", "-g", "admin"] =
        .ok (.ofUses "Post" "title:string" [(.choose .controller, none), (.choose .request, none),
          (.root, some "out"), (.group, some "admin")]) ∧
      Invocation.ofTexts ["-cR", "Post", "--plug=out", "title:string", "-g", "admin"] =
        .error (.refused (.unrecognized ["title:string"])) :=
  let letters : Group := ⟨["-cR"], [(.choose .controller, none), (.choose .request, none)], .alone rfl rfl, by decide⟩
  let root : Group := ⟨["--plug=out"], [(.root, some "out")], .alone rfl rfl, by decide⟩
  let group : Group := ⟨["-g", "admin"], [] ++ [(.group, some "admin")],
    .followed rfl rfl (show IsPlain "admin" by unfold IsPlain; decide), by decide⟩
  have hmodel : IsPlain "Post" := by unfold IsPlain; decide
  have hschema : IsPlain "title:string" := by unfold IsPlain; decide
  ⟨hmodel, hschema,
    (@ofTexts_interleaved _ _ hmodel hschema _ [letters, root] [] [group] rfl).trans (if_pos rfl),
    (@ofTexts_interleaved _ _ hmodel hschema _ [letters] [root] [group] rfl).trans (if_neg (List.cons_ne_nil root []))⟩

/-- One switch is read after both texts, and refuses the schema between them: it is not the same wherever switches
stand. -/
theorem not_same_wherever_switches_stand :
    ¬ ∀ (model schema : String), IsPlain model → IsPlain schema →
      ∀ (before between after before' between' after' : List Group),
        before ++ (between ++ after) = before' ++ (between' ++ after') →
        ∃ i, Invocation.ofTexts (wordsOf before ++ model :: (wordsOf between ++ schema :: wordsOf after)) = .ok i ∧
          Invocation.ofTexts (wordsOf before' ++ model :: (wordsOf between' ++ schema :: wordsOf after')) = .ok i := by
  intro h
  let controller : Group := ⟨["-c"], [(.choose .controller, none)], .alone rfl rfl, by decide⟩
  have hplain : IsPlain "Post" ∧ IsPlain "title:string" := by unfold IsPlain; decide
  obtain ⟨i, -, hbetween⟩ := h "Post" "title:string" hplain.1 hplain.2 [] [] [controller] [] [controller] [] rfl
  have hrefused : Invocation.ofTexts ["Post", "-c", "title:string"] =
      .error (.refused (.unrecognized ["title:string"])) := rfl
  cases hrefused.symm.trans hbetween

end CrudScaffold.CommandLine
