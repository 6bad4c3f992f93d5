import CrudScaffold.Proofs.Run.Validation

/-!
# Whose word decides where files go

The inputs of a run have a root and a namespace.  Each comes from the first who has a word for it: the arguments, the
group of the run, the default group.  An empty word is a word, but an empty name of a group is none.  If nobody has a
word, a built-in one is taken.  Root and namespace are found one without the other (`request_resolved`).
-/

namespace CrudScaffold

open Text (Symbol Symbols)

/-- The first word that there is, or else a built-in one. -/
def firstWord (words : List (Option Symbols)) (builtIn : Symbols) : Symbols :=
  (words.findSome? id).getD builtIn

variable {c c' : Command} {a : Arguments} {i : Inputs} {read : Group → Option Symbols}

namespace Settings

/-- What the group of a name says itself; a name that no group has says nothing. -/
def ownWord (s : Settings) (read : Group → Option Symbols) (name : Symbols) : Option Symbols :=
  (s.groups.get? name).bind read

/-- Both settings have the same default group, and every group says the same in both. -/
def AgreeOn (read : Group → Option Symbols) (s s' : Settings) : Prop :=
  s.defaultGroup = s'.defaultGroup ∧ ∀ name, s.ownWord read name = s'.ownWord read name

/-- A group is asked first and then the default group, even if they are the same. -/
theorem wordOf_getD (s : Settings) (read : Group → Option Symbols) (name builtIn : Symbols) :
    (s.wordOf read (some name)).getD builtIn =
      firstWord [s.ownWord read name, s.ownWord read s.defaultName] builtIn := by
  have hown : ((some name).bind s.groups.get?).bind read = s.ownWord read name := rfl
  unfold wordOf
  rw [hown]
  cases hword : s.ownWord read name with
  | some word => rfl
  | none =>
    change (s.ownWord read s.defaultName).getD builtIn = _
    cases s.ownWord read s.defaultName <;> rfl

end Settings

/-- The words for one thing: what the arguments give, what the group says and what the default group says. -/
def Command.words (c : Command) (read : Group → Option Symbols) (given : Given) (group : Symbols) :
    List (Option Symbols) :=
  [given.text?, c.settings.ownWord read group, c.settings.ownWord read c.settings.defaultName]

/-- What is given passes if it is a text, and what stands in its place passes too. -/
private theorem firstWord_of_word? {given : Given} {word : Symbols} {words : List (Option Symbols)} {builtIn : Symbols}
    (h : (given.value (firstWord words builtIn)).word? = some word) :
    given ≠ .empty ∧ word = firstWord (given.text? :: words) builtIn := by
  rw [← Value.checkSymbols_eq_ok_iff, Given.checkSymbols_value, refuse_eq_ok_iff] at h
  obtain ⟨hgiven, hword⟩ := h
  refine ⟨hgiven, ?_⟩
  rw [← Except.ok.inj hword]
  cases given <;> rfl

namespace Command

/-- Where the files of a run go, and by whose word. -/
structure Resolved (c : Command) (a : Arguments) (i : Inputs) : Prop where
  named (name : Symbols) : a.group = some name → name ≠ [] → Symbol.ofString i.group = name
  unnamed : a.group = none ∨ a.group = some [] → i.group = c.settings.defaultGroup
  /-- Nothing is given without a text. -/
  given : a.root ≠ .empty ∧ a.application ≠ .empty
  root : i.root = firstWord (c.words (·.root) a.root i.group) "."
  application : i.application = firstWord (c.words (·.application) a.application i.group) "app"

theorem resolved_of_inputs (h : c.inputs a = .ok i) : c.Resolved a i := by
  obtain ⟨-, hgroup, -, -, hroot, happlication⟩ := inputs_eq_ok_iff.1 h
  rw [root, Settings.rootOf, Settings.wordOf_getD] at hroot
  rw [application, Settings.applicationOf, Settings.wordOf_getD] at happlication
  obtain ⟨hrootGiven, hroot⟩ := firstWord_of_word? hroot
  obtain ⟨happlicationGiven, happlication⟩ := firstWord_of_word? happlication
  have hname : Symbol.ofString i.group = c.groupName a := (group_eq_ok_iff.1 hgroup).1
  refine ⟨fun name hgiven hne => ?_, fun hnone => ?_, ⟨hrootGiven, happlicationGiven⟩, hroot, happlication⟩
  · rw [hname, groupName, hgiven]
    exact if_neg hne
  · refine Symbol.ofString_inj.1 (hname.trans ?_)
    rw [groupName]
    rcases hnone with hnone | hnone <;> rw [hnone]
    · rfl
    · exact if_pos rfl

/-- Settings that agree on one thing have the same words for it. -/
private theorem words_congr (h : c.settings.AgreeOn read c'.settings) (given : Given) (group : Symbols) :
    c.words read given group = c'.words read given group := by
  rw [words, words, h.2, h.2, Settings.defaultName, Settings.defaultName, h.1]

/-- The inputs of a run, and so its request, take the group from the arguments, and root and namespace from whoever
has the first word.  Any name of a group can be looked up, known or not, and has them by the same order.  What is said
about namespaces makes no difference to the root, nor what is said about roots to the namespace. -/
theorem request_resolved (c : Command) (a : Arguments) :
    (∀ i, c.inputs a = .ok i → c.Resolved a i) ∧
      (∀ r, c.request a = .ok r ↔ c.inputs a = .ok r.inputs) ∧
      (∀ name, c.settings.rootOf (some name) = firstWord (c.words (·.root) .absent name) "." ∧
        c.settings.applicationOf (some name) = firstWord (c.words (·.application) .absent name) "app") ∧
      ∀ (i : Inputs) (c' : Command) (a' : Arguments) (i' : Inputs), c.inputs a = .ok i → c'.inputs a' = .ok i' →
        i.group = i'.group →
        (a.root = a'.root → c.settings.AgreeOn (·.root) c'.settings → i.root = i'.root) ∧
          (a.application = a'.application → c.settings.AgreeOn (·.application) c'.settings →
            i.application = i'.application) := by
  refine ⟨fun i => resolved_of_inputs, fun r => request_eq_ok_iff, fun name => ⟨?_, ?_⟩,
    fun i c' a' i' h h' hgroup => ?_⟩
  · rw [Settings.rootOf, Settings.wordOf_getD]
    rfl
  · rw [Settings.applicationOf, Settings.wordOf_getD]
    rfl
  · have hres := resolved_of_inputs h
    have hres' := resolved_of_inputs h'
    refine ⟨fun hgiven hagree => ?_, fun hgiven hagree => ?_⟩
    · rw [hres.root, hres'.root, hgiven, hgroup, words_congr hagree]
    · rw [hres.application, hres'.application, hgiven, hgroup, words_congr hagree]

/-- A group that settles an empty root and no namespace, for a run that is given an empty namespace, and the default
group, which settles a root only. -/
theorem request_resolved_of_admin :
    let groups : Entries Symbols Group := [("main", ⟨some "lib", none⟩), ("admin", ⟨some "", none⟩)]
    let c : Command := ⟨⟨[.seeder], "main", groups⟩, .standard, reservedWords⟩
    (∃ i, c.inputs (.ofTexts "Post" none [] (some "admin") none (some "")) = .ok i ∧
        i.group = "admin" ∧ i.root = "" ∧ i.application = "") ∧
      ∃ i, c.inputs (.ofTexts "Post" none [] (some "") none none) = .ok i ∧
        i.group = "main" ∧ i.root = "lib" ∧ i.application = "app" := by
  intro groups c
  constructor
  · obtain ⟨i, hi⟩ : ∃ i, c.inputs (.ofTexts "Post" none [] (some "admin") none (some "")) = .ok i :=
      inputs_of_texts (by simp) (by decide +kernel)
    have hres := (request_resolved c _).1 i hi
    have hgroup : i.group = "admin" := Symbol.ofString_inj.1 (hres.named _ rfl (by decide))
    refine ⟨i, hi, hgroup, ?_, ?_⟩
    · rw [hres.root, hgroup]
      decide
    · rw [hres.application, hgroup]
      decide
  · obtain ⟨i, hi⟩ : ∃ i, c.inputs (.ofTexts "Post" none [] (some "") none none) = .ok i :=
      inputs_of_texts (by simp) (by decide +kernel)
    have hres := (request_resolved c _).1 i hi
    have hgroup : i.group = "main" := hres.unnamed (Or.inr rfl)
    refine ⟨i, hi, hgroup, ?_, ?_⟩
    · rw [hres.root, hgroup]
      decide
    · rw [hres.application, hgroup]
      decide

end Command

end CrudScaffold
