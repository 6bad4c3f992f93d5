import CrudScaffold.Proofs.Run.Validation
import CrudScaffold.Proofs.Schema.Quoted

/-!
# What a run complains about

A run whose arguments have a problem writes the message about it to the error output, and a line break.  The message
quotes what was typed as it was typed: the name of the model, or the stretch of the schema that cannot be read.  So
it is one line if there is no line break in that text, and more than one if there is (`complaint_isSingleLine_iff`).
-/

namespace CrudScaffold

open Text (IsSingleLine OneLine)

/-- What the message about a problem quotes. -/
def Problem.quoted : Problem → String
  | reservedName name | malformedName name => name
  | schema _ near => near.getD ""
  | general _ _ | input _ _ | unknownGroup _ | generation _ _ | configuration _ _ => ""

/-- What a task writes to the error output when no notes are shown. -/
def Task.complaint {α : Type} (task : Task α) (w : Workspace) : String :=
  Output.errors none none ((outcome task w).2.output.drop w.output.length)

namespace Command

variable {c : Command} {a : Arguments} {p : Problem}

/-- A problem is one that a check finds: what comes after the checks fails in other ways. -/
theorem firstProblem?_of_request (h : c.request a = .error (.problem p)) : c.firstProblem? a = some p := by
  cases hfirst : c.firstProblem? a with
  | some p' =>
    cases (request_of_firstProblem? hfirst).symm.trans h
    rfl
  | none =>
    obtain ⟨hmodel, hgroup, s, hschema⟩ := passed_of_no_problem hfirst
    have hinputs := inputs_of_request_eq_problem h
    unfold inputs at hinputs
    rw [hmodel, hgroup, hschema] at hinputs
    change (c.selection a >>= fun selection => (Inputs.ofValues (.text (Naming.upperFirst a.model))
      (.symbols (c.groupName a)) (c.root a _) (c.application a _) selection s).mapError .faults) = _ at hinputs
    rcases bind_eq_error_iff.1 hinputs with hselection | ⟨_, -, hvalues⟩
    · unfold selection at hselection
      split at hselection <;> cases hselection
    · obtain ⟨_, -, hfaults⟩ := mapError_eq_error_iff.1 hvalues
      cases hfaults

/-- The problems that arguments can have. -/
theorem problem_cases (h : c.request a = .error (.problem p)) :
    p = .reservedName a.model ∨ p = .malformedName a.model ∨ p = .unknownGroup (c.groupName a) ∨
      ∃ e, Schema.parse a.schema = .error e ∧ p = e.problem := by
  have hfirst := firstProblem?_of_request h
  unfold firstProblem? at hfirst
  split at hfirst
  · exact Or.inl (Option.some.inj hfirst).symm
  split at hfirst
  · exact Or.inr (Or.inl (Option.some.inj hfirst).symm)
  split at hfirst
  · exact Or.inr (Or.inr (Or.inl (Option.some.inj hfirst).symm))
  split at hfirst
  · cases hfirst
  · rename_i e he
    exact Or.inr (Or.inr (Or.inr ⟨e, he, (Option.some.inj hfirst).symm⟩))

/-- The problem is all that is complained about. -/
theorem complaint_of_request (h : c.request a = .error (.problem p)) (w : Workspace) :
    (outcome (c.handle a) w).1 = .ok 1 ∧ Task.complaint (c.handle a) w = p.message ++ "\n" := by
  obtain ⟨notes, hhandle, -⟩ := (refused_of_firstProblem? (firstProblem?_of_request h)).handle w
  have hw := hhandle c.registry
  change outcome (c.handle a) w = _ at hw
  rw [Task.complaint, hw, List.append_assoc, List.drop_left, Output.errors_append]
  simp

/-- What a message quotes was typed. -/
theorem quoted_of_request (h : c.request a = .error (.problem p)) :
    p.quoted = "" ∨ p.quoted = a.model ∨ ∃ schema, a.schema = some schema ∧ p.quoted.toList <:+: schema.toList := by
  rcases problem_cases h with rfl | rfl | rfl | ⟨e, he, rfl⟩
  · exact Or.inr (Or.inl rfl)
  · exact Or.inr (Or.inl rfl)
  · exact Or.inl rfl
  · cases hschema : a.schema with
    | none =>
      rw [hschema] at he
      cases he
    | some schema =>
      rw [hschema] at he
      exact Or.inr (Or.inr ⟨schema, rfl, (Schema.near_of_parse he).1⟩)

/-- A message has line breaks only in what it quotes. -/
theorem oneLine_message_iff (h : c.request a = .error (.problem p)) : OneLine p.message ↔ OneLine p.quoted := by
  rcases problem_cases h with rfl | rfl | rfl | ⟨e, he, rfl⟩
  · exact Text.oneLine_between_iff (by decide) (by decide)
  · exact Text.oneLine_between_iff (by decide) (by decide +kernel)
  · exact iff_of_true (show OneLine "The path group you entered is not valid" by decide) Text.oneLine_empty
  · exact SchemaError.oneLine_message_iff he

/-- A run that is refused ends with status 1 and one message on the error output.  It is one line exactly if what it
quotes of the arguments has no line break in it. -/
theorem complaint_isSingleLine_iff (h : c.request a = .error (.problem p)) (w : Workspace) :
    (outcome (c.handle a) w).1 = .ok 1 ∧ Task.complaint (c.handle a) w = p.message ++ "\n" ∧
      (p.quoted = "" ∨ p.quoted = a.model ∨ ∃ schema, a.schema = some schema ∧ p.quoted.toList <:+: schema.toList) ∧
      (IsSingleLine (Task.complaint (c.handle a) w) ↔ OneLine p.quoted) := by
  obtain ⟨hstatus, hcomplaint⟩ := complaint_of_request h w
  refine ⟨hstatus, hcomplaint, quoted_of_request h, ?_⟩
  rw [hcomplaint, Text.isSingleLine_concat_iff, oneLine_message_iff h]

/-- A schema of two lines, and a complaint of one line about a field that stands on one. -/
theorem complaint_isSingleLine_of_field :
    let c : Command := ⟨.fallback, .standard, reservedWords⟩
    let a : Arguments := .ofTexts "Post" (some "title:string,\nbody:blob") [] none none none
    let p : Problem := .schema (SchemaFault.unknownType "blob").message (some "body:blob")
    let w : Workspace := ⟨⟨["home"], []⟩, ⟨⟨⟨2024, 1, 2⟩, 3, 4, 5, 6⟩, []⟩, ⟨0, []⟩, []⟩
    c.request a = .error (.problem p) ∧ Task.complaint (c.handle a) w = p.message ++ "\n" ∧
      IsSingleLine (Task.complaint (c.handle a) w) := by
  intro c a p w
  have hrequest : c.request a = .error (.problem p) := request_of_firstProblem? (by decide +kernel)
  obtain ⟨-, hcomplaint, -, hline⟩ := complaint_isSingleLine_iff hrequest w
  exact ⟨hrequest, hcomplaint, hline.2 (by decide)⟩

/-- A field that stands on two lines is quoted on two lines. -/
theorem not_isSingleLine_of_field :
    ¬ ∀ (c : Command) (a : Arguments) (p : Problem) (w : Workspace), c.request a = .error (.problem p) →
      IsSingleLine (Task.complaint (c.handle a) w) := by
  intro h
  let c : Command := ⟨.fallback, .standard, reservedWords⟩
  let a : Arguments := .ofTexts "Post" (some "title:\nblob") [] none none none
  let p : Problem := .schema (SchemaFault.unknownType "blob").message (some "title:\nblob")
  let w : Workspace := ⟨⟨["home"], []⟩, ⟨⟨⟨2024, 1, 2⟩, 3, 4, 5, 6⟩, []⟩, ⟨0, []⟩, []⟩
  have hrequest : c.request a = .error (.problem p) := request_of_firstProblem? (by decide +kernel)
  have hline := h c a p w hrequest
  rw [(complaint_of_request hrequest w).2, Text.isSingleLine_concat_iff, oneLine_message_iff hrequest] at hline
  exact absurd hline (by decide)

end Command

end CrudScaffold
