import CrudScaffold.Entries
import CrudScaffold.Source.SourceFile
import CrudScaffold.Text.Affix

/-!
# What a class has when its body has been run

A class has under each name what the name was given last, in the place where it came first.  A name with two underscores
in front, and not behind, belongs to the class alone and is kept under another name (`mangled`).
-/

namespace CrudScaffold.Source

/-- The name under which a class keeps a name of its body. -/
def mangled (className name : String) : String :=
  let stem := className.toList.dropWhile (· == '_')
  if Text.startsWith "__" name && !Text.endsWith "__" name && !stem.isEmpty then "_" ++ .ofList stem ++ name else name

theorem mangled_of_not_startsWith {name : String} (h : Text.startsWith "__" name = false) (className : String) :
    mangled className name = name := by
  rw [mangled, h]
  rfl

theorem mangled_of_endsWith {name : String} (h : Text.endsWith "__" name = true) (className : String) :
    mangled className name = name := by
  rw [mangled, h]
  simp

/-- A name under which a class keeps another one is its own. -/
theorem mangled_mangled (className name : String) :
    mangled className (mangled className name) = mangled className name := by
  by_cases hplain : mangled className name = name
  · rw [hplain, hplain]
  · refine mangled_of_not_startsWith ?_ _
    unfold mangled at hplain ⊢
    dsimp only at hplain ⊢
    split at hplain
    · rename_i hown
      rw [if_pos hown]
      -- there is one underscore, and then what the name of the class begins with
      cases hstem : className.toList.dropWhile (· == '_') with
      | nil => simp [hstem] at hown
      | cons c stem =>
        have hc : c ≠ '_' := by
          have hfirst := List.head?_dropWhile_not (fun c => c == '_') className.toList
          simpa [hstem] using hfirst
        simp [Text.startsWith, List.isPrefixOf, hc.symm]
    · exact absurd rfl hplain

variable {c : ClassBody} {members : List Member} {e : String × Member}

/-- What members of a class give to names. -/
def Member.writes (className : String) (members : List Member) : List (String × Member) :=
  members.filterMap fun m => m.name?.map fun name => (mangled className name, m)

/-- What a class has under each name. -/
def ClassBody.scope (c : ClassBody) : Entries String Member :=
  .ofList (Member.writes c.name c.groups.flatten)

namespace Member

variable {className : String}

theorem keys_writes (className : String) (members : List Member) :
    Entries.keys (writes className members) = (members.filterMap name?).map (mangled className) := by
  rw [Entries.keys, writes, List.map_filterMap, List.map_filterMap]
  congr
  funext m
  cases m.name? <;> rfl

theorem writes_append (className : String) (members others : List Member) :
    writes className (members ++ others) = writes className members ++ writes className others :=
  List.filterMap_append

theorem mem_of_mem_writes (h : e ∈ writes className members) : e.2 ∈ members := by
  obtain ⟨m, hm, hname⟩ := List.mem_filterMap.1 h
  obtain ⟨name, -, rfl⟩ := Option.map_eq_some_iff.1 hname
  exact hm

end Member

/-- The names of a class are no further changed. -/
theorem mangled_of_mem_scope (h : e ∈ c.scope) : mangled c.name e.1 = e.1 := by
  obtain ⟨m, -, hname⟩ := List.mem_filterMap.1 (Entries.mem_ofList h)
  obtain ⟨name, -, rfl⟩ := Option.map_eq_some_iff.1 hname
  exact mangled_mangled c.name name

theorem get?_of_mem_scope (h : e ∈ c.scope) : c.scope.get? e.1 = some e.2 :=
  (Entries.get?_eq_some_iff (Entries.nodup_keys_ofList _)).2 h

/-- What is had under a name was given to it last. -/
theorem not_mem_keys_of_mem_scope {front back : List Member} (hmembers : c.groups.flatten = front ++ back)
    (h : e ∈ c.scope) (hback : e.2 ∉ back) : e.1 ∉ (back.filterMap Member.name?).map (mangled c.name) := by
  rw [← Member.keys_writes, ← Entries.mem_keys_ofList_iff]
  intro hkey
  obtain ⟨m, hm⟩ := Option.isSome_iff_exists.1 (Entries.isSome_get?_iff.2 hkey)
  have hfound := get?_of_mem_scope h
  rw [ClassBody.scope, hmembers, Member.writes_append, Entries.get?_ofList_append, hm, Option.some_or] at hfound
  obtain rfl := Option.some.inj hfound
  exact hback (Member.mem_of_mem_writes (Entries.mem_ofList (Entries.mem_of_get?_eq_some hm)))

end CrudScaffold.Source
