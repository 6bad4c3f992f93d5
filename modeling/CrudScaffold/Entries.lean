/-!
# Entries

A finite map that remembers the order in which its keys first came. Writing a value under a key that is there
keeps the place of the key.
-/

namespace CrudScaffold

abbrev Entries (α β : Type) := List (α × β)

namespace Entries

variable {α β : Type} [DecidableEq α]

def get? (key : α) : Entries α β → Option β
  | [] => none
  | (other, value) :: rest => if key = other then some value else get? key rest

/-- Writes a value under a key; a new key goes to the end. -/
def put (key : α) (value : β) : Entries α β → Entries α β
  | [] => [(key, value)]
  | (other, old) :: rest =>
    if key = other then (other, value) :: rest else (other, old) :: put key value rest

def erase (key : α) (entries : Entries α β) : Entries α β :=
  entries.filter fun e => e.1 ≠ key

/-- The map that a sequence of writes builds. -/
def ofList (writes : List (α × β)) : Entries α β :=
  writes.foldl (fun entries e => entries.put e.1 e.2) []

def keys (entries : Entries α β) : List α :=
  entries.map Prod.fst

/-! ### What the writes do to the look-up -/

theorem get?_put (key other : α) (value : β) (entries : Entries α β) :
    (entries.put key value).get? other = if other = key then some value else entries.get? other := by
  induction entries with
  | nil => simp [put, get?]
  | cons e rest ih =>
    obtain ⟨k, v⟩ := e
    by_cases h : key = k
    · subst h; simp only [put, get?, if_true]; split <;> rfl
    · simp only [put, get?, h, if_false, ih]
      by_cases h₁ : other = k <;> by_cases h₂ : other = key <;> simp_all

theorem get?_erase (key other : α) (entries : Entries α β) :
    (entries.erase key).get? other = if other = key then none else entries.get? other := by
  induction entries with
  | nil => simp [erase, get?]
  | cons e rest ih =>
    obtain ⟨k, v⟩ := e
    simp only [erase, List.filter_cons] at ih ⊢
    by_cases h : k = key
    · subst h
      by_cases h₁ : other = k <;> simp_all [get?]
    · by_cases h₁ : other = k <;> simp_all [get?]

/-- What is found has a key. -/
theorem mem_keys_of_get?_ne_none {key : α} {entries : Entries α β} (h : entries.get? key ≠ none) :
    key ∈ entries.keys := by
  induction entries with
  | nil => exact absurd rfl h
  | cons e rest ih =>
    obtain ⟨k, v⟩ := e
    rw [get?] at h
    by_cases hkey : key = k
    · simp [keys, hkey]
    · rw [if_neg hkey] at h
      exact List.mem_cons_of_mem _ (ih h)

theorem mem_of_get?_eq_some {key : α} {value : β} {entries : Entries α β} (h : entries.get? key = some value) :
    (key, value) ∈ entries := by
  induction entries with
  | nil => cases h
  | cons first rest ih =>
    obtain ⟨other, old⟩ := first
    rw [get?] at h
    split at h
    · rename_i hsame
      rw [hsame, Option.some.inj h]
      exact List.mem_cons_self
    · exact List.mem_cons_of_mem _ (ih h)

/-- Something is found under just the keys that are there. -/
theorem isSome_get?_iff {key : α} {entries : Entries α β} : (entries.get? key).isSome = true ↔ key ∈ entries.keys := by
  induction entries with
  | nil => simp [get?, keys]
  | cons e rest ih =>
    obtain ⟨other, value⟩ := e
    have hkeys : keys ((other, value) :: rest) = other :: keys rest := rfl
    rw [get?, hkeys, List.mem_cons, ← ih]
    by_cases h : key = other <;> simp [h]

/-- A key that is there once is found with whatever it stands with. -/
theorem get?_eq_some_iff {key : α} {value : β} {entries : Entries α β} (h : entries.keys.Nodup) :
    entries.get? key = some value ↔ (key, value) ∈ entries := by
  refine ⟨mem_of_get?_eq_some, fun hmem => ?_⟩
  induction entries with
  | nil => cases hmem
  | cons first rest ih =>
    obtain ⟨other, old⟩ := first
    obtain ⟨hnew, hrest⟩ : other ∉ rest.map Prod.fst ∧ (rest.map Prod.fst).Nodup := List.nodup_cons.1 h
    rw [get?]
    rcases List.mem_cons.1 hmem with heq | hmem
    · cases heq
      exact if_pos rfl
    · have hother : key ≠ other := fun heq => hnew (heq ▸ List.mem_map_of_mem (f := Prod.fst) hmem)
      rw [if_neg hother]
      exact ih hrest hmem

/-- Where every key is there once, it makes no difference from which end it is looked for. -/
theorem get?_reverse {entries : Entries α β} (h : entries.keys.Nodup) (key : α) :
    Entries.get? key entries.reverse = entries.get? key := by
  have hreverse : (Entries.keys entries.reverse).Nodup := by
    rw [keys, List.map_reverse]
    exact List.pairwise_reverse.2 (h.imp Ne.symm)
  ext value
  rw [get?_eq_some_iff hreverse, get?_eq_some_iff h, List.mem_reverse]

theorem get?_map {γ : Type} (f : β → γ) (key : α) (entries : Entries α β) :
    Entries.get? key (entries.map fun e => (e.1, f e.2)) = (entries.get? key).map f := by
  induction entries with
  | nil => rfl
  | cons e rest ih =>
    rw [List.map_cons, get?, get?, ih]
    split <;> rfl

theorem get?_append (key : α) (front back : Entries α β) :
    Entries.get? key (front ++ back) = (front.get? key).or (back.get? key) := by
  induction front with
  | nil => rfl
  | cons e front ih =>
    obtain ⟨other, value⟩ := e
    rw [List.cons_append, get?, get?, ih]
    split <;> rfl

/-- The last write under a key counts. -/
theorem get?_ofList (writes : List (α × β)) (key : α) :
    (ofList writes).get? key = Entries.get? key writes.reverse := by
  have hfrom (start : Entries α β) : Entries.get? key (writes.foldl (fun entries e => entries.put e.1 e.2) start) =
      (Entries.get? key writes.reverse).or (start.get? key) := by
    induction writes generalizing start with
    | nil => rfl
    | cons e writes ih =>
      rw [List.foldl_cons, ih, List.reverse_cons, get?_append, get?_put, get?, get?, Option.or_assoc]
      split <;> rfl
  rw [ofList, hfrom]
  exact Option.or_none

/-- What is written is there. -/
theorem mem_keys_ofList_iff {writes : List (α × β)} {key : α} : key ∈ (ofList writes).keys ↔ key ∈ keys writes := by
  rw [← isSome_get?_iff, get?_ofList, isSome_get?_iff, keys, List.map_reverse, List.mem_reverse, keys]

/-! ### What the writes leave -/

/-- Every write leaves only what was there and what it wrote. -/
theorem mem_put {key : α} {value : β} {entries : Entries α β} {e : α × β}
    (h : e ∈ entries.put key value) : e = (key, value) ∨ e ∈ entries := by
  induction entries with
  | nil => exact Or.inl (List.mem_singleton.1 h)
  | cons first rest ih =>
    obtain ⟨other, old⟩ := first
    unfold put at h
    split at h
    · rename_i hsame
      rcases List.mem_cons.1 h with rfl | h
      · exact Or.inl (by rw [hsame])
      · exact Or.inr (List.mem_cons_of_mem _ h)
    · rcases List.mem_cons.1 h with rfl | h
      · exact Or.inr List.mem_cons_self
      · exact (ih h).imp_right (List.mem_cons_of_mem _)

theorem mem_ofList {writes : List (α × β)} {e : α × β} (h : e ∈ ofList writes) : e ∈ writes := by
  have hall : ∀ e ∈ ofList writes, e ∈ writes := by
    refine List.foldlRecOn (motive := fun entries : Entries α β => ∀ e ∈ entries, e ∈ writes) writes _ (by simp) ?_
    intro entries hentries write hwrite e he
    rcases mem_put he with rfl | he
    · exact hwrite
    · exact hentries e he
  exact hall e h

/-! ### What the writes do to the keys -/

theorem keys_put (key : α) (value : β) (entries : Entries α β) :
    (entries.put key value).keys = if key ∈ entries.keys then entries.keys else entries.keys ++ [key] := by
  induction entries with
  | nil => rfl
  | cons e rest ih =>
    obtain ⟨k, v⟩ := e
    by_cases h : key = k
    · subst h
      simp [put, keys]
    · simp only [keys, List.map_cons, List.mem_cons, h, false_or] at ih ⊢
      simp only [put, if_neg h, List.map_cons, ih]
      by_cases hmem : key ∈ rest.map Prod.fst <;> simp [hmem]

/-- A key that is written is there once. -/
theorem nodup_keys_put {entries : Entries α β} (h : entries.keys.Nodup) (key : α) (value : β) :
    (entries.put key value).keys.Nodup := by
  rw [keys_put]
  split
  · exact h
  · rename_i hnew
    refine List.nodup_append.2 ⟨h, by simp, ?_⟩
    intro k hk l hl heq
    exact hnew (List.mem_singleton.1 hl ▸ heq ▸ hk)

/-- A write passes by the entries under other keys. -/
theorem put_append_of_not_mem {key : α} {front : Entries α β} (h : key ∉ front.keys) (value : β)
    (back : Entries α β) : put key value (front ++ back) = front ++ back.put key value := by
  induction front with
  | nil => rfl
  | cons e front ih =>
    obtain ⟨other, old⟩ := e
    obtain ⟨hother, hfront⟩ := not_or.1 (mt List.mem_cons.2 h)
    rw [List.cons_append, put, if_neg hother, ih hfront, List.cons_append]

private theorem foldl_put_append {front : Entries α β} (writes start : Entries α β)
    (h : ∀ e ∈ writes, e.1 ∉ front.keys) :
    writes.foldl (fun entries e => entries.put e.1 e.2) (front ++ start) =
      front ++ writes.foldl (fun entries e => entries.put e.1 e.2) start := by
  induction writes generalizing start with
  | nil => rfl
  | cons e writes ih =>
    obtain ⟨hfirst, hrest⟩ := List.forall_mem_cons.1 h
    rw [List.foldl_cons, put_append_of_not_mem hfirst, ih _ hrest, List.foldl_cons]

/-- Writes under different keys are all there is, in order. -/
theorem ofList_of_nodup {writes : Entries α β} (h : writes.keys.Nodup) : ofList writes = writes := by
  induction writes with
  | nil => rfl
  | cons e writes ih =>
    obtain ⟨hnew, hrest⟩ : e.1 ∉ keys writes ∧ (keys writes).Nodup := List.nodup_cons.1 h
    have hother : ∀ e' ∈ writes, e'.1 ∉ keys [e] := fun e' he' hsame =>
      hnew (List.mem_singleton.1 hsame ▸ List.mem_map_of_mem (f := Prod.fst) he')
    exact (foldl_put_append writes [] hother).trans (congrArg (e :: ·) (ih hrest))

/-- Writes under keys of their own come behind what is written before, if this is under different keys. -/
theorem ofList_append {front back : Entries α β} (hfront : front.keys.Nodup) (h : ∀ e ∈ back, e.1 ∉ front.keys) :
    ofList (front ++ back) = front ++ ofList back := by
  have hall := foldl_put_append back [] h
  rw [List.append_nil] at hall
  rw [ofList, List.foldl_append, ← ofList, ofList_of_nodup hfront, hall]
  rfl

/-- Later writes are looked at first. -/
theorem get?_ofList_append (key : α) (front back : List (α × β)) :
    (ofList (front ++ back)).get? key = ((ofList back).get? key).or ((ofList front).get? key) := by
  simp only [get?_ofList, List.reverse_append, get?_append]

/-- However often a key is written, it is there once. -/
theorem nodup_keys_ofList (writes : List (α × β)) : (ofList writes).keys.Nodup :=
  List.foldlRecOn (motive := fun entries : Entries α β => entries.keys.Nodup) writes _ List.nodup_nil
    fun _ h write _ => nodup_keys_put h write.1 write.2

end Entries

end CrudScaffold
