/-!
# Named values

Lists of values under names, in the order in which the names first appeared.  Setting a name that
is there replaces its value and keeps its place.
-/

namespace FilterQuery

abbrev Named (α : Type) := List (String × α)

namespace Named

variable {α : Type}

def set (name : String) (value : α) : Named α → Named α
  | [] => [(name, value)]
  | (n, v) :: rest =>
      if n = name then (n, value) :: rest else (n, v) :: set name value rest

def get? (name : String) : Named α → Option α
  | [] => none
  | (n, v) :: rest => if n = name then some v else get? name rest

def names (entries : Named α) : List String :=
  entries.map Prod.fst

/-- The entries after the pairs of a list were set one after another. -/
def extend (entries : Named α) (pairs : List (String × α)) : Named α :=
  pairs.foldl (fun entries pair => set pair.1 pair.2 entries) entries

def ofPairs (pairs : List (String × α)) : Named α :=
  extend [] pairs

@[simp] theorem get?_set_self (name : String) (value : α) (entries : Named α) :
    get? name (set name value entries) = some value := by
  induction entries with
  | nil => simp [set, get?]
  | cons entry rest ih =>
    by_cases hname : entry.1 = name <;> simp [set, get?, hname, ih]

theorem get?_set_of_ne {name other : String} (hne : other ≠ name) (value : α)
    (entries : Named α) :
    get? other (set name value entries) = get? other entries := by
  induction entries with
  | nil => simp [set, get?, hne.symm]
  | cons entry rest ih =>
    by_cases hname : entry.1 = name
    · simp [set, get?, hname, hne.symm]
    · simp [set, get?, hname, ih]

theorem isSome_get?_iff {name : String} {entries : Named α} :
    (get? name entries).isSome = true ↔ name ∈ names entries := by
  induction entries with
  | nil => simp [get?, names]
  | cons entry rest ih =>
    simp only [get?, names, List.map_cons, List.mem_cons] at ih ⊢
    by_cases hname : entry.1 = name
    · simp [hname]
    · rw [if_neg hname, ih]
      exact ⟨.inr, fun hmem => hmem.resolve_left (Ne.symm hname)⟩

theorem names_set (name : String) (value : α) (entries : Named α) :
    names (set name value entries) =
      if name ∈ names entries then names entries else names entries ++ [name] := by
  induction entries with
  | nil => simp [set, names]
  | cons entry rest ih =>
    by_cases hname : entry.1 = name
    · simp [set, names, hname]
    · have hflip : ¬ name = entry.1 := fun heq => hname heq.symm
      simp only [names] at ih
      simp only [set, names, hname, if_false, List.map_cons, List.mem_cons, hflip, false_or, ih]
      split <;> simp_all

theorem set_of_notMem {name : String} {entries : Named α}
    (hnew : name ∉ names entries) (value : α) :
    set name value entries = entries ++ [(name, value)] := by
  induction entries with
  | nil => rfl
  | cons entry rest ih =>
    simp only [names, List.map_cons, List.mem_cons, not_or] at hnew
    have hrest := ih hnew.2
    simp only [set, if_neg (Ne.symm hnew.1), hrest, List.cons_append]

/-- New names come behind the old ones. -/
theorem extend_eq_append {entries pairs : Named α}
    (hnew : ∀ name ∈ names pairs, name ∉ names entries) (hnodup : (names pairs).Nodup) :
    extend entries pairs = entries ++ pairs := by
  induction pairs generalizing entries with
  | nil => simp [extend]
  | cons pair rest ih =>
    simp only [names, List.map_cons, List.mem_cons, List.nodup_cons] at hnew hnodup
    have hset := set_of_notMem (hnew pair.1 (.inl rfl)) pair.2
    have hstep : extend entries (pair :: rest) = extend (entries ++ [pair]) rest := by
      rw [← hset]
      rfl
    have hfresh : ∀ name ∈ names rest, name ∉ names (entries ++ [pair]) := by
      intro name hmem
      simp only [names, List.map_append, List.map_cons, List.map_nil, List.mem_append,
        List.mem_singleton, not_or]
      exact ⟨hnew name (.inr hmem), fun heq => hnodup.1 (heq ▸ hmem)⟩
    rw [hstep, ih hfresh hnodup.2, List.append_assoc, List.singleton_append]

end Named

end FilterQuery
