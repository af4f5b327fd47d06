/-!
# Sorted entries

Lists of values under keys that are kept in ascending order of the keys.
-/

namespace FilterQuery

abbrev Sorted (κ α : Type) := List (κ × α)

namespace Sorted

variable {κ α : Type} [LT κ] [DecidableLT κ] [DecidableEq κ]

def set (key : κ) (value : α) : Sorted κ α → Sorted κ α
  | [] => [(key, value)]
  | (k, v) :: rest =>
      if key = k then (key, value) :: rest
      else if key < k then (key, value) :: (k, v) :: rest
      else (k, v) :: set key value rest

def get? (key : κ) : Sorted κ α → Option α
  | [] => none
  | (k, v) :: rest => if k = key then some v else get? key rest

omit [LT κ] [DecidableLT κ] in
@[simp] theorem get?_nil (key : κ) : get? key ([] : Sorted κ α) = none := rfl

@[simp] theorem get?_set_self (key : κ) (value : α) (entries : Sorted κ α) :
    get? key (set key value entries) = some value := by
  induction entries with
  | nil => simp [set, get?]
  | cons entry rest ih =>
    simp only [set]
    split
    · simp [get?]
    · split
      · simp [get?]
      · next hne _ =>
        have hflip : ¬ entry.1 = key := fun heq => hne heq.symm
        simp [get?, hflip, ih]

theorem get?_set_of_ne {key other : κ} (hne : other ≠ key) (value : α)
    (entries : Sorted κ α) :
    get? other (set key value entries) = get? other entries := by
  induction entries with
  | nil => simp [set, get?, hne.symm]
  | cons entry rest ih =>
    simp only [set]
    split
    · next heq => simp [get?, ← heq, hne.symm]
    · split
      · simp [get?, hne.symm]
      · simp [get?, ih]

omit [LT κ] [DecidableLT κ] in
theorem isSome_get?_iff {key : κ} {entries : Sorted κ α} :
    (get? key entries).isSome = true ↔ key ∈ entries.map Prod.fst := by
  induction entries with
  | nil => simp
  | cons entry rest ih =>
    rw [List.map_cons, List.mem_cons, ← ih, get?]
    by_cases heq : entry.1 = key
    · simp [heq]
    · simp [heq, Ne.symm heq]

/-- A new key comes to the entries that were there. -/
theorem set_perm {key : κ} {entries : Sorted κ α} (hnew : get? key entries = none) (value : α) :
    (set key value entries).Perm ((key, value) :: entries) := by
  induction entries with
  | nil => exact List.Perm.refl _
  | cons entry rest ih =>
    obtain ⟨k, v⟩ := entry
    have hne : k ≠ key := by
      intro heq
      simp [get?, heq] at hnew
    have hrest : get? key rest = none := by
      simpa [get?, hne] using hnew
    rw [set, if_neg (Ne.symm hne)]
    split
    · exact List.Perm.refl _
    · exact ((ih hrest).cons (k, v)).trans (List.Perm.swap _ _ _)

end Sorted

/-! ## Ascending keys -/

namespace Sorted

section Lookup

variable {κ α β : Type} [DecidableEq κ]

theorem mem_of_get?_eq_some {key : κ} {value : α} {entries : Sorted κ α}
    (hget : get? key entries = some value) : (key, value) ∈ entries := by
  induction entries with
  | nil => simp at hget
  | cons entry rest ih =>
    rw [get?] at hget
    split at hget
    · next heq =>
      rw [← heq, ← Option.some.inj hget]
      exact List.mem_cons_self
    · exact List.mem_cons_of_mem entry (ih hget)

theorem get?_map (key : κ) (entries : Sorted κ α) (f : α → β) :
    get? key (entries.map fun entry => (entry.1, f entry.2)) = (get? key entries).map f := by
  induction entries with
  | nil => rfl
  | cons entry rest ih =>
    rw [List.map_cons, get?, get?, ih]
    split <;> rfl

end Lookup

section Ascending

variable {κ α β : Type} [LT κ]

/-- Every key comes before those of the entries behind it. -/
def Ascending (entries : Sorted κ α) : Prop :=
  entries.Pairwise fun a b => a.1 < b.1

theorem Ascending.map {entries : Sorted κ α} (hentries : Ascending entries) (f : α → β) :
    Ascending (entries.map fun entry => (entry.1, f entry.2)) :=
  List.pairwise_map.2 hentries

variable [DecidableEq κ]

theorem eq_or_mem_of_mem_set [DecidableLT κ] {key : κ} {value : α} {entries : Sorted κ α}
    {entry : κ × α} (hmem : entry ∈ set key value entries) :
    entry = (key, value) ∨ entry ∈ entries := by
  induction entries with
  | nil => exact .inl (List.mem_singleton.1 hmem)
  | cons first rest ih =>
    rw [set] at hmem
    split at hmem
    · exact (List.mem_cons.1 hmem).imp_right (List.mem_cons_of_mem first)
    · split at hmem
      · exact List.mem_cons.1 hmem
      · rcases List.mem_cons.1 hmem with rfl | hrest
        · exact .inr List.mem_cons_self
        · exact (ih hrest).imp_right (List.mem_cons_of_mem first)

variable [Std.Irrefl fun a b : κ => a < b]

omit [DecidableEq κ] in
private theorem ne_of_before {a b : κ} (hlt : a < b) : b ≠ a := by
  rintro rfl
  exact Std.Irrefl.irrefl (r := fun a b : κ => a < b) b hlt

theorem get?_of_before {key : κ} {entries : Sorted κ α}
    (hbefore : ∀ entry ∈ entries, key < entry.1) : get? key entries = none := by
  induction entries with
  | nil => rfl
  | cons entry rest ih =>
    rw [get?, if_neg (ne_of_before (hbefore entry List.mem_cons_self))]
    exact ih fun other hmem => hbefore other (List.mem_cons_of_mem entry hmem)

theorem Ascending.get?_eq_some_iff {entries : Sorted κ α} (hentries : Ascending entries)
    {key : κ} {value : α} : get? key entries = some value ↔ (key, value) ∈ entries := by
  refine ⟨mem_of_get?_eq_some, fun hmem => ?_⟩
  induction entries with
  | nil => simp at hmem
  | cons entry rest ih =>
    obtain ⟨hfirst, hrest⟩ := List.pairwise_cons.1 hentries
    rcases List.mem_cons.1 hmem with rfl | hmem
    · rw [get?, if_pos rfl]
    · rw [get?, if_neg (ne_of_before (hfirst (key, value) hmem)).symm]
      exact ih hrest hmem

variable [Trans (fun a b : κ => a < b) (fun a b : κ => a < b) (fun a b : κ => a < b)]

/-- A key that comes before the first one is not there. -/
theorem Ascending.get?_of_head_before {key : κ} {first : κ × α} {rest : Sorted κ α}
    (hentries : Ascending (first :: rest)) (hlt : key < first.1) :
    get? key (first :: rest) = none := by
  refine get?_of_before fun entry hmem => ?_
  rcases List.mem_cons.1 hmem with rfl | hmem
  · exact hlt
  · exact Trans.trans hlt ((List.pairwise_cons.1 hentries).1 entry hmem)

variable [Std.Trichotomous fun a b : κ => a < b]

omit [Std.Irrefl fun a b : κ => a < b] in
theorem Ascending.set [DecidableLT κ] {entries : Sorted κ α} (hentries : Ascending entries)
    (key : κ) (value : α) : Ascending (set key value entries) := by
  induction entries with
  | nil => exact List.pairwise_singleton _ _
  | cons first rest ih =>
    obtain ⟨hfirst, hrest⟩ := List.pairwise_cons.1 hentries
    rw [Sorted.set]
    split
    · next heq =>
      subst heq
      exact List.pairwise_cons.2 ⟨hfirst, hrest⟩
    · next hne =>
      split
      · next hlt =>
        refine List.pairwise_cons.2 ⟨fun entry hmem => ?_, hentries⟩
        rcases List.mem_cons.1 hmem with rfl | hmem
        · exact hlt
        · exact Trans.trans hlt (hfirst entry hmem)
      · next hge =>
        have hgt : first.1 < key := by
          by_cases hgt : first.1 < key
          · exact hgt
          · exact absurd (Std.Trichotomous.trichotomous _ _ hge hgt) hne
        refine List.pairwise_cons.2 ⟨fun entry hmem => ?_, ih hrest⟩
        rcases eq_or_mem_of_mem_set hmem with rfl | hmem
        · exact hgt
        · exact hfirst entry hmem

/-- Ascending entries with the same look-ups are the same entries. -/
theorem Ascending.ext {left right : Sorted κ α} (hleft : Ascending left)
    (hright : Ascending right) (hsame : ∀ key, get? key left = get? key right) :
    left = right := by
  induction left generalizing right with
  | nil =>
    cases right with
    | nil => rfl
    | cons second others =>
      have hfound := hsame second.1
      simp [get?] at hfound
  | cons first rest ih =>
    cases right with
    | nil =>
      have hfound := hsame first.1
      simp [get?] at hfound
    | cons second others =>
      have hkeys : first.1 = second.1 := by
        apply Std.Trichotomous.trichotomous (r := fun a b : κ => a < b)
        · intro hlt
          have hfound := hsame first.1
          rw [hright.get?_of_head_before hlt, get?, if_pos rfl] at hfound
          cases hfound
        · intro hlt
          have hfound := hsame second.1
          rw [hleft.get?_of_head_before hlt, get?, if_pos rfl] at hfound
          cases hfound
      obtain ⟨key, value⟩ := first
      obtain ⟨other, otherValue⟩ := second
      subst hkeys
      have hvalues : value = otherValue := by simpa [get?] using hsame key
      subst hvalues
      have hrests : rest = others := by
        refine ih (List.pairwise_cons.1 hleft).2 (List.pairwise_cons.1 hright).2 fun query => ?_
        by_cases heq : key = query
        · subst heq
          rw [get?_of_before (List.pairwise_cons.1 hleft).1,
            get?_of_before (List.pairwise_cons.1 hright).1]
        · simpa [get?, heq] using hsame query
      rw [hrests]

end Ascending

end Sorted

end FilterQuery
