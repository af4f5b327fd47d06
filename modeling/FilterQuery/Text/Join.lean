/-!
# Joined texts
-/

namespace FilterQuery.Text

def joined (separator : String) : List String → String
  | [] => ""
  | [part] => part
  | part :: next :: rest => part ++ separator ++ joined separator (next :: rest)

@[simp] theorem joined_nil (separator : String) : joined separator [] = "" := rfl

@[simp] theorem joined_singleton (separator part : String) :
    joined separator [part] = part := rfl

theorem joined_cons_cons (separator part next : String) (rest : List String) :
    joined separator (part :: next :: rest) =
      part ++ separator ++ joined separator (next :: rest) := rfl

theorem joined_eq_intercalate (separator : String) (parts : List String) :
    joined separator parts = separator.intercalate parts := by
  fun_induction joined separator parts with
  | case1 => rw [String.intercalate_nil]
  | case2 part => rw [String.intercalate_singleton]
  | case3 part next rest ih => rw [ih, String.intercalate_cons_cons]

theorem joined_empty_cons (part : String) (rest : List String) :
    joined "" (part :: rest) = part ++ joined "" rest := by
  cases rest with
  | nil => simp
  | cons next rest => rw [joined_cons_cons, String.append_empty]

theorem notMem_joined {c : Char} {separator : String} (hseparator : c ∉ separator.toList)
    {parts : List String} (hparts : ∀ part ∈ parts, c ∉ part.toList) :
    c ∉ (joined separator parts).toList := by
  induction parts with
  | nil => simp
  | cons part rest ih =>
      have hpart := hparts part List.mem_cons_self
      have hrest := ih fun part hmem => hparts part (List.mem_cons_of_mem _ hmem)
      cases rest with
      | nil => exact hpart
      | cons next rest =>
          rw [joined_cons_cons]
          simp only [String.toList_append, List.mem_append, not_or]
          exact ⟨⟨hpart, hseparator⟩, hrest⟩

end FilterQuery.Text
