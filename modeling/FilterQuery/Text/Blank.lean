/-!
# Blanks

The characters with the Unicode property `White_Space`, and the removal of those that surround a
text.
-/

namespace FilterQuery.Text

def isBlank (c : Char) : Bool :=
  let code := c.toNat
  (0x09 ≤ code && code ≤ 0x0D) || code == 0x20 || code == 0x85 || code == 0xA0 ||
    code == 0x1680 || (0x2000 ≤ code && code ≤ 0x200A) || code == 0x2028 || code == 0x2029 ||
    code == 0x202F || code == 0x205F || code == 0x3000

def dropTrailingBlanks (chars : List Char) : List Char :=
  (chars.reverse.dropWhile isBlank).reverse

def trimChars (chars : List Char) : List Char :=
  dropTrailingBlanks (chars.dropWhile isBlank)

def trim (text : String) : String :=
  String.ofList (trimChars text.toList)

@[simp] theorem trimChars_nil : trimChars [] = [] := rfl

theorem dropWhile_isBlank {chars : List Char} (hbegin : ∀ c ∈ chars.head?, isBlank c = false) :
    chars.dropWhile isBlank = chars := by
  cases chars with
  | nil => rfl
  | cons c rest => rw [List.dropWhile_cons_of_neg (by simp [hbegin c rfl])]

theorem dropTrailingBlanks_of_not_isBlank {chars : List Char}
    (hend : ∀ c ∈ chars.getLast?, isBlank c = false) : dropTrailingBlanks chars = chars := by
  rw [dropTrailingBlanks, dropWhile_isBlank (by simpa using hend), List.reverse_reverse]

theorem not_isBlank_head?_dropWhile (chars : List Char) :
    ∀ c ∈ (chars.dropWhile isBlank).head?, isBlank c = false := by
  intro c hc
  have hhead := List.head?_dropWhile_not isBlank chars
  rw [Option.mem_def.1 hc] at hhead
  exact hhead

theorem dropTrailingBlanks_isPrefix (chars : List Char) : dropTrailingBlanks chars <+: chars := by
  have hsuffix := List.reverse_prefix.2 (List.dropWhile_suffix (l := chars.reverse) isBlank)
  rwa [List.reverse_reverse] at hsuffix

theorem trimChars_sublist (chars : List Char) : (trimChars chars).Sublist chars :=
  (dropTrailingBlanks_isPrefix _).sublist.trans (List.dropWhile_suffix isBlank).sublist

theorem not_isBlank_head?_trimChars (chars : List Char) :
    ∀ c ∈ (trimChars chars).head?, isBlank c = false := by
  intro c hc
  obtain ⟨dropped, hdropped⟩ := dropTrailingBlanks_isPrefix (chars.dropWhile isBlank)
  refine not_isBlank_head?_dropWhile chars c ?_
  rw [← hdropped, List.head?_append, ← trimChars, Option.mem_def.1 hc]
  rfl

theorem not_isBlank_getLast?_trimChars (chars : List Char) :
    ∀ c ∈ (trimChars chars).getLast?, isBlank c = false := by
  intro c hc
  rw [trimChars, dropTrailingBlanks, List.getLast?_reverse] at hc
  exact not_isBlank_head?_dropWhile _ c hc

theorem dropTrailingBlanks_append {blanks : List Char} (chars : List Char)
    (hblanks : ∀ c ∈ blanks, isBlank c = true) :
    dropTrailingBlanks (chars ++ blanks) = dropTrailingBlanks chars := by
  rw [dropTrailingBlanks, List.reverse_append,
    List.dropWhile_append_of_pos (by simpa using hblanks), dropTrailingBlanks]

/-- Blanks in front of a text and behind it do not count. -/
theorem trimChars_surrounded {before after : List Char} (chars : List Char)
    (hbefore : ∀ c ∈ before, isBlank c = true) (hafter : ∀ c ∈ after, isBlank c = true) :
    trimChars (before ++ chars ++ after) = trimChars chars := by
  rw [trimChars, List.append_assoc, List.dropWhile_append_of_pos hbefore, List.dropWhile_append]
  split
  · next hempty =>
      have hblank : after.dropWhile isBlank = [] := by
        rw [← List.append_nil after, List.dropWhile_append_of_pos hafter, List.dropWhile_nil]
      rw [trimChars, List.isEmpty_iff.1 hempty, hblank]
  · exact dropTrailingBlanks_append _ hafter

theorem toList_trim (text : String) : (trim text).toList = trimChars text.toList :=
  String.toList_ofList

theorem not_isBlank_head?_trim (text : String) :
    ∀ c ∈ (trim text).toList.head?, isBlank c = false := by
  rw [toList_trim]
  exact not_isBlank_head?_trimChars text.toList

theorem not_isBlank_getLast?_trim (text : String) :
    ∀ c ∈ (trim text).toList.getLast?, isBlank c = false := by
  rw [toList_trim]
  exact not_isBlank_getLast?_trimChars text.toList

theorem trim_of_not_isBlank {text : String}
    (hbegin : ∀ c ∈ text.toList.head?, isBlank c = false)
    (hend : ∀ c ∈ text.toList.getLast?, isBlank c = false) : trim text = text := by
  rw [trim, trimChars, dropWhile_isBlank hbegin, dropTrailingBlanks_of_not_isBlank hend,
    String.ofList_toList]

theorem trim_trim (text : String) : trim (trim text) = trim text :=
  trim_of_not_isBlank (not_isBlank_head?_trim text) (not_isBlank_getLast?_trim text)

end FilterQuery.Text
