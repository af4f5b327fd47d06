import FilterQuery.System.Path

/-!
# Settled paths

Expanding leaves a path alone if it is absolute and has no blank at its end, and changes every other
one.  What expanding gives is such a path, whichever form the text had: a path may be expanded again
by whoever receives it, and from any other directory.
-/

namespace FilterQuery.Path

/-- An absolute path without a blank at its end. -/
structure IsSettled (path : String) : Prop where
  absolute : isAbsolute path = true
  ending : ∀ c ∈ path.toList.getLast?, Text.isBlank c = false

theorem IsSettled.of_getLast? {path : String} {c : Char} (habsolute : isAbsolute path = true)
    (hlast : path.toList.getLast? = some c) (hc : Text.isBlank c = false) : IsSettled path := by
  refine ⟨habsolute, ?_⟩
  rw [hlast]
  rintro _ ⟨⟩
  exact hc

theorem IsSettled.ne_empty {path : String} (hpath : IsSettled path) : path ≠ "" := by
  rintro rfl
  have habsolute := hpath.absolute
  simp [isAbsolute] at habsolute

/-! ## Joins -/

/-- Behind a settled base at most a slash comes before a path that has no blank at its end. -/
theorem IsSettled.join {base path : String} (hbase : IsSettled base)
    (hpath : ∀ c ∈ path.toList.getLast?, Text.isBlank c = false) : IsSettled (join base path) := by
  refine ⟨isAbsolute_join path hbase.absolute, ?_⟩
  by_cases hempty : path = ""
  · -- Nothing is joined, so that the base ends the path or the slash behind it does.
    subst hempty
    have hrelative : isAbsolute "" = false := rfl
    rw [Path.join, if_neg (by simp [hrelative])]
    split
    · rw [String.append_empty]
      exact hbase.ending
    · intro c hc
      have hslash : c = '/' := by simpa using hc.symm
      rw [hslash]
      decide
  · rw [getLast?_join base hempty]
    exact hpath

section Expansion

variable {directories : Directories} {path : String}

theorem ending_expandHome (hhome : IsSettled directories.home)
    (hpath : ∀ c ∈ path.toList.getLast?, Text.isBlank c = false) :
    ∀ c ∈ (expandHome directories path).toList.getLast?, Text.isBlank c = false := by
  unfold expandHome
  split
  · exact hhome.ending
  · next rest hchars =>
      refine (hhome.join ?_).ending
      intro c hc
      rw [String.toList_ofList] at hc
      refine hpath c ?_
      rw [hchars, List.getLast?_cons_cons, List.getLast?_cons, Option.mem_def.1 hc]
      rfl
  · exact hpath

theorem isSettled_expand (hhome : IsSettled directories.home)
    (hcurrent : IsSettled directories.current) (path : String) :
    IsSettled (expand directories path) := by
  rw [expand]
  split
  · exact hcurrent
  · apply hcurrent.join
    apply ending_expandHome hhome
    exact Text.not_isBlank_getLast?_trim path

theorem IsSettled.expand_eq (hpath : IsSettled path) (directories : Directories) :
    expand directories path = path := by
  rw [expand_of_isLiteral (.of_isAbsolute hpath.absolute) hpath.ne_empty hpath.ending,
    join_of_isAbsolute hpath.absolute]

theorem expand_surrounded (directories : Directories) (path : String) {before after : String}
    (hbefore : ∀ c ∈ before.toList, Text.isBlank c = true)
    (hafter : ∀ c ∈ after.toList, Text.isBlank c = true) :
    expand directories (before ++ path ++ after) = expand directories path := by
  have htrim : Text.trim (before ++ path ++ after) = Text.trim path := by
    rw [Text.trim, String.toList_append, String.toList_append,
      Text.trimChars_surrounded path.toList hbefore hafter, Text.trim]
  rw [expand, htrim, ← expand]

/-- Expanding gives an absolute path, and gives every path back that it gave, from these directories
and from any others.  The paths that it gives back are the absolute ones without a blank at their
end.  Blanks around the text do not matter, whether they are added to it or removed from it. -/
theorem expand_settles (hhome : IsSettled directories.home)
    (hcurrent : IsSettled directories.current) (path : String) :
    isAbsolute (expand directories path) = true ∧
      (∀ others : Directories,
        expand others (expand directories path) = expand directories path) ∧
      (expand directories path = path ↔ IsSettled path) ∧
      expand directories (Text.trim path) = expand directories path ∧
      ∀ before after : String, (∀ c ∈ before.toList, Text.isBlank c = true) →
        (∀ c ∈ after.toList, Text.isBlank c = true) →
          expand directories (before ++ path ++ after) = expand directories path := by
  have hsettled := isSettled_expand hhome hcurrent path
  refine ⟨hsettled.absolute, fun others => hsettled.expand_eq others, ?_, ?_, ?_⟩
  · constructor
    · intro hsame
      rwa [hsame] at hsettled
    · intro hpath
      exact hpath.expand_eq directories
  · rw [expand, Text.trim_trim, ← expand]
  · intro before after hbefore hafter
    exact expand_surrounded directories path hbefore hafter

/-- The home directory with a slash behind it, for a text that says no more than that. -/
theorem expand_settles_of_home :
    let directories : Directories := ⟨"/home/ann", "/srv"⟩
    IsSettled directories.home ∧ IsSettled directories.current ∧
      expand directories "~/" = "/home/ann/" ∧
      isAbsolute "/home/ann/" = true ∧
      expand directories "/home/ann/" = "/home/ann/" ∧
      expand ⟨"/root", "/"⟩ "/home/ann/" = "/home/ann/" ∧
      expand directories "\n ~/\t" = "/home/ann/" := by
  intro directories
  have hhome : IsSettled directories.home :=
    .of_getLast? (by decide) (by decide : _ = some 'n') (by decide)
  have hcurrent : IsSettled directories.current :=
    .of_getLast? (by decide) (by decide : _ = some 'v') (by decide)
  have hfirst : expand directories "~/" = "/home/ann/" := by decide
  obtain ⟨habsolute, hothers, -, -, hblanks⟩ := expand_settles hhome hcurrent "~/"
  have hsurrounded := hblanks "\n " "\t" (List.all_eq_true.1 (by decide))
    (List.all_eq_true.1 (by decide))
  rw [hfirst] at habsolute hothers hsurrounded
  exact ⟨hhome, hcurrent, hfirst, habsolute, hothers directories, hothers ⟨"/root", "/"⟩,
    hsurrounded⟩

end Expansion

end FilterQuery.Path
