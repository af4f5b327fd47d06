import FilterQuery.Text.SnakeCase

/-!
# Separated words

The snake case of an ASCII name is the trimmed name in small letters with underscores put in, each
of them between two letters or digits.  All that is said of snake case follows from this relation of
the two texts: nothing of the name is lost or moved, and no underscore is put where another one
stands, nor at an end.
-/

namespace FilterQuery.Text

/-! ## Underscores between words -/

/-- The second text is the first one with underscores put in, each between two letters or digits.
The character of the first text that comes before it is known, if there is one. -/
inductive Separated : Option Char → List Char → List Char → Prop
  | nil (previous : Option Char) : Separated previous [] []
  | keep {previous : Option Char} {c : Char} {text separated : List Char}
      (hrest : Separated (some c) text separated) : Separated previous (c :: text) (c :: separated)
  | insert {previous c : Char} {text separated : List Char}
      (hprevious : previous.isAlphanum = true) (hc : c.isAlphanum = true)
      (hrest : Separated (some c) text separated) :
      Separated (some previous) (c :: text) ('_' :: c :: separated)

/-- The number of underscores that come right behind another one. -/
def doubledUnderscores (chars : List Char) : Nat :=
  (chars.zip chars.tail).count ('_', '_')

theorem doubledUnderscores_cons_cons (first second : Char) (rest : List Char) :
    doubledUnderscores (first :: second :: rest) =
      doubledUnderscores (second :: rest) + if (first, second) = ('_', '_') then 1 else 0 := by
  rw [doubledUnderscores, List.tail_cons, List.zip_cons_cons, List.count_cons, doubledUnderscores,
    List.tail_cons]
  simp only [beq_iff_eq]

theorem ne_underscore_of_isAlphanum {c : Char} (hc : c.isAlphanum = true) : c ≠ '_' := by
  rintro rfl
  revert hc
  decide

namespace Separated

variable {previous : Option Char} {text separated : List Char}

theorem mem_or_eq (hseparated : Separated previous text separated) {c : Char}
    (hc : c ∈ separated) : c ∈ text ∨ c = '_' := by
  induction hseparated with
  | nil => exact .inl hc
  | keep _ ih =>
      rcases List.mem_cons.1 hc with rfl | hrest
      · exact .inl List.mem_cons_self
      · exact (ih hrest).imp_left (List.mem_cons_of_mem _)
  | insert _ _ _ ih =>
      rcases List.mem_cons.1 hc with rfl | hc
      · exact .inr rfl
      · rcases List.mem_cons.1 hc with rfl | hrest
        · exact .inl List.mem_cons_self
        · exact (ih hrest).imp_left (List.mem_cons_of_mem _)

theorem filter_eq (hseparated : Separated previous text separated) :
    separated.filter (· ≠ '_') = text.filter (· ≠ '_') := by
  induction hseparated with
  | nil => rfl
  | keep _ ih => rw [List.filter_cons, List.filter_cons, ih]
  | insert _ _ _ ih =>
      rw [List.filter_cons_of_neg (by simp), List.filter_cons, List.filter_cons, ih]

theorem getLast?_eq (hseparated : Separated previous text separated) :
    separated.getLast? = text.getLast? := by
  induction hseparated with
  | nil => rfl
  | keep _ ih => rw [List.getLast?_cons, List.getLast?_cons, ih]
  | insert _ _ _ ih =>
      rw [List.getLast?_cons_cons, List.getLast?_cons, List.getLast?_cons, ih]

/-- At the beginning of a text there is nothing to separate. -/
theorem head?_eq (hseparated : Separated none text separated) :
    separated.head? = text.head? := by
  cases hseparated with
  | nil => rfl
  | keep => rfl

theorem doubledUnderscores_cons {p : Char} (hseparated : Separated (some p) text separated) :
    doubledUnderscores (p :: separated) = doubledUnderscores (p :: text) := by
  induction text generalizing p separated with
  | nil =>
      cases hseparated
      rfl
  | cons c text ih =>
      cases hseparated with
      | keep hrest =>
          rw [doubledUnderscores_cons_cons, doubledUnderscores_cons_cons, ih hrest]
      | insert hp hc hrest =>
          -- Neither neighbour of the new underscore is one, so it makes no pair with them.
          have hpair : p ≠ '_' := ne_underscore_of_isAlphanum hp
          have hnext : c ≠ '_' := ne_underscore_of_isAlphanum hc
          simp only [doubledUnderscores_cons_cons, ih hrest, Prod.mk.injEq, hpair, hnext,
            and_false, false_and, if_false]

theorem doubledUnderscores_eq (hseparated : Separated none text separated) :
    doubledUnderscores separated = doubledUnderscores text := by
  cases hseparated with
  | nil => rfl
  | keep hrest => exact hrest.doubledUnderscores_cons

end Separated

/-! ## ASCII characters -/

def IsAscii (chars : List Char) : Prop :=
  ∀ c ∈ chars, c.toNat < 128

/-- A property of all ASCII characters can be tried out on their numbers. -/
theorem forall_ascii {P : Char → Prop} (hall : ∀ n < 128, P (Char.ofNat n)) {c : Char}
    (hc : c.toNat < 128) : P c := by
  rw [← Char.ofNat_toNat c]
  exact hall c.toNat hc

section Ascii

variable {c : Char} (hc : c.toNat < 128)

include hc

theorem lower_of_ascii : lower c = [c.toLower] := by
  rw [lower, if_pos hc]

theorem isUpper_toLower : isUpper c.toLower = false :=
  forall_ascii (P := fun c => isUpper c.toLower = false) (by decide) hc

theorem toLower_of_not_isUpper (hupper : isUpper c = false) : c.toLower = c :=
  forall_ascii (P := fun c => isUpper c = false → c.toLower = c) (by decide) hc hupper

theorem toLower_eq_underscore_iff : c.toLower = '_' ↔ c = '_' :=
  forall_ascii (P := fun c => c.toLower = '_' ↔ c = '_') (by decide) hc

theorem isBlank_toLower : isBlank c.toLower = isBlank c :=
  forall_ascii (P := fun c => isBlank c.toLower = isBlank c) (by decide) hc

theorem isAlphanum_toLower_of_isUpper (hupper : isUpper c = true) :
    c.toLower.isAlphanum = true :=
  forall_ascii (P := fun c => isUpper c = true → c.toLower.isAlphanum = true) (by decide) hc hupper

/-- Words start behind letters and digits only. -/
theorem isAlphanum_toLower_of_startsWord {next : Option Char}
    (hstarts : startsWord (some c) next = true) : c.toLower.isAlphanum = true := by
  have hletter : (isLower c || c.isDigit || isUpper c) = true := by
    rw [startsWord, Bool.or_eq_true, Bool.and_eq_true] at hstarts
    rw [Bool.or_eq_true]
    exact hstarts.imp_right And.left
  exact forall_ascii
    (P := fun c => (isLower c || c.isDigit || isUpper c) = true → c.toLower.isAlphanum = true)
    (by decide) hc hletter

end Ascii

theorem map_toLower_eq_underscore_iff {char? : Option Char} (hascii : ∀ c ∈ char?, c.toNat < 128) :
    char?.map Char.toLower = some '_' ↔ char? = some '_' := by
  cases char? with
  | none => simp
  | some c => simp [toLower_eq_underscore_iff (hascii c rfl)]

theorem doubledUnderscores_map_toLower {chars : List Char} (hascii : IsAscii chars) :
    doubledUnderscores (chars.map Char.toLower) = doubledUnderscores chars := by
  induction chars with
  | nil => rfl
  | cons first rest ih =>
      have hfirst := toLower_eq_underscore_iff (hascii first List.mem_cons_self)
      have hrest := ih fun c hc => hascii c (List.mem_cons_of_mem _ hc)
      cases rest with
      | nil => rfl
      | cons second rest =>
          have hsecond := toLower_eq_underscore_iff
            (hascii second (List.mem_cons_of_mem _ List.mem_cons_self))
          rw [List.map_cons] at hrest
          simp only [List.map_cons, doubledUnderscores_cons_cons, hrest, Prod.mk.injEq, hfirst,
            hsecond]

/-! ## Snake case -/

theorem separated_snakeChars {chars : List Char} (hascii : IsAscii chars)
    (previous written : Option Char) (hprevious : ∀ p ∈ previous, p.toNat < 128) :
    Separated (previous.map Char.toLower) (chars.map Char.toLower)
      (snakeChars previous written chars) := by
  induction chars generalizing previous written with
  | nil => exact .nil _
  | cons c rest ih =>
      have hc : c.toNat < 128 := hascii c List.mem_cons_self
      have hrest (last : Option Char) : Separated (some c.toLower) (rest.map Char.toLower)
          (snakeChars (some c) last rest) := by
        refine ih (fun d hd => hascii d (List.mem_cons_of_mem _ hd)) (some c) last ?_
        rintro p ⟨⟩
        exact hc
      rw [snakeChars, List.map_cons]
      split
      · next hupper =>
          rw [lower_of_ascii hc]
          split
          · next hboundary =>
              -- What was written last can only keep an underscore out.
              rw [Bool.and_eq_true] at hboundary
              obtain ⟨hstarts, -⟩ := hboundary
              cases previous with
              | none => cases hstarts
              | some p =>
                  have hp : p.toNat < 128 := hprevious p rfl
                  exact .insert (isAlphanum_toLower_of_startsWord hp hstarts)
                    (isAlphanum_toLower_of_isUpper hc hupper) (hrest _)
          · exact .keep (hrest _)
      · next hupper =>
          rw [toLower_of_not_isUpper hc (Bool.eq_false_iff.2 hupper)] at hrest ⊢
          exact .keep (hrest _)

/-- Without capitals there is nothing to do. -/
theorem snakeChars_of_not_isUpper {chars : List Char} (hchars : ∀ c ∈ chars, isUpper c = false)
    (previous written : Option Char) : snakeChars previous written chars = chars := by
  induction chars generalizing previous written with
  | nil => rfl
  | cons c rest ih =>
      rw [snakeChars, if_neg (by simp [hchars c List.mem_cons_self]),
        ih fun d hd => hchars d (List.mem_cons_of_mem _ hd)]

section Names

variable {name : String} (hascii : IsAscii name.toList)

include hascii

theorem isAscii_trim : IsAscii (trim name).toList := by
  intro c hc
  rw [toList_trim] at hc
  exact hascii c ((trimChars_sublist _).subset hc)

theorem separated_snakeCase :
    Separated none ((trim name).toList.map Char.toLower) (snakeCase name).toList := by
  have hchars : (snakeCase name).toList = snakeChars none none (trim name).toList := by
    rw [snakeCase, String.toList_ofList, toList_trim]
  rw [hchars]
  exact separated_snakeChars (isAscii_trim hascii) none none fun p hp => by cases hp

theorem not_isUpper_snakeCase : ∀ c ∈ (snakeCase name).toList, isUpper c = false := by
  intro c hc
  rcases (separated_snakeCase hascii).mem_or_eq hc with htext | rfl
  · obtain ⟨d, hd, rfl⟩ := List.mem_map.1 htext
    exact isUpper_toLower (isAscii_trim hascii d hd)
  · decide

theorem head?_snakeCase :
    (snakeCase name).toList.head? = (trim name).toList.head?.map Char.toLower := by
  rw [(separated_snakeCase hascii).head?_eq, List.head?_map]

theorem getLast?_snakeCase :
    (snakeCase name).toList.getLast? = (trim name).toList.getLast?.map Char.toLower := by
  rw [(separated_snakeCase hascii).getLast?_eq, List.getLast?_map]

theorem not_isBlank_head?_snakeCase :
    ∀ c ∈ (snakeCase name).toList.head?, isBlank c = false := by
  intro c hc
  rw [head?_snakeCase hascii] at hc
  obtain ⟨d, hd, rfl⟩ := Option.map_eq_some_iff.1 hc
  rw [isBlank_toLower (isAscii_trim hascii d (List.mem_of_mem_head? hd))]
  exact not_isBlank_head?_trim name d hd

theorem not_isBlank_getLast?_snakeCase :
    ∀ c ∈ (snakeCase name).toList.getLast?, isBlank c = false := by
  intro c hc
  rw [getLast?_snakeCase hascii] at hc
  obtain ⟨d, hd, rfl⟩ := Option.map_eq_some_iff.1 hc
  rw [isBlank_toLower (isAscii_trim hascii d (List.mem_of_getLast? hd))]
  exact not_isBlank_getLast?_trim name d hd

theorem snakeCase_snakeCase : snakeCase (snakeCase name) = snakeCase name := by
  have htrim : trimChars (snakeCase name).toList = (snakeCase name).toList := by
    rw [← toList_trim, trim_of_not_isBlank (not_isBlank_head?_snakeCase hascii)
      (not_isBlank_getLast?_snakeCase hascii)]
  rw [snakeCase, htrim, snakeChars_of_not_isUpper (not_isUpper_snakeCase hascii),
    String.ofList_toList]

/-- The snake case of an ASCII name has neither capitals nor blanks at its ends, and its own snake
case is the same.  It is the trimmed name in small letters with underscores put in between letters
and digits: without underscores both texts are equal, and the name has as many doubled underscores
as its snake case, and one at its beginning or its end if and only if the snake case has. -/
theorem snakeCase_separates_words :
    (∀ c ∈ (snakeCase name).toList, isUpper c = false) ∧
      (∀ c ∈ (snakeCase name).toList.head?, isBlank c = false) ∧
      (∀ c ∈ (snakeCase name).toList.getLast?, isBlank c = false) ∧
      snakeCase (snakeCase name) = snakeCase name ∧
      (snakeCase name).toList.filter (· ≠ '_') =
        ((trim name).toList.map Char.toLower).filter (· ≠ '_') ∧
      Separated none ((trim name).toList.map Char.toLower) (snakeCase name).toList ∧
      doubledUnderscores (snakeCase name).toList = doubledUnderscores (trim name).toList ∧
      ((snakeCase name).toList.head? = some '_' ↔ (trim name).toList.head? = some '_') ∧
      ((snakeCase name).toList.getLast? = some '_' ↔ (trim name).toList.getLast? = some '_') := by
  have hseparated := separated_snakeCase hascii
  have htrimmed := isAscii_trim hascii
  refine ⟨not_isUpper_snakeCase hascii, not_isBlank_head?_snakeCase hascii,
    not_isBlank_getLast?_snakeCase hascii, snakeCase_snakeCase hascii, hseparated.filter_eq,
    hseparated, ?_, ?_, ?_⟩
  · rw [hseparated.doubledUnderscores_eq, doubledUnderscores_map_toLower htrimmed]
  · rw [head?_snakeCase hascii, map_toLower_eq_underscore_iff]
    intro c hc
    exact htrimmed c (List.mem_of_mem_head? hc)
  · rw [getLast?_snakeCase hascii, map_toLower_eq_underscore_iff]
    intro c hc
    exact htrimmed c (List.mem_of_getLast? hc)

end Names

theorem snakeCase_separates_words_of_acronyms :
    IsAscii " HTTPLog__ID2Go_\n".toList ∧
      snakeCase " HTTPLog__ID2Go_\n" = "http_log__id2_go_" ∧
      snakeCase "http_log__id2_go_" = "http_log__id2_go_" ∧
      "http_log__id2_go_".toList.filter (· ≠ '_') =
        ("HTTPLog__ID2Go_".toList.map Char.toLower).filter (· ≠ '_') ∧
      doubledUnderscores "http_log__id2_go_".toList =
        doubledUnderscores "HTTPLog__ID2Go_".toList := by
  have hall : " HTTPLog__ID2Go_\n".toList.all (fun c => c.toNat < 128) = true := by decide
  have hascii : IsAscii " HTTPLog__ID2Go_\n".toList := fun c hc =>
    of_decide_eq_true (List.all_eq_true.1 hall c hc)
  have hsnake : snakeCase " HTTPLog__ID2Go_\n" = "http_log__id2_go_" := by decide
  have htrim : trim " HTTPLog__ID2Go_\n" = "HTTPLog__ID2Go_" := by decide
  have hwords := snakeCase_separates_words hascii
  rw [hsnake, htrim] at hwords
  obtain ⟨-, -, -, hagain, hletters, -, hdoubled, -⟩ := hwords
  exact ⟨hascii, hsnake, hagain, hletters, hdoubled⟩

end FilterQuery.Text
