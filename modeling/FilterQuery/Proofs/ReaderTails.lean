import FilterQuery.Json.Reader

/-!
# Readers and what stands behind their text

A reader that finds its value at the beginning of a text finds the same value when more text stands
behind it, and leaves the more text behind its own rest.  Only numbers have no end of their own: a
text behind them must not go on in digits, a point or an exponent.
-/

namespace FilterQuery.Reader

/-- The reader takes nothing of the tail and reads the text in front of it as it reads the text
alone. -/
def StopsBefore {α : Type} (tail : List Char) (reader : Reader α) : Prop :=
  ∀ ⦃chars value rest⦄, reader chars = .ok (value, rest) →
    reader (chars ++ tail) = .ok (value, rest ++ tail)

/-- A number in front of the text does not go on in it. -/
def EndsNumber (tail : List Char) : Prop :=
  ∀ c ∈ tail.head?, c.isDigit = false ∧ c ≠ '.' ∧ c ≠ 'e' ∧ c ≠ 'E'

variable {tail : List Char}

theorem StopsBefore.bind {α β : Type} {first : Reader α} {next : α → Reader β}
    (hfirst : StopsBefore tail first) (hnext : ∀ value, StopsBefore tail (next value)) :
    StopsBefore tail fun chars => first chars >>= fun found => next found.1 found.2 := by
  intro chars result rest hread
  obtain ⟨⟨value, behind⟩, hvalue, hresult⟩ := bind_eq_ok_iff.1 hread
  exact bind_eq_ok_iff.2 ⟨(value, behind ++ tail), hfirst hvalue, hnext value hresult⟩

theorem StopsBefore.pure {α : Type} (value : α) :
    StopsBefore tail fun rest => .ok (value, rest) := by
  intro chars found rest hread
  cases hread
  rfl

theorem StopsBefore.error {α : Type} (problem : ReadError) :
    StopsBefore tail fun _ => (.error problem : Except ReadError (α × List Char)) := by
  intro chars found rest hread
  cases hread

theorem StopsBefore.ite {α : Type} {condition : Prop} [Decidable condition]
    {first second : Reader α} (hfirst : StopsBefore tail first)
    (hsecond : StopsBefore tail second) :
    StopsBefore tail fun chars => if condition then first chars else second chars := by
  intro chars found rest hread
  dsimp only at hread ⊢
  split at hread
  · next hholds =>
      rw [if_pos hholds]
      exact hfirst hread
  · next hfails =>
      rw [if_neg hfails]
      exact hsecond hread

/-- What is done beside the text leaves the text as it is. -/
theorem StopsBefore.action {α : Type} (action : Except ReadError α) :
    StopsBefore tail fun chars => action >>= fun value => .ok (value, chars) := by
  intro chars found rest hread
  obtain ⟨value, hvalue, hpair⟩ := bind_eq_ok_iff.1 hread
  cases hpair
  exact bind_eq_ok_iff.2 ⟨_, hvalue, rfl⟩

theorem StopsBefore.map {α β : Type} {reader : Reader α} (hreader : StopsBefore tail reader)
    (f : α → β) :
    StopsBefore tail fun chars => reader chars >>= fun found => .ok (f found.1, found.2) :=
  hreader.bind fun value => .pure (f value)

/-! ## Numbers -/

theorem EndsNumber.isDigit_append (htail : EndsNumber tail) (chars : List Char) :
    (chars ++ tail).takeWhile Char.isDigit = chars.takeWhile Char.isDigit ∧
      (chars ++ tail).dropWhile Char.isDigit = chars.dropWhile Char.isDigit ++ tail := by
  induction chars with
  | nil =>
      cases tail with
      | nil => exact ⟨rfl, rfl⟩
      | cons c more => simp [(htail c rfl).1]
  | cons c chars ih =>
      cases hc : c.isDigit with
      | true => simp [hc, ih]
      | false => simp [hc]

section Numbers

variable (htail : EndsNumber tail) (negative : Bool) (significand : Nat) (exponent : Int)

include htail

theorem exponentDigits_stopsBefore (minus : Bool) :
    StopsBefore tail (exponentDigits negative significand exponent minus) := by
  intro chars number rest hread
  obtain ⟨htake, hdrop⟩ := htail.isDigit_append chars
  unfold exponentDigits at hread ⊢
  rw [htake, hdrop]
  generalize chars.takeWhile Char.isDigit = digits at hread ⊢
  generalize chars.dropWhile Char.isDigit = behind at hread ⊢
  cases digits with
  | nil => cases behind <;> cases hread
  | cons digit digits =>
      exact StopsBefore.ite (.ite (.error _) (.pure _)) (.action _) hread

omit htail in
theorem realTail_of_head? {chars : List Char}
    (hchars : ∀ c ∈ chars.head?, c ≠ 'e' ∧ c ≠ 'E') :
    realTail negative significand exponent chars =
      (realOfParts negative significand exponent >>= fun number => .ok (number, chars)) := by
  unfold realTail
  split
  all_goals first
    | rfl
    | exact absurd rfl (hchars _ rfl).1
    | exact absurd rfl (hchars _ rfl).2

omit htail in
/-- A sign belongs to the exponent; anything else is read as its digits. -/
theorem realTail_exponent {e c : Char} (he : e = 'e' ∨ e = 'E') (hplus : c ≠ '+') (hminus : c ≠ '-')
    (rest : List Char) :
    realTail negative significand exponent (e :: c :: rest) =
      exponentDigits negative significand exponent false (c :: rest) := by
  rcases he with rfl | rfl
  · unfold realTail
    split
    all_goals simp_all
  · unfold realTail
    split
    all_goals simp_all

theorem realTail_stopsBefore :
    StopsBefore tail (realTail negative significand exponent) := by
  intro chars number rest hread
  by_cases hexponent : ∃ e behind, chars = e :: behind ∧ (e = 'e' ∨ e = 'E')
  · obtain ⟨e, behind, rfl, he⟩ := hexponent
    have hdigits := exponentDigits_stopsBefore htail negative significand exponent
    cases behind with
    | nil => rcases he with rfl | rfl <;> cases hread
    | cons c behind =>
        by_cases hplus : c = '+'
        · subst hplus
          rcases he with rfl | rfl
          · exact hdigits false hread
          · exact hdigits false hread
        · by_cases hminus : c = '-'
          · subst hminus
            rcases he with rfl | rfl
            · exact hdigits true hread
            · exact hdigits true hread
          · rw [realTail_exponent negative significand exponent he hplus hminus] at hread
            rw [List.cons_append, List.cons_append,
              realTail_exponent negative significand exponent he hplus hminus]
            exact hdigits false hread
  · have hchars : ∀ c ∈ chars.head?, c ≠ 'e' ∧ c ≠ 'E' := by
      intro c hc
      obtain ⟨behind, rfl⟩ := List.head?_eq_some_iff.1 hc
      exact ⟨fun he => hexponent ⟨c, behind, rfl, .inl he⟩,
        fun he => hexponent ⟨c, behind, rfl, .inr he⟩⟩
    have hmore : ∀ c ∈ (chars ++ tail).head?, c ≠ 'e' ∧ c ≠ 'E' := by
      cases chars with
      | nil => exact fun c hc => (htail c hc).2.2
      | cons => exact hchars
    rw [realTail_of_head? negative significand exponent hchars] at hread
    rw [realTail_of_head? negative significand exponent hmore]
    exact StopsBefore.action _ hread

theorem fraction_stopsBefore :
    StopsBefore tail (fraction negative significand exponent) := by
  intro chars number rest hread
  obtain ⟨htake, hdrop⟩ := htail.isDigit_append chars
  unfold fraction at hread ⊢
  rw [htake, hdrop]
  generalize chars.takeWhile Char.isDigit = digits at hread ⊢
  generalize chars.dropWhile Char.isDigit = behind at hread ⊢
  cases digits with
  | nil => cases behind <;> cases hread
  | cons digit digits => exact realTail_stopsBefore htail negative _ _ hread

omit htail in
/-- What follows the digits that a number begins with. -/
def numeralTail (rest : List Char) : Except ReadError (Number × List Char) :=
  match rest with
  | '.' :: rest => fraction negative significand exponent rest
  | 'e' :: _ | 'E' :: _ => realTail negative significand exponent rest
  | _ =>
      if exponent = 0 then .ok (wholeNumber negative significand, rest)
      else realTail negative significand exponent rest

omit htail in
theorem numeralTail_of_head? {rest : List Char}
    (hrest : ∀ c ∈ rest.head?, c ≠ '.' ∧ c ≠ 'e' ∧ c ≠ 'E') :
    numeralTail negative significand exponent rest =
      if exponent = 0 then .ok (wholeNumber negative significand, rest)
      else realTail negative significand exponent rest := by
  unfold numeralTail
  split
  · exact absurd rfl (hrest _ rfl).1
  · exact absurd rfl (hrest _ rfl).2.1
  · exact absurd rfl (hrest _ rfl).2.2
  · rfl

omit htail in
theorem numeral_eq_numeralTail {chars digits behind : List Char}
    (htake : chars.takeWhile Char.isDigit = digits) (hdrop : chars.dropWhile Char.isDigit = behind)
    (hdigits : digits ≠ []) (hzero : ∀ second more, digits ≠ '0' :: second :: more) :
    numeral negative chars =
      numeralTail negative (appendDigits 0 0 digits).1
        (digits.length - (appendDigits 0 0 digits).2) behind := by
  unfold numeral
  rw [htake, hdrop]
  split
  · exact absurd rfl hdigits
  · exact absurd rfl hdigits
  · exact absurd rfl (hzero _ _)
  · rfl

theorem numeralTail_stopsBefore :
    StopsBefore tail (numeralTail negative significand exponent) := by
  intro chars number rest hread
  by_cases hchars : ∀ c ∈ chars.head?, c ≠ '.' ∧ c ≠ 'e' ∧ c ≠ 'E'
  · have hmore : ∀ c ∈ (chars ++ tail).head?, c ≠ '.' ∧ c ≠ 'e' ∧ c ≠ 'E' := by
      cases chars with
      | nil => exact fun c hc => (htail c hc).2
      | cons => exact hchars
    rw [numeralTail_of_head? negative significand exponent hchars] at hread
    rw [numeralTail_of_head? negative significand exponent hmore]
    exact StopsBefore.ite (.pure _) (realTail_stopsBefore htail negative significand exponent) hread
  · unfold numeralTail at hread
    split at hread
    · exact fraction_stopsBefore htail negative significand exponent hread
    · exact realTail_stopsBefore htail negative significand exponent hread
    · exact realTail_stopsBefore htail negative significand exponent hread
    · next hpoint he hE =>
        refine absurd ?_ hchars
        rintro c hc
        obtain ⟨behind, rfl⟩ := List.head?_eq_some_iff.1 hc
        refine ⟨?_, ?_, ?_⟩
        · rintro rfl
          exact hpoint _ rfl
        · rintro rfl
          exact he _ rfl
        · rintro rfl
          exact hE _ rfl

theorem numeral_stopsBefore : StopsBefore tail (numeral negative) := by
  intro chars number rest hread
  obtain ⟨htake, hdrop⟩ := htail.isDigit_append chars
  -- The other alternatives of `numeral` are errors.
  have hdigits : chars.takeWhile Char.isDigit ≠ [] ∧
      ∀ second more, chars.takeWhile Char.isDigit ≠ '0' :: second :: more := by
    unfold numeral at hread
    split at hread
    · cases hread
    · cases hread
    · cases hread
    · next hempty hzero _ => exact ⟨hempty, hzero⟩
  rw [numeral_eq_numeralTail negative rfl rfl hdigits.1 hdigits.2] at hread
  rw [numeral_eq_numeralTail negative htake hdrop hdigits.1 hdigits.2]
  exact numeralTail_stopsBefore htail negative _ _ hread

end Numbers

/-! ## Texts -/

theorem literal_stopsBefore (tail expected : List Char) : StopsBefore tail (literal expected) := by
  induction expected with
  | nil => exact .pure ()
  | cons c expected ih =>
      intro chars found rest hread
      cases chars with
      | nil => cases hread
      | cons first chars =>
          rw [List.cons_append]
          unfold literal at hread ⊢
          exact StopsBefore.ite ih (.error _) hread

theorem hexQuad_cons (a b c d : Char) (rest : List Char) :
    hexQuad (a :: b :: c :: d :: rest) =
      (hexQuad [a, b, c, d] >>= fun found => .ok (found.1, rest)) := by
  have htake : (a :: b :: c :: d :: rest).take 4 = [a, b, c, d].take 4 := rfl
  unfold hexQuad
  rw [htake]
  split
  · rfl
  · dsimp only
    cases hexValue? a <;> cases hexValue? b <;> cases hexValue? c <;> cases hexValue? d <;> rfl

theorem hexQuad_stopsBefore (tail : List Char) : StopsBefore tail hexQuad := by
  intro chars unit rest hread
  match chars with
  | [] | [_] | [_, _] | [_, _, _] =>
      unfold hexQuad at hread
      split at hread <;> cases hread
  | a :: b :: c :: d :: behind =>
      rw [hexQuad_cons] at hread
      obtain ⟨found, hfound, hpair⟩ := bind_eq_ok_iff.1 hread
      cases hpair
      exact (hexQuad_cons a b c d _).trans (bind_eq_ok_iff.2 ⟨found, hfound, rfl⟩)

theorem numericEscape_stopsBefore (tail : List Char) : StopsBefore tail numericEscape := by
  intro chars c rest hread
  unfold numericEscape at hread ⊢
  obtain ⟨⟨unit, behind⟩, hunit, hread⟩ := bind_eq_ok_iff.1 hread
  refine bind_eq_ok_iff.2 ⟨(unit, behind ++ tail), hexQuad_stopsBefore tail hunit, ?_⟩
  simp only at hread ⊢
  split
  · next htrailing =>
      rw [if_pos htrailing] at hread
      cases hread
  · next hnotTrailing =>
      rw [if_neg hnotTrailing] at hread
      split
      · next hleading =>
          rw [if_pos hleading] at hread
          split at hread
          · cases hread
          · cases hread
          · next second =>
              obtain ⟨⟨other, after⟩, hother, hread⟩ := bind_eq_ok_iff.1 hread
              refine bind_eq_ok_iff.2 ⟨(other, after ++ tail), hexQuad_stopsBefore tail hother, ?_⟩
              simp only at hread ⊢
              exact StopsBefore.ite (.pure _) (.error _) hread
          · cases hread
      · next hnotLeading =>
          rw [if_neg hnotLeading] at hread
          cases hread
          rfl

theorem stringChar_letter {letter : Char} (hletter : letter ≠ 'u') (rest : List Char) :
    stringChar ('\\' :: letter :: rest) =
      match escapeLetter? letter with
      | some c => .ok (some c, rest)
      | none => .error .malformed := by
  unfold stringChar
  split
  · next heq => cases heq
  · next heq => cases heq
  · next heq => cases heq
  · next heq =>
      cases heq
      exact absurd rfl hletter
  · next heq =>
      cases heq
      rfl
  · next hescape heq =>
      cases heq
      exact (hescape _ _ rfl rfl).elim

theorem stringChar_plain {c : Char} (hquote : c ≠ '"') (hslash : c ≠ '\\') (rest : List Char) :
    stringChar (c :: rest) =
      if c.toNat < 0x20 then .error .malformed else .ok (some c, rest) := by
  unfold stringChar
  split
  · next heq => cases heq
  · next heq =>
      cases heq
      exact absurd rfl hquote
  · next heq =>
      cases heq
      exact absurd rfl hslash
  · next heq =>
      cases heq
      exact absurd rfl hslash
  · next heq =>
      cases heq
      exact absurd rfl hslash
  · next heq =>
      cases heq
      rfl
theorem stringChar_stopsBefore (tail : List Char) : StopsBefore tail stringChar := by
  intro chars c? rest hread
  unfold stringChar at hread
  split at hread
  · cases hread
  · cases hread
    rfl
  · cases hread
  · exact StopsBefore.bind (numericEscape_stopsBefore tail) (fun c => .pure (some c)) hread
  · next letter behind hletter =>
      rw [List.cons_append, List.cons_append, stringChar_letter hletter]
      cases hescape : escapeLetter? letter with
      | none =>
          rw [hescape] at hread
          cases hread
      | some c =>
          rw [hescape] at hread
          cases hread
          rfl
  · next c behind hquote hend hunicode hescape =>
      have hslash : c ≠ '\\' := by
        rintro rfl
        cases behind with
        | nil => exact hend rfl rfl
        | cons letter behind => exact hescape letter behind rfl rfl
      rw [List.cons_append, stringChar_plain hquote hslash]
      exact StopsBefore.ite (.error _) (.pure _) hread

/-- More fuel than there are characters changes nothing. -/
theorem stringChars_append {fuel more : Nat} {before chars rest : List Char} {text : String}
    (hread : stringChars fuel before chars = .ok (text, rest)) (hfuel : fuel ≤ more)
    (tail : List Char) : stringChars more before (chars ++ tail) = .ok (text, rest ++ tail) := by
  induction fuel generalizing more before chars with
  | zero => cases hread
  | succ fuel ih =>
      obtain ⟨more, rfl⟩ := Nat.exists_eq_add_one.2 (Nat.zero_lt_of_lt hfuel)
      unfold stringChars at hread ⊢
      split at hread
      · cases hread
      · next behind hchar =>
          cases hread
          rw [stringChar_stopsBefore tail hchar]
      · next c behind hchar =>
          rw [stringChar_stopsBefore tail hchar]
          exact ih hread (Nat.le_of_succ_le_succ hfuel)

theorem string_stopsBefore (tail : List Char) : StopsBefore tail string := by
  intro chars text rest hread
  refine stringChars_append hread ?_ tail
  rw [List.length_append]
  omega

/-! ## Containers -/

theorem skipSpace_append {chars rest : List Char} {c : Char} (hchars : skipSpace chars = c :: rest)
    (tail : List Char) : skipSpace (chars ++ tail) = c :: (rest ++ tail) := by
  unfold skipSpace at hchars ⊢
  rw [List.dropWhile_append, hchars]
  rfl

theorem skipSpace_blank_cons {blank : List Char} (hblank : skipSpace blank = []) {c : Char}
    (hc : isSpace c = false) (rest : List Char) : skipSpace (blank ++ c :: rest) = c :: rest := by
  unfold skipSpace at hblank ⊢
  rw [List.dropWhile_append, hblank, List.isEmpty_nil, if_pos rfl,
    List.dropWhile_cons_of_neg (by simp [hc])]

theorem nextItem_close {chars rest : List Char} (hspace : skipSpace chars = ']' :: rest)
    (first : Bool) : nextItem first chars = .ok (false, ']' :: rest) := by
  rw [nextItem, hspace]
  rfl

theorem nextItem_first {chars rest : List Char} {c : Char} (hspace : skipSpace chars = c :: rest)
    (hc : c ≠ ']') : nextItem true chars = .ok (true, c :: rest) := by
  unfold nextItem
  rw [hspace]
  split
  · next heq => cases heq
  · next heq =>
      cases heq
      exact absurd rfl hc
  · next heq =>
      cases heq
      rfl

theorem nextItem_later {chars behind rest : List Char} {c : Char}
    (hcomma : skipSpace chars = ',' :: behind) (hspace : skipSpace behind = c :: rest)
    (hc : c ≠ ']') : nextItem false chars = .ok (true, c :: rest) := by
  unfold nextItem
  rw [hcomma]
  split
  · next heq => cases heq
  · next heq => cases heq
  · next heq =>
      cases heq
      rw [if_neg Bool.false_ne_true, if_pos rfl, hspace]
      split
      · next heq => cases heq
      · next heq =>
          cases heq
          exact absurd rfl hc
      · rfl

theorem nextItem_stopsBefore (tail : List Char) (first : Bool) :
    StopsBefore tail (nextItem first) := by
  intro chars more rest hread
  unfold nextItem at hread
  split at hread
  · cases hread
  · next hspace =>
      cases hread
      exact nextItem_close (skipSpace_append hspace tail) first
  · next c behind hclose hspace =>
      split at hread
      · next hfirst =>
          cases hread
          rw [hfirst]
          exact nextItem_first (skipSpace_append hspace tail) hclose
      · next hlater =>
          rw [Bool.eq_false_iff.2 hlater]
          split at hread
          · next hcomma =>
              subst hcomma
              cases hbehind : skipSpace behind with
              | nil =>
                  rw [hbehind] at hread
                  cases hread
              | cons d after =>
                  rw [hbehind] at hread
                  split at hread
                  · cases hread
                  · cases hread
                  · next hd =>
                      cases hread
                      refine nextItem_later (skipSpace_append hspace tail)
                        (skipSpace_append hbehind tail) ?_
                      rintro rfl
                      exact hd _ rfl
          · cases hread

theorem nextName_close {chars rest : List Char} (hspace : skipSpace chars = '\x7d' :: rest)
    (first : Bool) : nextName first chars = .ok (none, '\x7d' :: rest) := by
  rw [nextName, hspace]
  rfl

theorem nextName_first {chars behind rest : List Char} {name : String}
    (hquote : skipSpace chars = '"' :: behind) (hname : string behind = .ok (name, rest)) :
    nextName true chars = .ok (some name, rest) := by
  have hnext : nextName true chars =
      (string behind >>= fun found => .ok (some found.1, found.2)) := by
    rw [nextName, hquote]
    rfl
  rw [hnext, hname]
  rfl

theorem nextName_later {chars behind after rest : List Char} {name : String}
    (hcomma : skipSpace chars = ',' :: behind) (hquote : skipSpace behind = '"' :: after)
    (hname : string after = .ok (name, rest)) :
    nextName false chars = .ok (some name, rest) := by
  have hnext : nextName false chars =
      (string after >>= fun found => .ok (some found.1, found.2)) := by
    unfold nextName
    rw [hcomma]
    split
    · next heq => cases heq
    · next heq => cases heq
    · next heq =>
        cases heq
        simp only [Bool.false_eq_true, if_false, if_true]
        rw [hquote]
        rfl
  rw [hnext, hname]
  rfl

theorem nextName_stopsBefore (tail : List Char) (first : Bool) :
    StopsBefore tail (nextName first) := by
  intro chars name? rest hread
  unfold nextName at hread
  split at hread
  · cases hread
  · next hspace =>
      cases hread
      exact nextName_close (skipSpace_append hspace tail) first
  · next c behind hclose hspace =>
      dsimp only at hread
      split at hread
      · next hfirst =>
          rw [hfirst]
          obtain ⟨named, hnamed, hread⟩ := bind_eq_ok_iff.1 hread
          cases hnamed
          split at hread
          · next hquote =>
            obtain ⟨found, hfound, hpair⟩ := bind_eq_ok_iff.1 hread
            cases hpair
            cases hquote
            exact nextName_first (skipSpace_append hspace tail) (string_stopsBefore tail hfound)
          · cases hread
      · next hlater =>
          rw [Bool.eq_false_iff.2 hlater]
          split at hread
          · next hcomma =>
              subst hcomma
              split at hread
              · cases hread
              · obtain ⟨named, hnamed, hread⟩ := bind_eq_ok_iff.1 hread
                cases hnamed
                split at hread
                · next hquote =>
                    obtain ⟨found, hfound, hpair⟩ := bind_eq_ok_iff.1 hread
                    cases hpair
                    exact nextName_later (skipSpace_append hspace tail)
                      (skipSpace_append hquote tail) (string_stopsBefore tail hfound)
                · cases hread
          · cases hread

theorem closeArray_eq_ok_iff {chars rest : List Char} :
    closeArray chars = .ok ((), rest) ↔ skipSpace chars = ']' :: rest := by
  unfold closeArray
  split
  all_goals simp_all

theorem closeObject_eq_ok_iff {chars rest : List Char} :
    closeObject chars = .ok ((), rest) ↔ skipSpace chars = '\x7d' :: rest := by
  unfold closeObject
  split
  all_goals simp_all

theorem colon_eq_ok_iff {chars rest : List Char} :
    colon chars = .ok ((), rest) ↔ skipSpace chars = ':' :: rest := by
  unfold colon
  split
  all_goals simp_all

theorem StopsBefore.of_mark {reader : Reader Unit} {mark : Char}
    (hmark : ∀ {chars rest}, reader chars = .ok ((), rest) ↔ skipSpace chars = mark :: rest)
    (tail : List Char) : StopsBefore tail reader := fun _ _ _ hread =>
  hmark.2 (skipSpace_append (hmark.1 hread) tail)

/-- More fuel than there are items changes nothing. -/
theorem itemsFrom_append {α : Type} {item : Reader α} (hitem : StopsBefore tail item)
    {fuel more : Nat} {first : Bool} {before found : List α} {chars rest : List Char}
    (hread : itemsFrom item fuel first before chars = .ok (found, rest)) (hfuel : fuel ≤ more) :
    itemsFrom item more first before (chars ++ tail) = .ok (found, rest ++ tail) := by
  induction fuel generalizing more first before chars with
  | zero => cases hread
  | succ fuel ih =>
      obtain ⟨more, rfl⟩ := Nat.exists_eq_add_one.2 (Nat.zero_lt_of_lt hfuel)
      unfold itemsFrom at hread ⊢
      split at hread
      · cases hread
      · next hnext =>
          rw [nextItem_stopsBefore tail first hnext]
          exact (StopsBefore.of_mark closeArray_eq_ok_iff tail).map (fun _ => before.reverse) hread
      · next hnext =>
          rw [nextItem_stopsBefore tail first hnext]
          split at hread
          · cases hread
          · next hvalue =>
              simp only [hitem hvalue]
              exact ih hread (Nat.le_of_succ_le_succ hfuel)

theorem items_stopsBefore {α : Type} {item : Reader α} (hitem : StopsBefore tail item) :
    StopsBefore tail (items item) := by
  intro chars found rest hread
  refine itemsFrom_append hitem hread ?_
  rw [List.length_append]
  omega

/-- More fuel than there are members changes nothing. -/
theorem membersFrom_append {σ : Type} {member : σ → String → Reader σ}
    (hmember : ∀ state name, StopsBefore tail (member state name))
    {fuel more : Nat} {first : Bool} {state last : σ} {chars rest : List Char}
    (hread : membersFrom member fuel first state chars = .ok (last, rest)) (hfuel : fuel ≤ more) :
    membersFrom member more first state (chars ++ tail) = .ok (last, rest ++ tail) := by
  induction fuel generalizing more first state chars with
  | zero => cases hread
  | succ fuel ih =>
      obtain ⟨more, rfl⟩ := Nat.exists_eq_add_one.2 (Nat.zero_lt_of_lt hfuel)
      unfold membersFrom at hread ⊢
      split at hread
      · cases hread
      · next hnext =>
          rw [nextName_stopsBefore tail first hnext]
          exact (StopsBefore.of_mark closeObject_eq_ok_iff tail).map (fun _ => state) hread
      · next hnext =>
          rw [nextName_stopsBefore tail first hnext]
          split at hread
          · cases hread
          · next hvalue =>
              simp only [hmember _ _ hvalue]
              exact ih hread (Nat.le_of_succ_le_succ hfuel)

theorem members_stopsBefore {σ : Type} {member : σ → String → Reader σ}
    (hmember : ∀ state name, StopsBefore tail (member state name)) (initial : σ) :
    StopsBefore tail (members member initial) := by
  intro chars found rest hread
  refine membersFrom_append hmember hread ?_
  rw [List.length_append]
  omega

theorem memberOf_stopsBefore {α : Type} {reader : Reader α} (hreader : StopsBefore tail reader)
    (before : List (String × α)) (name : String) :
    StopsBefore tail (memberOf reader before name) :=
  .bind (.of_mark colon_eq_ok_iff tail) fun _ =>
    hreader.map fun value => (name, value) :: before

theorem pairs_stopsBefore {α : Type} {reader : Reader α} (hreader : StopsBefore tail reader) :
    StopsBefore tail (pairs reader) :=
  (members_stopsBefore (memberOf_stopsBefore hreader) []).map List.reverse

/-! ## Values -/

theorem scalar_digit {c : Char} (hc : c.isDigit = true) (rest : List Char) :
    scalar (c :: rest) =
      (numeral false (c :: rest) >>= fun found => .ok (.number found.1, found.2)) := by
  unfold scalar
  split
  · next heq => cases heq
  · next heq =>
      cases heq
      cases hc
  · next heq =>
      cases heq
      cases hc
  · next heq =>
      cases heq
      cases hc
  · next heq =>
      cases heq
      cases hc
  · next heq =>
      cases heq
      cases hc
  · next heq =>
      cases heq
      rw [if_pos hc]
      rfl

theorem scalar_stopsBefore (htail : EndsNumber tail) : StopsBefore tail scalar := by
  intro chars found rest hread
  unfold scalar at hread
  split at hread
  · cases hread
  · exact (literal_stopsBefore tail _).map (fun _ => Json.null) hread
  · exact (literal_stopsBefore tail _).map (fun _ => Json.bool true) hread
  · exact (literal_stopsBefore tail _).map (fun _ => Json.bool false) hread
  · exact (string_stopsBefore tail).map Json.string hread
  · exact (numeral_stopsBefore htail true).map Json.number hread
  · split at hread
    · next hdigit =>
        rw [List.cons_append, scalar_digit hdigit]
        exact (numeral_stopsBefore htail false).map Json.number hread
    · cases hread

theorem scalar_skipSpace_stopsBefore (htail : EndsNumber tail) :
    StopsBefore tail fun chars => scalar (skipSpace chars) := by
  intro chars found rest hread
  simp only at hread ⊢
  cases hspace : skipSpace chars with
  | nil =>
      rw [hspace] at hread
      cases hread
  | cons c behind =>
      rw [hspace] at hread
      rw [skipSpace_append hspace]
      exact scalar_stopsBefore htail hread

/-- What is read as a scalar is neither an array nor an object. -/
theorem value_of_scalar {chars : List Char} {found : Json × List Char}
    (hread : scalar (skipSpace chars) = .ok found) (depth : Nat) :
    value depth chars = .ok found := by
  unfold value
  split
  · next hspace =>
      rw [hspace] at hread
      cases hread
  · next hspace =>
      rw [hspace] at hread
      cases hread
  · exact hread

/-- A value ends where its text ends, unless a number goes on behind it. -/
theorem value_stopsBefore (htail : EndsNumber tail) (depth : Nat) :
    StopsBefore tail (value depth) := by
  induction depth with
  | zero =>
      intro chars found rest hread
      unfold value at hread
      split at hread
      · cases hread
      · cases hread
      · exact value_of_scalar (scalar_skipSpace_stopsBefore htail hread) 0
  | succ depth ih =>
      intro chars found rest hread
      unfold value at hread
      split at hread
      · next hspace =>
          rw [value, skipSpace_append hspace]
          exact (items_stopsBefore ih).map Json.array hread
      · next hspace =>
          rw [value, skipSpace_append hspace]
          exact (pairs_stopsBefore ih).map (fun pairs => Json.object (Named.ofPairs pairs)) hread
      · exact value_of_scalar (scalar_skipSpace_stopsBefore htail hread) (depth + 1)

end FilterQuery.Reader
