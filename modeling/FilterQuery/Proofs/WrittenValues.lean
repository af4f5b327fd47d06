import FilterQuery.Proofs.ObjectTexts

/-!
# Written values

Every value has a text that is read as this value: whole numbers of 64 bits as their digits, strings
in quotation marks, containers as long as no more of them are open than the reader allows.
-/

namespace FilterQuery

namespace Reader

/-! ## Whole numbers -/

theorem le_ofDigitChars (digits : List Char) (number : Nat) :
    number ≤ Nat.ofDigitChars 10 digits number := by
  induction digits generalizing number with
  | nil => exact Nat.le_refl number
  | cons c digits ih =>
      rw [Nat.ofDigitChars_cons]
      exact Nat.le_trans (by omega) (ih _)

/-- The digits of a number below the limit are all appended. -/
theorem appendDigits_eq {digits : List Char} {number : Nat}
    (hlimit : Nat.ofDigitChars 10 digits number < wordLimit) (appended : Nat) :
    appendDigits number appended digits =
      (Nat.ofDigitChars 10 digits number, appended + digits.length) := by
  induction digits generalizing number appended with
  | nil => rfl
  | cons c digits ih =>
      rw [Nat.ofDigitChars_cons] at hlimit ⊢
      have hnext : 10 * number + digitValue c < wordLimit :=
        Nat.lt_of_le_of_lt (le_ofDigitChars digits _) hlimit
      simp only [appendDigits, if_pos hnext, List.length_cons]
      rw [digitValue, ih hlimit, Nat.add_right_comm, Nat.add_assoc]

theorem digitChar_ne_zero : ∀ n < 10, 0 < n → n.digitChar ≠ '0' := by
  decide

/-- No digit comes behind a leading zero. -/
theorem toDigits_head?_ne_zero {n : Nat} (hn : 0 < n) : (Nat.toDigits 10 n).head? ≠ some '0' := by
  induction n using Nat.strongRecOn with
  | ind n ih =>
      by_cases hdigit : n < 10
      · rw [Nat.toDigits_of_lt_base hdigit, List.head?_cons]
        exact fun hzero => digitChar_ne_zero n hdigit hn (Option.some.inj hzero)
      · have hleading := ih (n / 10) (by omega) (by omega)
        rw [Nat.toDigits_of_base_le (by omega) (by omega), List.head?_append]
        cases hhead : (Nat.toDigits 10 (n / 10)).head? with
        | none => exact absurd (List.head?_eq_none_iff.1 hhead) Nat.toDigits_ne_nil
        | some c => rwa [hhead] at hleading

theorem toDigits_ne_zero_cons_cons (n : Nat) (second : Char) (more : List Char) :
    Nat.toDigits 10 n ≠ '0' :: second :: more := by
  intro hdigits
  cases n with
  | zero => simp at hdigits
  | succ n =>
      refine toDigits_head?_ne_zero (Nat.succ_pos n) ?_
      rw [hdigits, List.head?_cons]

theorem numeral_toDigits {n : Nat} (hlimit : n < wordLimit) (negative : Bool) :
    numeral negative (Nat.toDigits 10 n) = .ok (wholeNumber negative n, []) := by
  have hdigits : ∀ c ∈ Nat.toDigits 10 n, c.isDigit = true := fun c hc =>
    Nat.isDigit_of_mem_toDigits (by decide) (by decide) hc
  have htake : (Nat.toDigits 10 n).takeWhile Char.isDigit = Nat.toDigits 10 n := by
    have hall : (Nat.toDigits 10 n ++ []).takeWhile Char.isDigit = _ :=
      List.takeWhile_append_of_pos hdigits
    simpa using hall
  have hdrop : (Nat.toDigits 10 n).dropWhile Char.isDigit = [] := by
    have hnone : (Nat.toDigits 10 n ++ []).dropWhile Char.isDigit = _ :=
      List.dropWhile_append_of_pos hdigits
    simpa using hnone
  rw [numeral_eq_numeralTail negative htake hdrop Nat.toDigits_ne_nil
    (toDigits_ne_zero_cons_cons n)]
  have hvalue : Nat.ofDigitChars 10 (Nat.toDigits 10 n) 0 = n := Nat.ofDigitChars_ten_toDigits
  rw [appendDigits_eq (hvalue.symm ▸ hlimit), hvalue]
  simp [numeralTail]

theorem isSpace_eq_false_of_isDigit {c : Char} (hc : c.isDigit = true) : isSpace c = false := by
  have hne (space : Char) (hspace : space.isDigit = false) : c ≠ space := by
    rintro rfl
    rw [hspace] at hc
    cases hc
  simp [isSpace, hne ' ' (by decide), hne '\t' (by decide), hne '\n' (by decide),
    hne '\r' (by decide)]

theorem value_repr {n : Nat} (hlimit : n < wordLimit) (depth : Nat) :
    value depth n.repr.toList = .ok (.number (.integer n), []) := by
  have hnumeral := numeral_toDigits hlimit false
  rw [Nat.toList_repr]
  obtain ⟨c, digits, hdigits⟩ := List.exists_cons_of_ne_nil
    (Nat.toDigits_ne_nil (n := n) (b := 10))
  have hc : c.isDigit = true := Nat.isDigit_of_mem_toDigits (n := n) (b := 10) (by decide)
    (by decide) (hdigits ▸ List.mem_cons_self)
  rw [hdigits] at hnumeral ⊢
  refine value_of_scalar ?_ depth
  rw [skipSpace, List.dropWhile_cons_of_neg (by simp [isSpace_eq_false_of_isDigit hc]),
    scalar_digit hc, hnumeral]
  rfl

theorem value_neg_repr {n : Nat} (hpos : 0 < n) (hlimit : n ≤ Nat.pow 2 63) (depth : Nat) :
    value depth ("-" ++ n.repr).toList = .ok (.number (.integer (-n)), []) := by
  have hnumeral := numeral_toDigits (Nat.lt_of_le_of_lt hlimit (by decide)) true
  rw [String.toList_append, Nat.toList_repr]
  refine value_of_scalar ?_ depth
  change (numeral true (Nat.toDigits 10 n) >>= _) = _
  rw [hnumeral, wholeNumber, if_neg (by decide), if_pos ⟨hpos, hlimit⟩]
  rfl

end Reader

theorem Json.hasText_integer {n : Int} (hlow : -(Nat.pow 2 63 : Nat) ≤ n)
    (hhigh : n < Reader.wordLimit) (depth : Nat) : (Json.ofInt n).HasText depth := by
  refine ⟨toString n, Reader.document_eq_ok_iff.2 ⟨[], ?_, rfl⟩⟩
  cases n with
  | ofNat n => exact Reader.value_repr (Int.ofNat_lt.1 hhigh) depth
  | negSucc n => exact Reader.value_neg_repr (Nat.succ_pos n) (by omega) depth

/-! ## Strings -/

theorem Json.hasText_string (depth : Nat) (text : String) : (Json.string text).HasText depth := by
  obtain ⟨rest, htext, hrest⟩ := Reader.document_eq_ok_iff.1 (Reader.document_stringText text)
  obtain ⟨behind, hquote, hstring⟩ := Reader.text_eq_ok_iff.1 htext
  refine ⟨stringText text, Reader.document_eq_ok_iff.2 ⟨rest, ?_, hrest⟩⟩
  refine Reader.value_of_scalar ?_ depth
  rw [hquote]
  exact bind_eq_ok_iff.2 ⟨_, hstring, rfl⟩

/-! ## Arrays -/

namespace Reader

theorem skipSpace_skipSpace (chars : List Char) :
    skipSpace (skipSpace chars) = skipSpace chars := by
  unfold skipSpace
  induction chars with
  | nil => rfl
  | cons c chars ih =>
      cases hc : isSpace c with
      | true => rwa [List.dropWhile_cons_of_pos hc]
      | false => simp [hc]

theorem value_skipSpace (depth : Nat) (chars : List Char) :
    value depth (skipSpace chars) = value depth chars := by
  unfold value
  rw [skipSpace_skipSpace]

/-- No value begins with the bracket that closes an array. -/
theorem exists_cons_of_value {depth : Nat} {chars : List Char} {found : Json × List Char}
    (hread : value depth chars = .ok found) :
    ∃ c rest, skipSpace chars = c :: rest ∧ c ≠ ']' := by
  unfold value at hread
  split at hread
  · next rest hspace => exact ⟨'[', rest, hspace, by decide⟩
  · next rest hspace => exact ⟨'\x7b', rest, hspace, by decide⟩
  · cases hspace : skipSpace chars with
    | nil =>
        rw [hspace] at hread
        cases hread
    | cons c rest =>
        refine ⟨c, rest, rfl, ?_⟩
        rintro rfl
        rw [hspace] at hread
        simp [scalar] at hread

/-- One step: an item is read in front of whatever ends a number. -/
theorem exists_item {depth : Nat} {item : Json} (hitem : item.HasText depth) {tail : List Char}
    (htail : EndsNumber tail) :
    ∃ text c rest blank, skipSpace (text ++ tail) = c :: rest ∧ c ≠ ']' ∧
      value depth (c :: rest) = .ok (item, blank ++ tail) ∧ skipSpace blank = [] := by
  obtain ⟨text, htext⟩ := hitem
  obtain ⟨blank, hvalue, hblank⟩ := document_eq_ok_iff.1 htext
  have hread := value_stopsBefore htail depth hvalue
  obtain ⟨c, rest, hspace, hc⟩ := exists_cons_of_value hread
  rw [← value_skipSpace, hspace] at hread
  exact ⟨text.toList, c, rest, blank, hspace, hc, hread, List.isEmpty_iff.1 hblank⟩

/-- The run behind the first item: each list of items that have a text has one that is read up to
the closing bracket. -/
theorem exists_followingItems {depth : Nat} {items : List Json}
    (hitems : ∀ item ∈ items, item.HasText depth) :
    ∃ chars, EndsNumber chars ∧ items.length < chars.length ∧
      ∀ {fuel : Nat} {blank : List Char} (before : List Json), items.length < fuel →
        skipSpace blank = [] → itemsFrom (value depth) fuel false before (blank ++ chars) =
          .ok (before.reverse ++ items, []) := by
  induction items with
  | nil =>
      refine ⟨[']'], by simp [EndsNumber], Nat.one_pos, fun {fuel blank} before hfuel hblank => ?_⟩
      obtain ⟨fuel, rfl⟩ := Nat.exists_eq_add_one.2 hfuel
      rw [itemsFrom, nextItem_close (skipSpace_blank_cons hblank rfl []), List.append_nil]
      rfl
  | cons item items ih =>
      obtain ⟨behind, hbehind, hlength, hrun⟩ := ih fun other hother =>
        hitems other (List.mem_cons_of_mem _ hother)
      obtain ⟨text, c, rest, after, hspace, hc, hvalue, hafter⟩ :=
        exists_item (hitems item List.mem_cons_self) hbehind
      refine ⟨',' :: (text ++ behind), by simp [EndsNumber], ?_,
        fun {fuel blank} before hfuel hblank => ?_⟩
      · simp only [List.length_cons, List.length_append]
        omega
      · obtain ⟨fuel, rfl⟩ := Nat.exists_eq_add_one.2 (Nat.zero_lt_of_lt hfuel)
        rw [itemsFrom, nextItem_later (skipSpace_blank_cons hblank rfl _) hspace hc]
        simp only [hvalue]
        rw [hrun _ (Nat.lt_of_succ_lt_succ hfuel) hafter, List.reverse_cons, List.append_assoc,
          List.singleton_append]

end Reader

theorem Json.hasText_array {depth : Nat} {items : List Json}
    (hitems : ∀ item ∈ items, item.HasText depth) : (Json.array items).HasText (depth + 1) := by
  cases items with
  | nil => exact ⟨"[]", rfl⟩
  | cons item items =>
      obtain ⟨behind, hbehind, hlength, hrun⟩ := Reader.exists_followingItems fun other hother =>
        hitems other (List.mem_cons_of_mem _ hother)
      obtain ⟨text, c, rest, after, hspace, hc, hvalue, hafter⟩ :=
        Reader.exists_item (hitems item List.mem_cons_self) hbehind
      have hread : Reader.items (Reader.value depth) (text ++ behind) =
          .ok (item :: items, []) := by
        have hfuel : items.length < (text ++ behind).length := by
          rw [List.length_append]
          omega
        rw [Reader.items, Reader.itemsFrom, Reader.nextItem_first hspace hc]
        simp only [hvalue]
        exact hrun [item] hfuel hafter
      refine ⟨String.ofList ('[' :: (text ++ behind)),
        Reader.document_eq_ok_iff.2 ⟨[], ?_, rfl⟩⟩
      rw [String.toList_ofList]
      exact Reader.value_of_items hread

/-! ## Objects -/

theorem Named.ofPairs_of_nodup {α : Type} {pairs : Named α} (hnodup : (names pairs).Nodup) :
    ofPairs pairs = pairs :=
  extend_eq_append (fun _ _ => List.not_mem_nil) hnodup

theorem Json.hasText_object {depth : Nat} {members : List (String × Json)}
    (hnodup : (Named.names members).Nodup) (hvalues : ∀ member ∈ members, member.2.HasText depth) :
    (Json.object members).HasText (depth + 1) := by
  obtain ⟨text, written, rfl, rfl⟩ := exists_writesObject_iff.2 hvalues
  obtain ⟨chars, hchars, hmembers⟩ := WrittenMember.members_objectText written
  have hread := Reader.value_of_members hmembers
  rw [List.reverse_reverse, Named.ofPairs_of_nodup hnodup] at hread
  exact ⟨_, Reader.document_eq_ok_iff.2 ⟨[], hchars ▸ hread, rfl⟩⟩

/-! ## Values -/

/-- A value with at most `depth` containers open at one time.  Its whole numbers have 64 bits, its
other numbers can be written, and no name of an object is repeated. -/
inductive Json.Writable : Nat → Json → Prop
  | null (depth : Nat) : Writable depth .null
  | bool (depth : Nat) (value : Bool) : Writable depth (.bool value)
  | integer (depth : Nat) {value : Int} (hlow : -(Nat.pow 2 63 : Nat) ≤ value)
      (hhigh : value < Reader.wordLimit) : Writable depth (.number (.integer value))
  | real (depth : Nat) {value : Binary64}
      (htext : Json.HasText depth (.number (.real value))) : Writable depth (.number (.real value))
  | string (depth : Nat) (text : String) : Writable depth (.string text)
  | array {depth : Nat} {items : List Json} (hitems : ∀ item ∈ items, Writable depth item) :
      Writable (depth + 1) (.array items)
  | object {depth : Nat} {members : List (String × Json)} (hnodup : (Named.names members).Nodup)
      (hvalues : ∀ member ∈ members, Writable depth member.2) :
      Writable (depth + 1) (.object members)

theorem Json.Writable.hasText {depth : Nat} {value : Json} (hvalue : value.Writable depth) :
    value.HasText depth := by
  induction hvalue with
  | null depth =>
      exact ⟨"null", Reader.document_eq_ok_iff.2 ⟨[], Reader.value_of_scalar rfl depth, rfl⟩⟩
  | bool depth value =>
      refine ⟨(Json.bool value).text, Reader.document_eq_ok_iff.2 ⟨[], ?_, rfl⟩⟩
      cases value with
      | true => exact Reader.value_of_scalar rfl depth
      | false => exact Reader.value_of_scalar rfl depth
  | integer depth hlow hhigh => exact hasText_integer hlow hhigh depth
  | real depth htext => exact htext
  | string depth text => exact hasText_string depth text
  | array _ ih => exact hasText_array ih
  | object hnodup _ ih => exact hasText_object hnodup ih

end FilterQuery
