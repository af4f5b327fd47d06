import FilterQuery.Proofs.NestedOperands
import FilterQuery.Proofs.OrderDocuments
import FilterQuery.Proofs.ReaderTails

/-!
# Texts of objects

The text of an object is made from a text of each name and of each value.  It is read as the pairs
of these names and values in their order, whatever way each of the texts is written.
-/

namespace FilterQuery

namespace Reader

/-! ## Names -/

theorem text_eq_ok_iff {chars rest : List Char} {name : String} :
    text chars = .ok (name, rest) ↔
      ∃ behind, skipSpace chars = '"' :: behind ∧ string behind = .ok (name, rest) := by
  unfold text
  split
  · next hspace => simp [hspace]
  · next behind hspace => simp [hspace]
  · next hend hquote =>
      refine iff_of_false (unexpected_ne_ok _ _ _) ?_
      rintro ⟨behind, hspace, -⟩
      exact hquote behind hspace

theorem hexValue?_hexDigit : ∀ n < 16, hexValue? (Json.hexDigit n) = some n := by
  decide

theorem four_le_utf8Length (a b c d : Char) : ¬ utf8Length [a, b, c, d] < 4 := by
  have ha := a.utf8Size_pos
  have hb := b.utf8Size_pos
  have hc := c.utf8Size_pos
  have hd := d.utf8Size_pos
  simp only [utf8Length, List.foldr]
  omega

/-- The escape of a control character is read as its number. -/
theorem hexQuad_control {unit : Nat} (hunit : unit < 0x20) (rest : List Char) :
    hexQuad ('0' :: '0' :: Json.hexDigit (unit / 16) :: Json.hexDigit (unit % 16) :: rest) =
      .ok (unit, rest) := by
  have hhigh := hexValue?_hexDigit (unit / 16) (by omega)
  have hlow := hexValue?_hexDigit (unit % 16) (by omega)
  have hzero : hexValue? '0' = some 0 := by decide
  have hsum : ((0 * 16 + 0) * 16 + unit / 16) * 16 + unit % 16 = unit := by omega
  unfold hexQuad
  rw [List.take, List.take, List.take, List.take, List.take_zero,
    if_neg (four_le_utf8Length _ _ _ _)]
  simp only [hhigh, hlow, hzero, hsum]

theorem numericEscape_control {c : Char} (hc : c.toNat < 0x20) (rest : List Char) :
    numericEscape ('0' :: '0' :: Json.hexDigit (c.toNat / 16) :: Json.hexDigit (c.toNat % 16) ::
      rest) = .ok (c, rest) := by
  have htrailing : isTrailingSurrogate c.toNat = false := by
    simp only [isTrailingSurrogate, Bool.and_eq_false_iff, decide_eq_false_iff_not]
    omega
  have hleading : isLeadingSurrogate c.toNat = false := by
    simp only [isLeadingSurrogate, Bool.and_eq_false_iff, decide_eq_false_iff_not]
    omega
  rw [numericEscape, hexQuad_control hc]
  simp only [bind, Except.bind, htrailing, hleading]
  simp [pure, Except.pure]

theorem stringChar_escapedChar (c : Char) (rest : List Char) :
    stringChar (Json.escapedChar c ++ rest) = .ok (some c, rest) := by
  unfold Json.escapedChar
  split
  · rfl
  · rfl
  · rfl
  · rfl
  · rfl
  · rfl
  · rfl
  · next hquote hslash _ _ _ _ _ =>
      split
      · next hcontrol =>
          have hescape := numericEscape_control hcontrol rest
          change (numericEscape ('0' :: '0' :: Json.hexDigit (c.toNat / 16) ::
            Json.hexDigit (c.toNat % 16) :: rest) >>= _) = _
          rw [hescape]
          rfl
      · next hplain =>
          rw [List.singleton_append, stringChar_plain hquote hslash, if_neg hplain]

theorem stringChars_escaped {fuel : Nat} {chars : List Char} (hfuel : chars.length < fuel)
    (before rest : List Char) :
    stringChars fuel before (chars.flatMap Json.escapedChar ++ '"' :: rest) =
      .ok (String.ofList (before.reverse ++ chars), rest) := by
  induction chars generalizing fuel before with
  | nil =>
      obtain ⟨fuel, rfl⟩ := Nat.exists_eq_add_one.2 hfuel
      simp [stringChars, stringChar]
  | cons c chars ih =>
      obtain ⟨fuel, rfl⟩ := Nat.exists_eq_add_one.2 (Nat.zero_lt_of_lt hfuel)
      rw [List.flatMap_cons, List.append_assoc, stringChars, stringChar_escapedChar]
      simp only
      rw [ih (Nat.lt_of_succ_lt_succ hfuel), List.reverse_cons, List.append_assoc,
        List.singleton_append]

theorem length_le_length_flatMap_escapedChar (chars : List Char) :
    chars.length ≤ (chars.flatMap Json.escapedChar).length := by
  induction chars with
  | nil => exact Nat.le_refl 0
  | cons c chars ih =>
      have hpos : 0 < (Json.escapedChar c).length := by
        unfold Json.escapedChar
        split
        all_goals first
          | exact Nat.zero_lt_succ _
          | (split <;> exact Nat.zero_lt_succ _)
      rw [List.flatMap_cons, List.length_append, List.length_cons]
      omega

theorem toList_stringText (name : String) :
    (Json.stringText name).toList = '"' :: (name.toList.flatMap Json.escapedChar ++ ['"']) := by
  simp [Json.stringText]

/-- Every text is read back from its quoted form. -/
theorem document_stringText (name : String) :
    document text (Json.stringText name) = .ok name := by
  have hlength := length_le_length_flatMap_escapedChar name.toList
  have hstring : string (name.toList.flatMap Json.escapedChar ++ ['"']) = .ok (name, []) := by
    rw [string, stringChars_escaped]
    · simp
    · rw [List.length_append]
      omega
  refine document_eq_ok_iff.2 ⟨[], text_eq_ok_iff.2 ⟨_, ?_, hstring⟩, rfl⟩
  rw [toList_stringText]
  rfl

end Reader

/-! ## Members -/

/-- A member with a text of its name and a text of its value. -/
structure WrittenMember (depth : Nat) where
  name : String
  value : Json
  nameText : String
  valueText : String
  readsName : Reader.document Reader.text nameText = .ok name
  readsValue : Reader.document (Reader.value depth) valueText = .ok value

namespace WrittenMember

variable {depth : Nat}

def pair (member : WrittenMember depth) : String × Json :=
  (member.name, member.value)

def text (member : WrittenMember depth) : String :=
  member.nameText ++ ":" ++ member.valueText

def objectText (members : List (WrittenMember depth)) : String :=
  "\x7b" ++ Text.joined "," (members.map text) ++ "\x7d"

/-- What stands behind a member. -/
def followingChars : List (WrittenMember depth) → List Char
  | [] => ['\x7d']
  | member :: rest => ',' :: (member.text.toList ++ followingChars rest)

theorem toList_joined_text (first : WrittenMember depth) (others : List (WrittenMember depth)) :
    (Text.joined "," ((first :: others).map text) ++ "\x7d").toList =
      first.text.toList ++ followingChars others := by
  induction others generalizing first with
  | nil => simp [followingChars]
  | cons second others ih =>
      have hrest := ih second
      rw [String.toList_append, List.map_cons] at hrest
      rw [List.map_cons, List.map_cons, Text.joined_cons_cons, followingChars, ← hrest]
      simp

theorem toList_objectText_cons (first : WrittenMember depth)
    (others : List (WrittenMember depth)) :
    (objectText (first :: others)).toList =
      '\x7b' :: (first.text.toList ++ followingChars others) := by
  rw [← toList_joined_text]
  simp [objectText, String.append_assoc]

theorem endsNumber_followingChars (members : List (WrittenMember depth)) (rest : List Char) :
    Reader.EndsNumber (followingChars members ++ rest) := by
  cases members <;> simp [followingChars, Reader.EndsNumber]

/-- One step: a member is read in front of whatever ends a number. -/
theorem exists_read (member : WrittenMember depth) {tail : List Char}
    (htail : Reader.EndsNumber tail) :
    ∃ behindQuote behindName blank,
      Reader.skipSpace (member.text.toList ++ tail) = '"' :: behindQuote ∧
      Reader.string behindQuote = .ok (member.name, behindName) ∧
      (∀ before, Reader.memberOf (Reader.value depth) before member.name behindName =
        .ok (member.pair :: before, blank ++ tail)) ∧
      Reader.skipSpace blank = [] := by
  obtain ⟨behindName, hname, hnameBlank⟩ := Reader.document_eq_ok_iff.1 member.readsName
  obtain ⟨blank, hvalue, hblank⟩ := Reader.document_eq_ok_iff.1 member.readsValue
  obtain ⟨behindQuote, hquote, hstring⟩ := Reader.text_eq_ok_iff.1 hname
  have htext : member.text.toList ++ tail =
      member.nameText.toList ++ ':' :: (member.valueText.toList ++ tail) := by
    simp [text]
  refine ⟨_, _, blank, ?_,
    Reader.string_stopsBefore (':' :: (member.valueText.toList ++ tail)) hstring,
    fun before => ?_, List.isEmpty_iff.1 hblank⟩
  · rw [htext]
    exact Reader.skipSpace_append hquote _
  · have hcolon : Reader.colon (behindName ++ ':' :: (member.valueText.toList ++ tail)) =
        .ok ((), member.valueText.toList ++ tail) :=
      Reader.colon_eq_ok_iff.2
        (Reader.skipSpace_blank_cons (List.isEmpty_iff.1 hnameBlank) rfl _)
    exact bind_eq_ok_iff.2 ⟨_, hcolon, bind_eq_ok_iff.2
      ⟨_, Reader.value_stopsBefore htail depth hvalue, rfl⟩⟩

/-- The run behind the first member: the members are read up to the closing brace. -/
theorem membersFrom_followingChars (members : List (WrittenMember depth)) {fuel : Nat}
    (hfuel : members.length < fuel) {blank : List Char} (hblank : Reader.skipSpace blank = [])
    (before : List (String × Json)) (rest : List Char) :
    Reader.membersFrom (Reader.memberOf (Reader.value depth)) fuel false before
        (blank ++ (followingChars members ++ rest)) =
      .ok ((members.map pair).reverse ++ before, rest) := by
  induction members generalizing fuel blank before with
  | nil =>
      obtain ⟨fuel, rfl⟩ := Nat.exists_eq_add_one.2 hfuel
      rw [followingChars, List.singleton_append, Reader.membersFrom,
        Reader.nextName_close (Reader.skipSpace_blank_cons hblank rfl rest)]
      rfl
  | cons member members ih =>
      obtain ⟨fuel, rfl⟩ := Nat.exists_eq_add_one.2 (Nat.zero_lt_of_lt hfuel)
      obtain ⟨behindQuote, behindName, behindValue, hquote, hname, hmember, hbehind⟩ :=
        member.exists_read (endsNumber_followingChars members rest)
      have hcomma : Reader.skipSpace (blank ++ (followingChars (member :: members) ++ rest)) =
          ',' :: (member.text.toList ++ (followingChars members ++ rest)) := by
        rw [followingChars, List.cons_append, List.append_assoc,
          Reader.skipSpace_blank_cons hblank rfl]
      rw [Reader.membersFrom, Reader.nextName_later hcomma hquote hname]
      simp only [hmember]
      rw [ih (Nat.lt_of_succ_lt_succ hfuel) hbehind, List.map_cons, List.reverse_cons,
        List.append_assoc, List.singleton_append]

theorem length_lt_length_followingChars (members : List (WrittenMember depth)) :
    members.length < (followingChars members).length := by
  induction members with
  | nil => exact Nat.one_pos
  | cons member members ih =>
      rw [followingChars, List.length_cons, List.length_cons, List.length_append]
      omega

/-- The text of an object is read as the pairs of its members in their order. -/
theorem members_objectText (members : List (WrittenMember depth)) :
    ∃ chars, (objectText members).toList = '\x7b' :: chars ∧
      Reader.members (Reader.memberOf (Reader.value depth)) [] chars =
        .ok ((members.map pair).reverse, []) := by
  cases members with
  | nil => exact ⟨['\x7d'], by simp [objectText], rfl⟩
  | cons first others =>
      refine ⟨_, toList_objectText_cons first others, ?_⟩
      obtain ⟨behindQuote, behindName, blank, hquote, hname, hmember, hblank⟩ :=
        first.exists_read (endsNumber_followingChars others [])
      rw [List.append_nil] at hquote
      have hlength := length_lt_length_followingChars others
      have hfuel : others.length < (first.text.toList ++ followingChars others).length := by
        rw [List.length_append]
        omega
      rw [Reader.members, Reader.membersFrom, Reader.nextName_first hquote hname]
      simp only [hmember]
      rw [membersFrom_followingChars others hfuel hblank, List.map_cons, List.reverse_cons]

end WrittenMember

/-- Some text is read as the value, with at most `depth` containers open at one time. -/
def Json.HasText (depth : Nat) (value : Json) : Prop :=
  ∃ text, Reader.document (Reader.value depth) text = .ok value

/-- The text is that of an object with a member for each of the pairs, in their order. -/
def WritesObject (depth : Nat) (pairs : List (String × Json)) (text : String) : Prop :=
  ∃ members : List (WrittenMember depth),
    members.map WrittenMember.pair = pairs ∧ WrittenMember.objectText members = text

/-- Pairs of any names are written if their values are, repeated names or not. -/
theorem exists_writesObject_iff {depth : Nat} {pairs : List (String × Json)} :
    (∃ text, WritesObject depth pairs text) ↔ ∀ pair ∈ pairs, pair.2.HasText depth := by
  constructor
  · rintro ⟨text, members, rfl, -⟩ pair hpair
    obtain ⟨member, -, rfl⟩ := List.mem_map.1 hpair
    exact ⟨member.valueText, member.readsValue⟩
  · intro hvalues
    suffices hmembers : ∃ members : List (WrittenMember depth),
        members.map WrittenMember.pair = pairs by
      obtain ⟨members, hmembers⟩ := hmembers
      exact ⟨_, members, hmembers, rfl⟩
    induction pairs with
    | nil => exact ⟨[], rfl⟩
    | cons pair pairs ih =>
        obtain ⟨members, hmembers⟩ := ih fun other hother =>
          hvalues other (List.mem_cons_of_mem _ hother)
        obtain ⟨valueText, hvalue⟩ := hvalues pair List.mem_cons_self
        refine ⟨⟨pair.1, pair.2, Json.stringText pair.1, valueText,
          Reader.document_stringText pair.1, hvalue⟩ :: members, ?_⟩
        rw [List.map_cons, hmembers]
        rfl

end FilterQuery
