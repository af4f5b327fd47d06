import FilterQuery.Proofs.NestedCalls
import FilterQuery.Proofs.NestedOperands

/-!
# The limits of a request

A request from outside is accepted if and only if it keeps to all of its limits; a refused one has
the error of the first limit that it breaks.  The limit on the depth of a filter bounds the nested
calls of the compiler and of the planner.  It does not bound the operands: these may nest as deep as
any value that can be read.
-/

namespace FilterQuery

/-! ## Broken limits -/

/-- The place of an error among the checks. -/
def RequestError.rank : RequestError → Nat
  | .tooLarge => 0
  | .unreadable _ => 1
  | .tooDeep part => if part = "where" then 2 else 3
  | .outOfRange _ => 4

/-- The error stands for something that is broken, and nothing that is checked before it is. -/
structure RequestError.IsFirst (broken : RequestError → Prop) (error : RequestError) : Prop where
  isBroken : broken error
  rank_le : ∀ other, broken other → error.rank ≤ other.rank

namespace Request

/-- The limits of a document that was read. -/
structure WithinLimits (request : Request) : Prop where
  filterDepth : ∀ filter ∈ request.filter, filter.depth ≤ 32
  orderDepth : ∀ order ∈ request.order, order.depth ≤ 32
  page : ∀ pagination ∈ request.pagination, 1 ≤ pagination.page
  count : ∀ pagination ∈ request.pagination, 1 ≤ pagination.count

/-- The limits that a request exceeds, each with its error. -/
inductive Exceeds (request : Request) : RequestError → Prop
  | filterDepth {filter : Filter} (hfilter : filter ∈ request.filter)
      (hdepth : 32 < filter.depth) : Exceeds request (.tooDeep "where")
  | orderDepth {order : Order} (horder : order ∈ request.order)
      (hdepth : 32 < order.depth) : Exceeds request (.tooDeep "order")
  | pagination {pagination : Pagination} (hpagination : pagination ∈ request.pagination)
      (hrange : pagination.page = 0 ∨ pagination.count = 0) :
      Exceeds request (.outOfRange pagination.outOfRange)

/-- The limits that a text breaks, each with its error. -/
inductive Breaks (text : String) : RequestError → Prop
  | size (hsize : 65536 < text.utf8ByteSize) : Breaks text .tooLarge
  | document {problem : ReadError} (hread : read text = .error problem) :
      Breaks text (.unreadable problem)
  | request {request : Request} {error : RequestError} (hread : read text = .ok request)
      (hexceeds : request.Exceeds error) : Breaks text error

variable {request : Request} {text : String} {error other : RequestError}

theorem Exceeds.two_le_rank (hexceeds : request.Exceeds error) : 2 ≤ error.rank := by
  cases hexceeds <;> simp [RequestError.rank]

theorem Exceeds.eq_of_rank_eq (hexceeds : request.Exceeds error) (hother : request.Exceeds other)
    (hrank : error.rank = other.rank) : error = other := by
  cases hexceeds with
  | filterDepth hfilter hdepth =>
      cases hother with
      | filterDepth => rfl
      | orderDepth => cases hrank
      | pagination => cases hrank
  | orderDepth horder hdepth =>
      cases hother with
      | filterDepth => cases hrank
      | orderDepth => rfl
      | pagination => cases hrank
  | pagination hpagination hrange =>
      cases hother with
      | filterDepth => cases hrank
      | orderDepth => cases hrank
      | pagination hother hrange =>
          obtain rfl := Option.mem_unique hpagination hother
          rfl

theorem Breaks.eq_of_rank_eq (hbreaks : Breaks text error) (hother : Breaks text other)
    (hrank : error.rank = other.rank) : error = other := by
  cases hbreaks with
  | size hsize =>
      cases hother with
      | size => rfl
      | document => cases hrank
      | request hread hexceeds =>
          have hle := hexceeds.two_le_rank
          rw [← hrank] at hle
          cases hle
  | document hread =>
      cases hother with
      | size => cases hrank
      | document hother =>
          obtain rfl := Except.error.inj (hread.symm.trans hother)
          rfl
      | request hother hexceeds => cases hread.symm.trans hother
  | request hread hexceeds =>
      cases hother with
      | size =>
          have hle := hexceeds.two_le_rank
          rw [hrank] at hle
          cases hle
      | document hother => cases hread.symm.trans hother
      | request hother hexceeds' =>
          obtain rfl := Except.ok.inj (hread.symm.trans hother)
          exact hexceeds.eq_of_rank_eq hexceeds' hrank

/-! ## The checks -/

theorem one_le_iff_ne_zero (number : UInt32) : 1 ≤ number ↔ number ≠ 0 := by
  rw [UInt32.le_iff_toNat_le, Ne, ← UInt32.toNat_inj]
  exact Nat.one_le_iff_ne_zero

theorem outOfRange_eq_nil_iff (pagination : Pagination) :
    pagination.outOfRange = [] ↔ 1 ≤ pagination.page ∧ 1 ≤ pagination.count := by
  rw [Pagination.outOfRange, one_le_iff_ne_zero, one_le_iff_ne_zero]
  by_cases hpage : pagination.page = 0 <;> by_cases hcount : pagination.count = 0 <;>
    simp [hpage, hcount]

theorem WithinLimits.not_exceeds (hwithin : request.WithinLimits) : ¬ request.Exceeds error := by
  intro hexceeds
  cases hexceeds with
  | filterDepth hfilter hdepth =>
      have hle := hwithin.filterDepth _ hfilter
      omega
  | orderDepth horder hdepth =>
      have hle := hwithin.orderDepth _ horder
      omega
  | pagination hpagination hrange =>
      rcases hrange with hpage | hcount
      · exact (one_le_iff_ne_zero _).mp (hwithin.page _ hpagination) hpage
      · exact (one_le_iff_ne_zero _).mp (hwithin.count _ hpagination) hcount

/-- The checks of the filter and of the order compare the depth of what there is with one limit. -/
theorem depthCheck_cases {α : Type} {part : Option α} (depth : α → Nat)
    {check : Except RequestError Unit} (hnone : part = none → check = .ok ())
    (hsome : ∀ value, part = some value →
      check = if maxNesting < depth value then .error error else .ok ()) :
    (check = .ok () ∧ ∀ value ∈ part, depth value ≤ 32) ∨
      (check = .error error ∧ ∃ value ∈ part, 32 < depth value) := by
  cases hpart : part with
  | none => exact .inl ⟨hnone hpart, by simp⟩
  | some value =>
      rw [hsome value hpart]
      by_cases hdepth : maxNesting < depth value
      · exact .inr ⟨if_pos hdepth, value, rfl, hdepth⟩
      · refine .inl ⟨if_neg hdepth, ?_⟩
        rintro _ ⟨⟩
        exact Nat.not_lt.mp hdepth

theorem checkFilter_cases (request : Request) :
    (request.checkFilter = .ok () ∧ ∀ filter ∈ request.filter, filter.depth ≤ 32) ∨
      (request.checkFilter = .error (.tooDeep "where") ∧
        ∃ filter ∈ request.filter, 32 < filter.depth) := by
  apply depthCheck_cases Filter.depth
  · intro hfilter
    rw [checkFilter, hfilter]
  · intro filter hfilter
    rw [checkFilter, hfilter]

theorem checkOrder_cases (request : Request) :
    (request.checkOrder = .ok () ∧ ∀ order ∈ request.order, order.depth ≤ 32) ∨
      (request.checkOrder = .error (.tooDeep "order") ∧
        ∃ order ∈ request.order, 32 < order.depth) := by
  apply depthCheck_cases Order.depth
  · intro horder
    rw [checkOrder, horder]
  · intro order horder
    rw [checkOrder, horder]

theorem checkPagination_cases (request : Request) :
    (request.checkPagination = .ok () ∧
        ∀ pagination ∈ request.pagination, 1 ≤ pagination.page ∧ 1 ≤ pagination.count) ∨
      ∃ fields, request.checkPagination = .error (.outOfRange fields) ∧
        request.Exceeds (.outOfRange fields) := by
  unfold checkPagination
  cases hpagination : request.pagination with
  | none => simp
  | some pagination =>
      simp only [Pagination.check]
      by_cases hrange : pagination.outOfRange = []
      · refine .inl ⟨?_, ?_⟩
        · rw [hrange]
        · rintro _ ⟨⟩
          exact (outOfRange_eq_nil_iff pagination).mp hrange
      · refine .inr ⟨pagination.outOfRange, ?_, .pagination hpagination ?_⟩
        · split
          next hnil => exact absurd hnil hrange
          next => rfl
        · rw [outOfRange_eq_nil_iff, one_le_iff_ne_zero, one_le_iff_ne_zero] at hrange
          by_contra hnone
          exact hrange (not_or.mp hnone)

/-- The checks that passed leave no limit to be broken before the one that is reported. -/
theorem check_cases (request : Request) :
    (request.check = .ok () ∧ request.WithinLimits) ∨
      ∃ error, request.check = .error error ∧ error.IsFirst request.Exceeds := by
  unfold check
  rcases request.checkFilter_cases with ⟨hfilter, hfilterDepth⟩ | ⟨hfilter, filter, hmem, hdepth⟩
  · rcases request.checkOrder_cases with ⟨horder, horderDepth⟩ | ⟨horder, order, hmem, hdepth⟩
    · rcases request.checkPagination_cases with
        ⟨hpagination, hrange⟩ | ⟨fields, hpagination, hexceeds⟩
      · refine .inl ⟨?_, ?_⟩
        · rw [hfilter, horder]
          exact hpagination
        · exact ⟨hfilterDepth, horderDepth, fun _ hmem => (hrange _ hmem).1,
            fun _ hmem => (hrange _ hmem).2⟩
      · refine .inr ⟨_, ?_, hexceeds, ?_⟩
        · rw [hfilter, horder]
          exact hpagination
        · -- Only the pagination is left to be broken.
          rintro other (⟨hmem, hdepth⟩ | ⟨hmem, hdepth⟩ | ⟨hmem, hrange⟩)
          · exact absurd (hfilterDepth _ hmem) (Nat.not_le.mpr hdepth)
          · exact absurd (horderDepth _ hmem) (Nat.not_le.mpr hdepth)
          · exact Nat.le_refl _
    · refine .inr ⟨_, ?_, .orderDepth hmem hdepth, ?_⟩
      · rw [hfilter, horder]
        rfl
      · rintro other (⟨hmem, hdepth⟩ | ⟨hmem, hdepth⟩ | ⟨hmem, hrange⟩)
        · exact absurd (hfilterDepth _ hmem) (Nat.not_le.mpr hdepth)
        · exact Nat.le_refl _
        · exact Nat.le_succ 3
  · refine .inr ⟨_, ?_, .filterDepth hmem hdepth, ?_⟩
    · rw [hfilter]
      rfl
    · -- The depth of the filter is the first thing that is checked of a request.
      intro other hother
      exact hother.two_le_rank

/-- A text that keeps to the limits, or the error of the first that it breaks. -/
theorem parse_cases (text : String) :
    (∃ request, parse text = .ok request ∧ text.utf8ByteSize ≤ 65536 ∧
        read text = .ok request ∧ request.WithinLimits) ∨
      ∃ error, parse text = .error error ∧ error.IsFirst (Breaks text) := by
  unfold parse
  by_cases hsize : maxBytes < text.utf8ByteSize
  · refine .inr ⟨.tooLarge, if_pos hsize, .size hsize, ?_⟩
    intro other _
    exact Nat.zero_le _
  · have hfits : text.utf8ByteSize ≤ 65536 := Nat.not_lt.mp hsize
    rw [if_neg hsize]
    cases hread : read text with
    | error problem =>
        refine .inr ⟨.unreadable problem, rfl, .document hread, ?_⟩
        rintro other (hlarge | hother | ⟨hother, hexceeds⟩)
        · omega
        · exact Nat.le_refl _
        · exact Nat.le_trans (Nat.le_succ 1) hexceeds.two_le_rank
    | ok request =>
        rcases request.check_cases with ⟨hcheck, hwithin⟩ | ⟨error, hcheck, hfirst⟩
        · refine .inl ⟨request, ?_, hfits, rfl, hwithin⟩
          simp only [hcheck]
          rfl
        · refine .inr ⟨error, ?_, .request hread hfirst.isBroken, ?_⟩
          · simp only [hcheck]
            rfl
          · rintro other (hlarge | hother | ⟨hother, hexceeds⟩)
            · omega
            · cases hread.symm.trans hother
            · obtain rfl := Except.ok.inj (hread.symm.trans hother)
              exact hfirst.rank_le _ hexceeds

theorem WithinLimits.not_breaks (hwithin : request.WithinLimits)
    (hsize : text.utf8ByteSize ≤ 65536) (hread : read text = .ok request) :
    ¬ Breaks text error := by
  rintro (hlarge | hother | ⟨hother, hexceeds⟩)
  · omega
  · cases hread.symm.trans hother
  · obtain rfl := Except.ok.inj (hread.symm.trans hother)
    exact hwithin.not_exceeds hexceeds

theorem parse_eq_ok_iff :
    parse text = .ok request ↔
      text.utf8ByteSize ≤ 65536 ∧ read text = .ok request ∧ request.WithinLimits := by
  constructor
  · intro hparse
    rcases parse_cases text with ⟨found, hfound, hlimits⟩ | ⟨error, herror, -⟩
    · obtain rfl := Except.ok.inj (hparse.symm.trans hfound)
      exact hlimits
    · cases hparse.symm.trans herror
  · rintro ⟨hsize, hread, hwithin⟩
    rcases parse_cases text with ⟨found, hfound, -, hfoundRead, -⟩ | ⟨error, -, hfirst⟩
    · obtain rfl := Except.ok.inj (hread.symm.trans hfoundRead)
      exact hfound
    · exact absurd hfirst.isBroken (hwithin.not_breaks hsize hread)

theorem parse_eq_error_iff : parse text = .error error ↔ error.IsFirst (Breaks text) := by
  constructor
  · intro hparse
    rcases parse_cases text with ⟨found, hfound, -⟩ | ⟨first, hfirst, hisFirst⟩
    · cases hparse.symm.trans hfound
    · obtain rfl := Except.error.inj (hparse.symm.trans hfirst)
      exact hisFirst
  · intro herror
    rcases parse_cases text with ⟨found, -, hsize, hread, hwithin⟩ | ⟨first, hfirst, hisFirst⟩
    · exact absurd herror.isBroken (hwithin.not_breaks hsize hread)
    · have hrank := Nat.le_antisymm (herror.rank_le _ hisFirst.isBroken)
        (hisFirst.rank_le _ herror.isBroken)
      obtain rfl := herror.isBroken.eq_of_rank_eq hisFirst.isBroken hrank
      exact hfirst

/-! ## Accepted requests -/

theorem parse_nestedOperands {levels : Nat} (hlevels : levels < 124) :
    parse (filterText (nestedOperands levels)) =
      .ok ⟨some (Filter.ofJson (nestedOperands levels)), none, none⟩ := by
  have hsize := utf8ByteSize_filterText_nestedOperands levels
  have hdepth := depth_nestedOperands levels
  refine parse_eq_ok_iff.mpr ⟨by omega, read_nestedOperands hlevels, ?_, ?_, ?_, ?_⟩
  · rintro _ ⟨⟩
    omega
  · rintro _ ⟨⟩
  · rintro _ ⟨⟩
  · rintro _ ⟨⟩

/-- A text is accepted just if it keeps to the limits, and is refused with the error of the first
limit that it breaks.  With an accepted filter, whatever its alias and relations, no chain of calls
is longer than the limit on its depth, so that the compiler and the planner come to their results
in that number of frames.  Lists and operands of accepted filters nest deeper. -/
theorem parse_enforces_limits_in_order :
    (∀ text request, parse text = .ok request ↔
      text.utf8ByteSize ≤ 65536 ∧ read text = .ok request ∧ request.WithinLimits) ∧
    (∀ text error, parse text = .error error ↔ error.IsFirst (Breaks text)) ∧
    (∀ text request filter, parse text = .ok request → filter ∈ request.filter →
      ∀ tableAlias relations,
        let call : FilterCall := ⟨tableAlias, relations, filter⟩
        (∀ chain, List.IsChain FilterCall.Makes (call :: chain) →
          (call :: chain).length ≤ 32) ∧
        FilterCall.Compiles (FilterCall.compileWithin 32) call ∧
        ∀ (σ : Type) [QueryBuilder σ], FilterCall.Plans (FilterCall.planWithin (σ := σ) 32) call) ∧
    ∀ levels < 124, ∃ text request filter,
      parse text = .ok request ∧ filter ∈ request.filter ∧
      filter.HasList (nestedArrays levels) ∧ filter.HasOperand (nestedArrays levels) := by
  refine ⟨fun text request => parse_eq_ok_iff, fun text error => parse_eq_error_iff, ?_, ?_⟩
  · intro text request filter hparse hfilter tableAlias relations call
    obtain ⟨-, -, hwithin⟩ := parse_eq_ok_iff.mp hparse
    have hfits : call.FitsIn 32 :=
      FilterCall.fitsIn_of_depth_le (hwithin.filterDepth filter hfilter)
    refine ⟨hfits, FilterCall.compileWithin_eq hfits, ?_⟩
    intro σ _
    exact FilterCall.planWithin_eq hfits
  · intro levels hlevels
    exact ⟨_, _, _, parse_nestedOperands hlevels, rfl, hasList_nestedOperands levels,
      hasOperand_nestedOperands levels⟩

theorem parse_enforces_limits_in_order_nested :
    ∃ request filter, parse (filterText (nestedOperands 40)) = .ok request ∧
      filter ∈ request.filter ∧ filter.HasOperand (nestedArrays 40) ∧
      ∀ tableAlias relations, (⟨tableAlias, relations, filter⟩ : FilterCall).FitsIn 32 := by
  have hparse := parse_nestedOperands (show 40 < 124 by decide)
  refine ⟨_, _, hparse, rfl, hasOperand_nestedOperands 40, ?_⟩
  intro tableAlias relations
  obtain ⟨-, -, hnesting, -⟩ := parse_enforces_limits_in_order
  exact (hnesting _ _ _ hparse rfl tableAlias relations).1

end Request

end FilterQuery
