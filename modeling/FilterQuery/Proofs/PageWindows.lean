import FilterQuery.Proofs.RequestSections
import Mathlib.Logic.ExistsUnique

/-!
# Pages as windows of rows

The windows of one page size lie side by side: each begins with the row behind the one before it, so
every row that the highest page number can still reach is on one page and on no other.  The bounds
of a window always fit in 64 bits, however large the page and its size are.
-/

namespace FilterQuery

/-- The row is one of those that the window shows.  Rows are counted from zero. -/
def Window.Contains (window : Window) (row : Nat) : Prop :=
  window.offset.toNat ≤ row ∧ row < window.offset.toNat + window.limit.toNat

namespace Pagination

/-! ## The bounds of a window -/

/-- All pages before the one in question together, none of which is larger than 32 bits allow. -/
theorem rowsBefore_lt (pagination : Pagination) :
    (pagination.page.toNat - 1) * pagination.count.toNat + pagination.count.toNat <
      UInt64.size := by
  have hpage : pagination.page.toNat - 1 + 1 ≤ UInt32.size := by
    rw [UInt32.size]
    have hlt := pagination.page.toNat_lt
    omega
  have hcount : pagination.count.toNat ≤ UInt32.size - 1 :=
    Nat.le_sub_one_of_lt pagination.count.toNat_lt_size
  calc
    (pagination.page.toNat - 1) * pagination.count.toNat + pagination.count.toNat =
        (pagination.page.toNat - 1 + 1) * pagination.count.toNat := by
          rw [Nat.add_mul, Nat.one_mul]
    _ ≤ UInt32.size * (UInt32.size - 1) := Nat.mul_le_mul hpage hcount
    _ < UInt64.size := by decide

theorem toNat_offset_window (pagination : Pagination) :
    pagination.window.offset.toNat = (pagination.page.toNat - 1) * pagination.count.toNat := by
  have hbefore := pagination.rowsBefore_lt
  have hpage : (if pagination.page = 0 then 0 else pagination.page - 1).toNat =
      pagination.page.toNat - 1 := by
    split
    · next hzero =>
        rw [hzero]
        rfl
    · next hne =>
        have hpos : pagination.page.toNat ≠ 0 := fun h => hne (UInt32.toNat.inj h)
        rw [UInt32.toNat_sub_of_le]
        · rfl
        · rw [UInt32.le_iff_toNat_le]
          exact Nat.one_le_iff_ne_zero.2 hpos
  rw [window]
  simp only [UInt64.toNat_mul, UInt32.toNat_toUInt64, hpage]
  exact Nat.mod_eq_of_lt (Nat.lt_of_le_of_lt (Nat.le_add_right _ _) hbefore)

theorem toNat_limit_window (pagination : Pagination) :
    pagination.window.limit.toNat = pagination.count.toNat :=
  UInt32.toNat_toUInt64 _

/-! ## Rows and pages -/

variable {page count : UInt32} {row : Nat}

/-- Before the page of a row there are as many pages as the rows before it fill. -/
theorem contains_window_iff (hcount : 1 ≤ count.toNat) :
    (Pagination.mk page count).window.Contains row ↔ page.toNat - 1 = row / count.toNat := by
  rw [Window.Contains, toNat_offset_window, toNat_limit_window, eq_comm, Nat.div_eq_iff hcount]
  simp only
  omega

theorem existsUnique_contains_window (hcount : 1 ≤ count.toNat)
    (hrow : row < count.toNat * (UInt32.size - 1)) :
    ∃! page : UInt32, 1 ≤ page.toNat ∧ (Pagination.mk page count).window.Contains row := by
  have hfull : row / count.toNat < UInt32.size - 1 := by
    rwa [Nat.div_lt_iff_lt_mul hcount, Nat.mul_comm]
  have hcontains (page : UInt32) :
      (Pagination.mk page count).window.Contains row ↔ page.toNat - 1 = row / count.toNat :=
    contains_window_iff hcount
  simp only [hcontains]
  generalize row / count.toNat = full at hfull
  have hnumber : (UInt32.ofNat (full + 1)).toNat = full + 1 :=
    UInt32.toNat_ofNat_of_lt' (Nat.add_lt_of_lt_sub hfull)
  refine ⟨UInt32.ofNat (full + 1), ⟨?_, ?_⟩, ?_⟩
  · omega
  · omega
  · rintro other ⟨hfirst, hother⟩
    apply UInt32.toNat.inj
    omega

/-- A page begins with the row behind those of the page before it. -/
theorem offset_window_succ (hpage : 1 ≤ page.toNat) (hlast : page.toNat < UInt32.size - 1)
    (count : UInt32) :
    (Pagination.mk (page + 1) count).window.offset.toNat =
      (Pagination.mk page count).window.offset.toNat +
        (Pagination.mk page count).window.limit.toNat := by
  have hnext : (page + 1).toNat = page.toNat + 1 := by
    rw [UInt32.toNat_add]
    exact Nat.mod_eq_of_lt (Nat.add_lt_of_lt_sub hlast)
  have hstep : page.toNat + 1 - 1 = page.toNat - 1 + 1 := by omega
  simp only [toNat_offset_window, toNat_limit_window, hnext, hstep, Nat.add_mul, Nat.one_mul]

end Pagination

/-! ## Windows of a request -/

/-- The call sets one end of the window. -/
def Call.isPaging : Call → Bool
  | .skip _ | .take _ => true
  | .join _ _ | .where_ _ _ | .order _ _ => false

theorem CallSections.filter_isPaging_calls (sections : CallSections) :
    sections.calls.filter Call.isPaging = sections.windowCalls := by
  have hjoins : (joinCalls sections.joins).filter Call.isPaging = [] := by
    rw [joinCalls, List.filter_map, List.filter_eq_nil_iff.2, List.map_nil]
    intro step _
    exact Bool.false_ne_true
  have hpredicate : sections.predicateCalls.filter Call.isPaging = [] := by
    unfold predicateCalls
    cases sections.predicate <;> rfl
  have horders : (sections.orders.map OrderTerm.call).filter Call.isPaging = [] := by
    simp [OrderTerm.call, Call.isPaging]
  have hwindow : sections.windowCalls.filter Call.isPaging = sections.windowCalls := by
    unfold windowCalls
    cases sections.window <;> rfl
  rw [calls, List.filter_append, List.filter_append, List.filter_append, hjoins, hpredicate,
    horders, hwindow, List.nil_append, List.nil_append, List.nil_append]

/-- The bounds of every window are exact and fit in 64 bits.  Pages of one size divide the rows
among them: each row below the end of the last page is on exactly one page, and each page begins
where the one before it ends.  A request sets the window of its pagination, once, and no other. -/
theorem pages_partition_rows :
    (∀ pagination : Pagination,
      pagination.window.offset.toNat = (pagination.page.toNat - 1) * pagination.count.toNat ∧
        pagination.window.limit.toNat = pagination.count.toNat ∧
        pagination.window.offset.toNat + pagination.window.limit.toNat ≤ UInt64.size - 1) ∧
      (∀ count : UInt32, 1 ≤ count.toNat → ∀ row, row < count.toNat * (UInt32.size - 1) →
        ∃! page : UInt32, 1 ≤ page.toNat ∧ (Pagination.mk page count).window.Contains row) ∧
      (∀ page count : UInt32, 1 ≤ page.toNat → page.toNat < UInt32.size - 1 →
        (Pagination.mk (page + 1) count).window.offset.toNat =
          (Pagination.mk page count).window.offset.toNat +
            (Pagination.mk page count).window.limit.toNat) ∧
      ∀ (tableAlias : String) (request : Request) (root : Option (Catalog × String)),
        ∃ calls : List Call,
          (∀ (σ : Type) [QueryBuilder σ] (query : σ),
            generate (some query) tableAlias request root = .ok (Call.replay calls query)) ∧
          calls.filter Call.isPaging = request.pagination.elim [] fun pagination =>
            [.skip pagination.window.offset, .take pagination.window.limit] := by
  refine ⟨?_, ?_, ?_, ?_⟩
  · intro pagination
    have hbefore := pagination.rowsBefore_lt
    rw [pagination.toNat_offset_window, pagination.toNat_limit_window]
    exact ⟨rfl, rfl, by omega⟩
  · intro count hcount row hrow
    exact Pagination.existsUnique_contains_window hcount hrow
  · intro page count hpage hlast
    exact Pagination.offset_window_succ hpage hlast count
  · intro tableAlias request root
    refine ⟨(request.sections tableAlias (rootRelations root)).calls, ?_, ?_⟩
    · intro σ _ query
      exact generate_eq_sections query tableAlias request root
    · rw [CallSections.filter_isPaging_calls, ← request.paginationCalls_eq,
        Request.paginationCalls]
      cases request.pagination <;> rfl

/-- The last row that pages of the largest size reach is on the last of them. -/
theorem pages_partition_rows_of_largest :
    1 ≤ (4294967295 : UInt32).toNat ∧
      18446744065119617024 < (4294967295 : UInt32).toNat * (UInt32.size - 1) ∧
      (∃! page : UInt32, 1 ≤ page.toNat ∧
        (Pagination.mk page 4294967295).window.Contains 18446744065119617024) ∧
      (Pagination.mk 4294967295 4294967295).window.Contains 18446744065119617024 ∧
      (Pagination.mk 4294967295 4294967295).window.offset.toNat = 4294967294 * 4294967295 ∧
      (Pagination.mk 4294967295 4294967295).window.offset.toNat =
        (Pagination.mk 4294967294 4294967295).window.offset.toNat +
          (Pagination.mk 4294967294 4294967295).window.limit.toNat := by
  obtain ⟨hbounds, hrows, hnext, -⟩ := pages_partition_rows
  have hcontains : (Pagination.mk 4294967295 4294967295).window.Contains 18446744065119617024 := by
    rw [Window.Contains]
    decide
  exact ⟨by decide, by decide, hrows 4294967295 (by decide) 18446744065119617024 (by decide),
    hcontains, (hbounds ⟨4294967295, 4294967295⟩).1,
    hnext 4294967294 4294967295 (by decide) (by decide)⟩

end FilterQuery
