import Mathlib.Data.List.Pairwise
import Mathlib.Data.List.Sort
import Mathlib.Data.String.Basic
import Reputo.Library.Result

/-!
# Ordered and paged queries

Rows selected from a table, ordered by a total preorder and read page by page.
The ordering is stable, so it commutes with every selection.  A reader follows
the pages until a page is short or brings nothing; the last section says
exactly when it has then seen every row.
-/

namespace Reputo.Library

universe u v w

/-- A decidable total preorder on rows. -/
structure RowOrder (ρ : Type u) where
  le : ρ → ρ → Bool
  total : ∀ left right, le left right = true ∨ le right left = true
  trans : ∀ {first second third}, le first second = true → le second third = true →
    le first third = true

namespace RowOrder

variable {ρ : Type u} {κ : Type v}

/-- Rows compared by a key with a linear order. -/
def byKey [LinearOrder κ] (key : ρ → κ) : RowOrder ρ where
  le left right := key left ≤ key right
  total left right := by simpa using le_total (key left) (key right)
  trans first second := by
    simp only [decide_eq_true_eq] at first second ⊢
    exact le_trans first second

/-- Rows compared through a function into another order. -/
def comap (order : RowOrder κ) (key : ρ → κ) : RowOrder ρ where
  le left right := order.le (key left) (key right)
  total left right := order.total (key left) (key right)
  trans first second := order.trans first second

/-- Compare by `first`; rows it does not separate are compared by `second`. -/
def thenBy (first second : RowOrder ρ) : RowOrder ρ where
  le left right := first.le left right && (!first.le right left || second.le left right)
  total left right := by
    rcases first.total left right with forward | forward <;>
      rcases second.total left right with next | next <;>
      cases other : first.le right left <;> cases here : first.le left right <;> simp_all
  trans {left middle right} one two := by
    simp only [Bool.and_eq_true, Bool.or_eq_true, Bool.not_eq_true'] at one two ⊢
    rcases one with ⟨oneFirst, oneNext⟩
    rcases two with ⟨twoFirst, twoNext⟩
    refine ⟨first.trans oneFirst twoFirst, ?_⟩
    cases back : first.le right left with
    | false => exact Or.inl rfl
    | true =>
        -- The three rows are tied in `first`, so `second` has decided twice.
        have middleLeft := first.trans twoFirst back
        have rightMiddle := first.trans back oneFirst
        simp only [middleLeft, rightMiddle, Bool.true_eq_false, false_or] at oneNext twoNext
        exact Or.inr (second.trans oneNext twoNext)

theorem thenBy_le_iff (first second : RowOrder ρ) (left right : ρ) :
    (first.thenBy second).le left right = true ↔
      first.le left right = true ∧
        (first.le right left = true → second.le left right = true) := by
  simp only [thenBy, Bool.and_eq_true, Bool.or_eq_true, Bool.not_eq_true']
  cases first.le right left <;> simp

/-- Ordered by a key, then by `second`. -/
theorem byKey_thenBy_le_iff [LinearOrder κ] (key : ρ → κ) (second : RowOrder ρ) (left right : ρ) :
    ((byKey key).thenBy second).le left right = true ↔
      key left < key right ∨ (key left = key right ∧ second.le left right = true) := by
  rw [thenBy_le_iff]
  simp only [byKey, decide_eq_true_eq]
  constructor
  · intro ⟨lower, tied⟩
    rcases lt_or_eq_of_le lower with strict | equal
    · exact Or.inl strict
    · exact Or.inr ⟨equal, tied equal.ge⟩
  · intro ordered
    rcases ordered with strict | ⟨equal, next⟩
    · exact ⟨strict.le, fun back => absurd back (not_le.mpr strict)⟩
    · exact ⟨equal.le, fun _ => next⟩

/-- The rows in order; tied rows keep their order. -/
def orderBy (order : RowOrder ρ) (rows : List ρ) : List ρ :=
  rows.insertionSort fun left right => order.le left right = true

variable (order : RowOrder ρ)

instance : Std.Total fun left right => order.le left right = true := ⟨order.total⟩

instance : IsTrans ρ fun left right => order.le left right = true :=
  ⟨fun _ _ _ first second => order.trans first second⟩

theorem perm_orderBy (rows : List ρ) : (order.orderBy rows).Perm rows :=
  List.perm_insertionSort _ rows

theorem mem_orderBy {rows : List ρ} {row : ρ} : row ∈ order.orderBy rows ↔ row ∈ rows :=
  List.mem_insertionSort _

theorem pairwise_orderBy (rows : List ρ) :
    (order.orderBy rows).Pairwise fun left right => order.le left right = true :=
  List.pairwise_insertionSort _ rows

/-- Rows that are in order stay as they are. -/
theorem orderBy_eq_self {rows : List ρ}
    (sorted : rows.Pairwise fun left right => order.le left right = true) :
    order.orderBy rows = rows :=
  List.Pairwise.insertionSort_eq sorted

/-- Rows that are made of ordered keys are in the order of their keys. -/
theorem orderBy_comap_map (order : RowOrder κ) {key : ρ → κ} {row : κ → ρ}
    (own : ∀ name, key (row name) = name) (names : List κ) :
    (order.comap key).orderBy ((order.orderBy names).map row) = (order.orderBy names).map row := by
  apply orderBy_eq_self
  rw [List.pairwise_map]
  refine (order.pairwise_orderBy names).imp fun {left right} ordered => ?_
  change order.le (key (row left)) (key (row right)) = true
  rw [own, own]
  exact ordered

theorem orderedInsert_of_forall_le {row : ρ} {rows : List ρ}
    (least : ∀ other ∈ rows, order.le row other = true) :
    rows.orderedInsert (fun left right => order.le left right = true) row = row :: rows := by
  cases rows with
  | nil => rfl
  | cons head rest => exact List.orderedInsert_cons_of_le _ _ (least head List.mem_cons_self)

theorem filter_orderedInsert (keep : ρ → Bool) (row : ρ) {rows : List ρ}
    (sorted : rows.Pairwise fun left right => order.le left right = true) :
    (rows.orderedInsert (fun left right => order.le left right = true) row).filter keep =
      if keep row then
        (rows.filter keep).orderedInsert (fun left right => order.le left right = true) row
      else rows.filter keep := by
  induction rows with
  | nil => cases kept : keep row <;> simp [kept]
  | cons head rest ih =>
      rcases List.pairwise_cons.mp sorted with ⟨headLeast, restSorted⟩
      cases before : order.le row head with
      | true =>
          -- `row` goes to the front, below everything that the filter keeps.
          have least : ∀ other ∈ (head :: rest).filter keep, order.le row other = true := by
            intro other member
            rcases List.mem_cons.mp (List.mem_of_mem_filter member) with same | tailMember
            · rw [same, before]
            · exact order.trans before (headLeast other tailMember)
          rw [List.orderedInsert_cons_of_le _ rest before, orderedInsert_of_forall_le order least,
            List.filter_cons]
      | false =>
          rw [List.orderedInsert_of_not_le _ _ (by simp [before]), List.filter_cons,
            ih restSorted, List.filter_cons]
          cases keep head <;> cases keep row <;> simp [before]

/-- Selecting rows and ordering them commute. -/
theorem filter_orderBy (keep : ρ → Bool) (rows : List ρ) :
    (order.orderBy rows).filter keep = order.orderBy (rows.filter keep) := by
  induction rows with
  | nil => rfl
  | cons head rest ih =>
      have inserted := filter_orderedInsert order keep head (order.pairwise_orderBy rest)
      simp only [orderBy, List.insertionSort_cons] at ih inserted ⊢
      rw [inserted, ih, List.filter_cons]
      cases keep head <;> simp

/-- The result respects another precedence exactly when the order agrees with it
on all rows that are ordered. -/
theorem pairwise_orderBy_iff (precedes : ρ → ρ → Prop) {rows : List ρ}
    (irrefl : ∀ row ∈ rows, ¬ precedes row row)
    (antisymm : ∀ left ∈ rows, ∀ right ∈ rows, order.le left right = true →
      order.le right left = true → left = right) :
    ((order.orderBy rows).Pairwise fun left right => ¬ precedes right left) ↔
      ∀ left ∈ rows, ∀ right ∈ rows, precedes left right → order.le left right = true := by
  constructor
  · intro respected
    -- Both directions at once make the relation symmetric.
    have agreeing : (order.orderBy rows).Pairwise fun left right =>
        (precedes left right → order.le left right = true) ∧
          (precedes right left → order.le right left = true) := by
      refine (respected.and (order.pairwise_orderBy rows)).imp ?_
      intro left right ⟨notBack, ordered⟩
      exact ⟨fun _ => ordered, fun back => absurd back notBack⟩
    have : Std.Symm fun left right => (precedes left right → order.le left right = true) ∧
        (precedes right left → order.le right left = true) := ⟨fun _ _ both => ⟨both.2, both.1⟩⟩
    intro left leftMember right rightMember
    have every := agreeing.forall_of_forall
      (fun row member => by
        have none := irrefl row ((order.mem_orderBy).mp member)
        exact ⟨fun back => absurd back none, fun back => absurd back none⟩)
      ((order.mem_orderBy).mpr leftMember) ((order.mem_orderBy).mpr rightMember)
    exact every.1
  · intro agrees
    refine (order.pairwise_orderBy rows).imp_of_mem ?_
    intro left right leftMember rightMember ordered back
    have leftRow := (order.mem_orderBy).mp leftMember
    have rightRow := (order.mem_orderBy).mp rightMember
    have same := antisymm left leftRow right rightRow ordered (agrees right rightRow left leftRow back)
    exact irrefl left leftRow (same ▸ back)

theorem sublist_pair_or {rows : List ρ} {left right : ρ} (leftMember : left ∈ rows)
    (rightMember : right ∈ rows) (apart : left ≠ right) :
    [left, right].Sublist rows ∨ [right, left].Sublist rows := by
  induction rows with
  | nil => cases leftMember
  | cons head rest ih =>
      rcases List.mem_cons.mp leftMember with leftFirst | leftLater
      · rcases List.mem_cons.mp rightMember with rightFirst | rightLater
        · exact absurd (leftFirst.trans rightFirst.symm) apart
        · rw [← leftFirst]
          exact .inl ((List.singleton_sublist.mpr rightLater).cons_cons left)
      · rcases List.mem_cons.mp rightMember with rightFirst | rightLater
        · rw [← rightFirst]
          exact .inr ((List.singleton_sublist.mpr leftLater).cons_cons right)
        · exact (ih leftLater rightLater).imp (·.cons head) (·.cons head)

theorem not_sublist_swap {rows : List ρ} {left right : ρ} (nodup : rows.Nodup)
    (ordered : [left, right].Sublist rows) : ¬[right, left].Sublist rows := by
  intro swapped
  induction rows with
  | nil => cases ordered
  | cons head rest ih =>
      rcases List.nodup_cons.mp nodup with ⟨absent, others⟩
      cases ordered with
      | cons _ ordered =>
          cases swapped with
          | cons _ swapped => exact ih others ordered swapped
          | cons_cons _ swapped => exact absent (ordered.subset (by simp))
      | cons_cons _ ordered =>
          cases swapped with
          | cons _ swapped => exact absent (swapped.subset (by simp))
          | cons_cons _ swapped => exact absent (List.singleton_sublist.mp ordered)

/-- The result respects another precedence exactly when the order agrees with it on all rows that
are ordered, up to ties that the rows themselves decide. -/
theorem pairwise_orderBy_iff_of_nodup (precedes : ρ → ρ → Prop) {rows : List ρ}
    (nodup : rows.Nodup) (irrefl : ∀ row ∈ rows, ¬precedes row row) :
    ((order.orderBy rows).Pairwise fun left right => ¬precedes right left) ↔
      ∀ left ∈ rows, ∀ right ∈ rows, precedes left right → order.le left right = true ∧
        (order.le right left = true → [left, right].Sublist rows) := by
  have stable : ∀ {left right : ρ}, order.le left right = true →
      [left, right].Sublist rows → [left, right].Sublist (order.orderBy rows) :=
    fun before listed => List.pair_sublist_insertionSort before listed
  have sorted : (order.orderBy rows).Nodup := (order.perm_orderBy rows).nodup_iff.mpr nodup
  constructor
  · intro respected left leftMember right rightMember before
    have apart : left ≠ right := by
      intro same
      rw [same] at before
      exact irrefl right rightMember before
    have first : [left, right].Sublist (order.orderBy rows) := by
      rcases sublist_pair_or (order.mem_orderBy.mpr leftMember)
        (order.mem_orderBy.mpr rightMember) apart with first | swapped
      · exact first
      · exact absurd before (List.pairwise_iff_forall_sublist.mp respected swapped)
    refine ⟨List.pairwise_iff_forall_sublist.mp (order.pairwise_orderBy rows) first, ?_⟩
    intro tied
    rcases sublist_pair_or leftMember rightMember apart with listed | swapped
    · exact listed
    · exact absurd (stable tied swapped) (not_sublist_swap sorted first)
  · intro agrees
    rw [List.pairwise_iff_forall_sublist]
    intro left right first back
    have leftMember := order.mem_orderBy.mp (first.subset List.mem_cons_self)
    have rightMember := order.mem_orderBy.mp
      (first.subset (List.mem_cons_of_mem _ List.mem_cons_self))
    rcases agrees right rightMember left leftMember back with ⟨before, tied⟩
    have ordered := List.pairwise_iff_forall_sublist.mp (order.pairwise_orderBy rows) first
    exact not_sublist_swap sorted first (stable before (tied ordered))

/-- Ordering commutes with changes that do not matter to the order. -/
theorem map_orderBy (change : ρ → ρ) (same : ∀ left right,
    order.le (change left) (change right) = order.le left right) (rows : List ρ) :
    (order.orderBy rows).map change = order.orderBy (rows.map change) :=
  List.map_insertionSort _ _ change rows fun left _ right _ => by rw [same]

/-- Where different rows are never tied, the result depends on no order of the rows. -/
theorem orderBy_of_perm {rows others : List ρ}
    (antisymm : ∀ left ∈ rows, ∀ right ∈ rows, order.le left right = true →
      order.le right left = true → left = right)
    (perm : rows.Perm others) : order.orderBy rows = order.orderBy others :=
  (((order.perm_orderBy rows).trans perm).trans (order.perm_orderBy others).symm).eq_of_pairwise
    (fun left right member member' => antisymm left (order.mem_orderBy.mp member) right
      (perm.mem_iff.mpr (order.mem_orderBy.mp member')))
    (order.pairwise_orderBy rows) (order.pairwise_orderBy others)

end RowOrder

/-- A text order in which different texts are never tied. -/
structure Collation extends RowOrder String where
  antisymm : ∀ {left right}, le left right = true → le right left = true → left = right

/-- The order of texts by code units, character by character. -/
def Collation.codepoint : Collation where
  toRowOrder := RowOrder.byKey id
  antisymm forward backward := by
    simp only [RowOrder.byKey, id_eq, decide_eq_true_eq] at forward backward
    exact le_antisymm forward backward

/-! ## Pages -/

section Pages

variable {ρ : Type u} {ε : Type v} {σ : Type w}

/-- `LIMIT limit OFFSET offset`. -/
def limitOffset (limit offset : Nat) (rows : List ρ) : List ρ :=
  (rows.drop offset).take limit

/-- One page as a reader sees it. -/
structure Page (ε : Type v) where
  items : List ε
  hasMore : Bool

/-- Why following pages ended without a result. -/
inductive Stop where
  | failed (message : String)
  | outOfFuel
  deriving DecidableEq, Repr

/-- Read pages from number `page` on and absorb their items, until a page says
that there is no more or has no items. -/
def follow (load : Nat → Except String (Page ε)) (absorb : σ → List ε → σ) :
    Nat → Nat → σ → Except Stop σ
  | 0, _, _ => .error .outOfFuel
  | fuel + 1, page, state =>
      match load page with
      | .error message => .error (.failed message)
      | .ok loaded =>
          let absorbed := absorb state loaded.items
          if loaded.items.length = 0 && loaded.hasMore then .ok absorbed
          else if !loaded.hasMore then .ok absorbed
          else follow load absorb fuel (page + 1) absorbed

-- The equations are made here, once for all proofs below.
section
attribute [local simp] follow Except.map
end

/-- The loop never looks at what it absorbs into: following the pages is
absorbing, at once, all the items that the pages bring. -/
theorem follow_eq_absorb (load : Nat → Except String (Page ε)) (absorb : σ → List ε → σ)
    (append : ∀ state first second,
      absorb (absorb state first) second = absorb state (first ++ second))
    (fuel page : Nat) (state : σ) (seen : List ε) :
    follow load absorb fuel page (absorb state seen) =
      (follow load (fun seen items => seen ++ items) fuel page seen).map (absorb state) := by
  induction fuel generalizing page seen with
  | zero => rfl
  | succ fuel ih =>
      simp only [follow]
      cases load page with
      | error message => rfl
      | ok loaded =>
          simp only [append]
          split
          · rfl
          · split
            · rfl
            · exact ih (page + 1) (seen ++ loaded.items)

/-- What holds of the items of every page holds of everything absorbed. -/
theorem forall_mem_follow {load : Nat → Except String (Page ε)} {holds : ε → Prop}
    (loads : ∀ page loaded, load page = .ok loaded → ∀ item ∈ loaded.items, holds item)
    {fuel page : Nat} {seen result : List ε} (before : ∀ item ∈ seen, holds item)
    (followed : follow load (fun seen items => seen ++ items) fuel page seen = .ok result) :
    ∀ item ∈ result, holds item := by
  induction fuel generalizing page seen with
  | zero => cases followed
  | succ fuel ih =>
      simp only [follow] at followed
      cases brought : load page with
      | error message => simp [brought] at followed
      | ok loaded =>
          have after : ∀ item ∈ seen ++ loaded.items, holds item := by
            intro item member
            rcases List.mem_append.mp member with old | new
            · exact before item old
            · exact loads page loaded brought item new
          simp only [brought] at followed
          split at followed
          · cases followed
            exact after
          · split at followed
            · cases followed
              exact after
            · exact ih after followed

/-- Rows turned into items one by one; the first failure is the result. -/
def render (expand : ρ → Except String (List ε)) : List ρ → Except String (List ε)
  | [] => .ok []
  | row :: rest => do
      let items ← expand row
      let more ← render expand rest
      return items ++ more

theorem render_append (expand : ρ → Except String (List ε)) (first second : List ρ) :
    render expand (first ++ second) = (do
      let items ← render expand first
      let more ← render expand second
      return items ++ more) := by
  induction first with
  | nil => cases tail : render expand second <;> simp [render, tail, bind, Except.bind, pure, Except.pure]
  | cons row rest ih =>
      simp only [List.cons_append, render, ih]
      cases expand row with
      | error message => rfl
      | ok items =>
          cases render expand rest with
          | error message => rfl
          | ok more => cases render expand second <;> simp [bind, Except.bind, pure, Except.pure]

/-- Rows that all expand without failing render to their items in order. -/
theorem render_ok (expand : ρ → List ε) (rows : List ρ) :
    render (fun row => .ok (expand row)) rows = .ok (rows.flatMap expand) := by
  induction rows with
  | nil => rfl
  | cons row rest ih => simp [render, ih, bind, Except.bind, pure, Except.pure]

/-- Rows that expand to one item each render like a plain map. -/
theorem render_singleton (expand : ρ → Except String ε) (rows : List ρ) :
    render (fun row => (expand row).map fun item => [item]) rows = rows.mapM expand := by
  induction rows with
  | nil => rfl
  | cons row rest ih =>
      rw [List.mapM_cons, render, ih]
      cases expand row with
      | error message => rfl
      | ok item => cases rest.mapM expand <;> rfl

/-- When the whole renders to nothing, so does every suffix. -/
theorem render_drop_eq_nil {expand : ρ → Except String (List ε)} {rows : List ρ}
    (blank : render expand rows = .ok []) (count : Nat) :
    render expand (rows.drop count) = .ok [] := by
  rw [← List.take_append_drop count rows, render_append] at blank
  revert blank
  cases render expand (rows.take count) with
  | error message => simp [bind, Except.bind]
  | ok items =>
      cases render expand (rows.drop count) with
      | error message => simp [bind, Except.bind]
      | ok more => simp [bind, Except.bind, pure, Except.pure]

/-- Page `page` of the rows, of at most `limit` rows, as a reader loads it. -/
def loadPage (expand : ρ → Except String (List ε)) (limit : Nat) (rows : List ρ) (page : Nat) :
    Except String (Page ε) := do
  let selected := limitOffset limit ((page - 1) * limit) rows
  let items ← render expand selected
  return { items, hasMore := selected.length = limit }

/-- After every full page that brings nothing, no later row brings anything.
Only pages that are reached without a failure count. -/
def KeepsComing (expand : ρ → Except String (List ε)) (limit : Nat) (rows : List ρ) : Prop :=
  ∀ (page : Nat) (items : List ε), render expand (rows.take (page * limit)) = .ok items →
    (limitOffset limit (page * limit) rows).length = limit →
    render expand (limitOffset limit (page * limit) rows) = .ok [] →
    render expand (rows.drop ((page + 1) * limit)) = .ok []

theorem next_offset (page limit : Nat) : (page + 1) * limit = limit + page * limit := by
  rw [Nat.succ_mul, Nat.add_comm]

theorem loadPage_succ_succ (expand : ρ → Except String (List ε)) (limit : Nat) (rows : List ρ)
    (page : Nat) :
    loadPage expand limit rows (page + 2) = loadPage expand limit (rows.drop limit) (page + 1) := by
  simp [loadPage, limitOffset, next_offset, List.drop_drop]

theorem follow_drop (expand : ρ → Except String (List ε)) (absorb : σ → List ε → σ) (limit : Nat)
    (rows : List ρ) (fuel page : Nat) (state : σ) :
    follow (loadPage expand limit rows) absorb fuel (page + 2) state =
      follow (loadPage expand limit (rows.drop limit)) absorb fuel (page + 1) state := by
  induction fuel generalizing page state with
  | zero => rfl
  | succ fuel ih => simp only [follow, loadPage_succ_succ, ih]

theorem keepsComing_of_blank {expand : ρ → Except String (List ε)} {limit : Nat} {rows : List ρ}
    (blank : render expand rows = .ok []) : KeepsComing expand limit rows :=
  fun page _ _ _ _ => render_drop_eq_nil blank ((page + 1) * limit)

/-- Rows that bring one item each never make a blank page. -/
theorem keepsComing_singleton (expand : ρ → Except String ε) {limit : Nat} (positive : 0 < limit)
    (rows : List ρ) :
    KeepsComing (fun row => (expand row).map fun item => [item]) limit rows := by
  intro page items _ full blank
  rw [render_singleton] at blank
  have length := Result.length_of_mapM blank
  rw [full] at length
  exact absurd length.symm (Nat.pos_iff_ne_zero.mp positive)

theorem keepsComing_iff (expand : ρ → Except String (List ε)) (limit : Nat) (rows : List ρ) :
    KeepsComing expand limit rows ↔
      ((rows.take limit).length = limit → render expand (rows.take limit) = .ok [] →
        render expand (rows.drop limit) = .ok []) ∧
      ∀ items, render expand (rows.take limit) = .ok items →
        KeepsComing expand limit (rows.drop limit) := by
  constructor
  · intro keeps
    constructor
    · intro full blank
      simpa [limitOffset] using keeps 0 [] (by simp [render]) (by simpa [limitOffset] using full)
        (by simpa [limitOffset] using blank)
    · intro items first page more reached full blank
      have earlier : render expand (rows.take ((page + 1) * limit)) = .ok (items ++ more) := by
        rw [next_offset, List.take_add, render_append, first, reached]
        rfl
      have next := keeps (page + 1) (items ++ more) earlier
      rw [limitOffset, next_offset, ← List.drop_drop, next_offset, ← List.drop_drop] at next
      exact next full blank
  · intro ⟨front, back⟩ page items reached full blank
    cases page with
    | zero =>
        simp only [limitOffset, Nat.zero_mul, List.drop_zero, Nat.zero_add, Nat.one_mul]
          at full blank ⊢
        exact front full blank
    | succ page =>
        rw [next_offset, List.take_add, render_append] at reached
        revert reached
        cases first : render expand (rows.take limit) with
        | error message => simp [bind, Except.bind]
        | ok start =>
            cases second : render expand ((rows.drop limit).take (page * limit)) with
            | error message => simp [bind, Except.bind]
            | ok more =>
                intro _
                rw [limitOffset, next_offset, ← List.drop_drop] at full blank
                rw [next_offset, ← List.drop_drop]
                exact back start first page more second full blank

/-- The reader ends with every row's items exactly when no full page that
brings nothing hides a later row that brings something. -/
theorem follow_complete_iff (expand : ρ → Except String (List ε)) {limit : Nat}
    (positive : 0 < limit) (rows : List ρ) {fuel : Nat} (enough : rows.length < fuel)
    (seen : List ε) :
    follow (loadPage expand limit rows) (fun seen items => seen ++ items) fuel 1 seen =
        ((render expand rows).map (seen ++ ·)).mapError .failed ↔
      KeepsComing expand limit rows := by
  induction fuel generalizing rows seen with
  | zero => simp at enough
  | succ fuel ih =>
      rw [keepsComing_iff]
      have whole := render_append expand (rows.take limit) (rows.drop limit)
      rw [List.take_append_drop] at whole
      simp only [follow, loadPage, limitOffset, Nat.sub_self, Nat.zero_mul, List.drop_zero, whole]
      cases first : render expand (rows.take limit) with
      | error message => simp [bind, Except.bind, Except.map, Except.mapError]
      | ok items =>
          have next := follow_drop expand (fun seen items => seen ++ items) limit rows fuel 0
            (seen ++ items)
          simp only [bind, Except.bind, pure, Except.pure, Nat.zero_add] at next ⊢
          by_cases full : (rows.take limit).length = limit
          · cases items with
            | nil =>
                -- The reader stops here, so nothing may come later.
                simp only [full, List.length_nil, decide_true, Bool.and_self, ↓reduceIte,
                  List.append_nil, forall_const]
                cases later : render expand (rows.drop limit) with
                | error message => simp [Except.map, Except.mapError]
                | ok more =>
                    simp only [Except.map, Except.mapError, List.nil_append, Except.ok.injEq,
                      List.self_eq_append_right]
                    constructor
                    · intro none
                      subst none
                      exact ⟨rfl, fun _ _ => keepsComing_of_blank later⟩
                    · intro keeps
                      exact keeps.1
            | cons item items =>
                have shorter : (rows.drop limit).length < fuel := by
                  rw [List.length_take] at full
                  rw [List.length_drop]
                  omega
                have step := ih (rows.drop limit) shorter (seen ++ item :: items)
                simp only [full, List.length_cons, Nat.add_eq_zero_iff, one_ne_zero, and_false,
                  decide_false, Bool.false_and, Bool.false_eq_true, ↓reduceIte, decide_true,
                  Bool.not_true, next, reduceCtorEq, false_imp_iff, imp_true_iff, true_and,
                  Except.ok.injEq, forall_eq']
                rw [← step]
                cases render expand (rows.drop limit) <;>
                  simp [Except.map, Except.mapError]
          · -- A short page is the last one.
            have ended : rows.drop limit = [] := by
              rw [List.length_take] at full
              exact List.drop_eq_nil_of_le (by omega)
            have last : KeepsComing expand limit ([] : List ρ) :=
              keepsComing_of_blank rfl
            simp only [full, ended, decide_false, Bool.and_false, Bool.false_eq_true, ↓reduceIte,
              Bool.not_false, render, Except.map, Except.mapError, List.append_nil, last,
              imp_true_iff, and_self]

end Pages

end Reputo.Library
