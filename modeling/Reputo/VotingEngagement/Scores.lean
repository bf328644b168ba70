import Reputo.Library.Entropy
import Reputo.VotingEngagement.Pipeline

/-!
# What a score says

The score of answers is the entropy of their shares, in units of the entropy of eleven equal ones.
It only depends on how often every answer was given.
-/

namespace Reputo.VotingEngagement

open Reputo.Library

/-! ## Counts of the answers -/

theorem mem_VALID_VOTES (vote : ValidVote) : vote ∈ VALID_VOTES := by
  cases vote <;> decide

theorem nodup_VALID_VOTES : VALID_VOTES.Nodup := by decide

instance : Fintype ValidVote := Fintype.ofList VALID_VOTES mem_VALID_VOTES

instance : Nonempty ValidVote := ⟨.skip⟩

theorem card_validVote : Fintype.card ValidVote = 11 := by decide

theorem sum_VALID_VOTES {κ : Type} [AddCommMonoid κ] (weight : ValidVote → κ) :
    (VALID_VOTES.map weight).sum = ∑ vote, weight vote :=
  (List.sum_toFinset weight nodup_VALID_VOTES).symm

/-- Every answer is counted once. -/
theorem sum_count (votes : List ValidVote) : ∑ vote, votes.count vote = votes.length := by
  simpa only [Multiset.coe_count, Multiset.coe_card] using Multiset.sum_count_eq_card
    (s := Finset.univ) (m := (votes : Multiset ValidVote)) fun vote _ => Finset.mem_univ vote

/-- The entry of one item of a list is changed in place. -/
theorem modify_map_idxOf {α β : Type} [DecidableEq α] {items : List α} {item : α}
    (nodup : items.Nodup) (member : item ∈ items) (value : α → β) (change : β → β) :
    (items.map value).modify (items.idxOf item) change =
      items.map fun other => if other = item then change (value other) else value other := by
  induction items with
  | nil => cases member
  | cons first rest ih =>
      rw [List.nodup_cons] at nodup
      by_cases same : first = item
      · subst same
        have apart : ∀ other ∈ rest, value other =
            if other = first then change (value other) else value other := by
          intro other later
          rw [if_neg]
          rintro rfl
          exact nodup.1 later
        rw [List.idxOf_cons_self, List.map_cons, List.map_cons, List.modify_zero_cons, if_pos rfl,
          List.map_congr_left apart]
      · have later := (List.mem_cons.mp member).resolve_left (Ne.symm same)
        rw [List.idxOf_cons_ne _ same, List.map_cons, List.map_cons, List.modify_succ_cons,
          if_neg same, ih nodup.2 later]

theorem foldl_countVote (votes : List ValidVote) (counted : ValidVote → Nat) :
    votes.foldl countVote (VALID_VOTES.map counted) =
      VALID_VOTES.map fun vote => counted vote + votes.count vote := by
  induction votes generalizing counted with
  | nil => rfl
  | cons first rest ih =>
      rw [List.foldl_cons, countVote,
        modify_map_idxOf nodup_VALID_VOTES (mem_VALID_VOTES first), ih]
      apply List.map_congr_left
      intro vote _
      rw [List.count_cons]
      by_cases same : vote = first
      · rw [if_pos same, same, beq_self_eq_true, if_pos rfl]
        omega
      · rw [if_neg same, beq_false_of_ne (Ne.symm same), if_neg Bool.false_ne_true]
        omega

/-- Every answer is counted. -/
theorem voteCounts_eq (votes : List ValidVote) :
    votes.foldl countVote (List.replicate 11 0) = VALID_VOTES.map fun vote => votes.count vote := by
  have counted := foldl_countVote votes fun _ => 0
  simp only [Nat.zero_add] at counted
  exact counted

section Scores

variable {κ : Type} [Field κ] [LinearOrder κ]

/-- The order of the answers does not matter. -/
theorem calculateVotingEngagement_perm (log2 : κ → κ) {votes others : List ValidVote}
    (perm : votes.Perm others) :
    calculateVotingEngagement log2 votes = calculateVotingEngagement log2 others := by
  have counts : (VALID_VOTES.map fun vote => votes.count vote) =
      VALID_VOTES.map fun vote => others.count vote :=
    List.map_congr_left fun vote _ => perm.count_eq vote
  rw [calculateVotingEngagement, calculateVotingEngagement, voteCounts_eq, voteCounts_eq, counts,
    perm.length_eq]

/-- The shares of the answers. -/
def shares (κ : Type) [Field κ] (votes : List ValidVote) (vote : ValidVote) : κ :=
  (votes.count vote : κ) / votes.length

theorem calculateVotingEngagement_cons (log2 : κ → κ) {votes : List ValidVote}
    (present : votes ≠ []) : calculateVotingEngagement log2 votes =
      (VALID_VOTES.map (shares κ votes)).foldl (addEntropy log2) 0 / log2 11 := by
  have positive : votes.length ≠ 0 := fun empty => present (List.length_eq_zero_iff.mp empty)
  rw [calculateVotingEngagement, if_neg positive, voteCounts_eq]
  simp only [List.map_map]
  rfl

theorem addEntropy_eq_add (log2 : κ → κ) (entropy prob : κ) :
    addEntropy log2 entropy prob = entropy + addEntropy log2 0 prob := by
  rw [addEntropy, addEntropy]
  split <;> ring

theorem foldl_addEntropy_eq_sum (log2 : κ → κ) (probabilities : List κ) (start : κ) :
    probabilities.foldl (addEntropy log2) start =
      start + (probabilities.map (addEntropy log2 0)).sum := by
  induction probabilities generalizing start with
  | nil => simp
  | cons prob rest ih =>
      rw [List.foldl_cons, ih, addEntropy_eq_add, List.map_cons, List.sum_cons, add_assoc]

/-! ## The details of a score -/

theorem foldl_countDistribution (votes keys : List ValidVote) (counted : ValidVote → Nat) :
    votes.foldl countDistribution (keys.map fun vote => (vote, counted vote)) =
      keys.map fun vote => (vote, counted vote + votes.count vote) := by
  induction votes generalizing counted with
  | nil => rfl
  | cons first rest ih =>
      have counts : countDistribution (keys.map fun vote => (vote, counted vote)) first =
          keys.map fun vote => (vote, counted vote + if vote = first then 1 else 0) := by
        rw [countDistribution, List.map_map]
        apply List.map_congr_left
        intro vote _
        by_cases same : vote = first <;> simp [same]
      rw [List.foldl_cons, counts, ih]
      apply List.map_congr_left
      intro vote _
      rw [List.count_cons, Prod.mk.injEq]
      by_cases same : vote = first
      · rw [if_pos same, same, beq_self_eq_true, if_pos rfl]
        exact ⟨rfl, by omega⟩
      · rw [if_neg same, beq_false_of_ne (Ne.symm same), if_neg Bool.false_ne_true]
        exact ⟨rfl, by omega⟩

theorem perm_distributionKeys : distributionKeys.Perm VALID_VOTES := by decide

variable [IsStrictOrderedRing κ]

theorem addCount_eq {totalVotes : Nat} (positive : 0 < totalVotes) (log2 : κ → κ) (entropy : κ)
    (count : Nat) :
    addCount log2 totalVotes entropy count =
      addEntropy log2 entropy ((count : κ) / totalVotes) := by
  have given : (0 : κ) < (count : κ) / totalVotes ↔ 0 < count := by
    rw [div_pos_iff_of_pos_right (Nat.cast_pos.mpr positive), Nat.cast_pos]
  rw [addCount, addEntropy]
  exact if_congr given.symm rfl rfl

variable [FloorRing κ]

/-- The record of a decentralized identifier counts its answers, and their entropy is that of the
score. -/
structure Describes (log2 : κ → κ) (votes : List ValidVote) (record : DidBenchmarkRecord κ) :
    Prop where
  total : record.total_votes = votes.length
  distribution : record.vote_distribution =
    distributionKeys.map fun vote => (vote, votes.count vote)
  counted : (record.vote_distribution.map Prod.snd).sum = record.total_votes
  entropy : record.entropy = roundScore (calculateVotingEngagement log2 votes * log2 11)

theorem describes_buildVoterBenchmarkRecord {log2 : κ → κ} (unit : log2 11 ≠ 0) (did : String)
    (votes : List ValidVote) (score : κ) (collectionIds : List String) :
    Describes log2 votes (buildVoterBenchmarkRecord log2 did votes score collectionIds) := by
  have distribution : votes.foldl countDistribution (distributionKeys.map fun vote => (vote, 0)) =
      distributionKeys.map fun vote => (vote, votes.count vote) := by
    have counted := foldl_countDistribution votes distributionKeys fun _ => 0
    simp only [Nat.zero_add] at counted
    exact counted
  have counts : ((distributionKeys.map fun vote => (vote, votes.count vote)).map Prod.snd).sum =
      votes.length := by
    rw [List.map_map, (perm_distributionKeys.map _).sum_eq, sum_VALID_VOTES]
    exact sum_count votes
  refine ⟨rfl, distribution, ?_, ?_⟩
  · rw [buildVoterBenchmarkRecord]
    dsimp only
    rw [distribution, counts]
  · rw [buildVoterBenchmarkRecord]
    dsimp only
    congr 1
    by_cases present : votes = []
    · rw [present]
      simp [calculateVotingEngagement]
    · have positive : 0 < votes.length := List.length_pos_iff.mpr present
      have step : addCount log2 votes.length =
          fun entropy (count : Nat) => addEntropy log2 entropy ((count : κ) / votes.length) :=
        funext fun entropy => funext fun count => addCount_eq positive log2 entropy count
      have same := (perm_distributionKeys.map (shares κ votes)).map (addEntropy log2 0)
      rw [if_pos positive, distribution, calculateVotingEngagement_cons log2 present,
        div_mul_cancel₀ _ unit, foldl_addEntropy_eq_sum, ← same.sum_eq, ← foldl_addEntropy_eq_sum,
        step, List.map_map, List.foldl_map, List.foldl_map]
      rfl

end Scores

/-! ## Real scores -/

section Real

open Real

/-- `Math.log2` of real numbers. -/
noncomputable def log2 (value : ℝ) : ℝ := logb (2 : ℕ) value

theorem log2_eq (value : ℝ) : log2 value = log value / log 2 := by
  rw [log2, logb, Nat.cast_ofNat]

theorem log2_eleven_pos : 0 < log2 11 := logb_pos (by norm_num) (by norm_num)

theorem addEntropy_eq_negMulLog {prob : ℝ} (nonneg : 0 ≤ prob) :
    addEntropy log2 0 prob = negMulLog prob / log 2 := by
  rw [addEntropy]
  split
  · rw [negMulLog, log2_eq]
    ring
  · rename_i zero
    rw [le_antisymm (not_lt.mp zero) nonneg, negMulLog_zero, zero_div]

variable {votes : List ValidVote}

theorem shares_mem_stdSimplex (present : votes ≠ []) : shares ℝ votes ∈ stdSimplex ℝ ValidVote := by
  have positive : (votes.length : ℝ) ≠ 0 :=
    Nat.cast_ne_zero.mpr fun empty => present (List.length_eq_zero_iff.mp empty)
  constructor
  · exact fun vote => div_nonneg (Nat.cast_nonneg _) (Nat.cast_nonneg _)
  · have cast := congrArg (Nat.cast (R := ℝ)) (sum_count votes)
    rw [Nat.cast_sum] at cast
    simp only [shares]
    rw [← Finset.sum_div, cast, div_self positive]

/-- The score is the entropy of the shares of the answers. -/
theorem calculateVotingEngagement_eq_entropy (present : votes ≠ []) :
    calculateVotingEngagement log2 votes = entropy (shares ℝ votes) / log 11 := by
  have whole := shares_mem_stdSimplex present
  have nonneg : ∀ prob ∈ VALID_VOTES.map (shares ℝ votes), 0 ≤ prob := by
    intro prob member
    rcases List.mem_map.mp member with ⟨vote, _, rfl⟩
    exact whole.1 vote
  rw [calculateVotingEngagement_cons log2 present, foldl_addEntropy_eq_sum, zero_add,
    List.map_congr_left fun prob member => addEntropy_eq_negMulLog (nonneg prob member),
    List.map_map, sum_VALID_VOTES]
  simp only [Function.comp_apply]
  rw [← Finset.sum_div, log2_eq, div_div_div_cancel_right₀ (log_pos one_lt_two).ne']
  rfl

theorem share_eq_one_iff (present : votes ≠ []) {vote : ValidVote} :
    shares ℝ votes vote = 1 ↔ ∀ other ∈ votes, vote = other := by
  have positive : (votes.length : ℝ) ≠ 0 :=
    Nat.cast_ne_zero.mpr fun empty => present (List.length_eq_zero_iff.mp empty)
  rw [shares, div_eq_one_iff_eq positive, Nat.cast_inj, List.count_eq_length]

/-- There is no entropy exactly if there is only one answer. -/
theorem calculateVotingEngagement_eq_zero_iff :
    calculateVotingEngagement log2 votes = 0 ↔ ∀ vote ∈ votes, ∀ other ∈ votes, vote = other := by
  cases votes with
  | nil =>
      rw [calculateVotingEngagement, List.length_nil, if_pos rfl]
      exact iff_of_true rfl fun _ member => absurd member List.not_mem_nil
  | cons first rest =>
      have present := List.cons_ne_nil first rest
      rw [calculateVotingEngagement_eq_entropy present,
        div_eq_zero_iff, or_iff_left (log_pos (by norm_num)).ne',
        entropy_eq_zero_iff (shares_mem_stdSimplex present)]
      constructor
      · rintro ⟨vote, one⟩ second member third other
        have all := (share_eq_one_iff present).mp one
        exact (all second member).symm.trans (all third other)
      · exact fun same => ⟨first, (share_eq_one_iff present).mpr (same first List.mem_cons_self)⟩

/-- The greatest score is that of answers that were all given equally often. -/
theorem calculateVotingEngagement_eq_one_iff (present : votes ≠ []) :
    calculateVotingEngagement log2 votes = 1 ↔
      ∀ vote other, votes.count vote = votes.count other := by
  have whole := shares_mem_stdSimplex present
  have card := entropy_eq_log_card_iff whole
  rw [card_validVote, Nat.cast_ofNat] at card
  rw [calculateVotingEngagement_eq_entropy present, div_eq_one_iff_eq (log_pos (by norm_num)).ne',
    card]
  constructor
  · intro equal vote other
    have positive : (votes.length : ℝ) ≠ 0 :=
      Nat.cast_ne_zero.mpr fun empty => present (List.length_eq_zero_iff.mp empty)
    have same := (equal vote).trans (equal other).symm
    rw [shares, shares, div_left_inj' positive, Nat.cast_inj] at same
    exact same
  · intro same vote
    have all : ∀ other ∈ Finset.univ, shares ℝ votes other = shares ℝ votes vote := by
      intro other _
      rw [shares, shares, same other vote]
    have sum := whole.2
    rw [Finset.sum_congr rfl all, Finset.sum_const, Finset.card_univ, card_validVote,
      nsmul_eq_mul, Nat.cast_ofNat] at sum
    exact eq_inv_of_mul_eq_one_right sum

theorem calculateVotingEngagement_mem_Icc (votes : List ValidVote) :
    calculateVotingEngagement log2 votes ∈ Set.Icc 0 1 := by
  by_cases empty : votes = []
  · rw [empty]
    exact ⟨le_rfl, zero_le_one⟩
  · have whole := shares_mem_stdSimplex empty
    have most := entropy_le_log_card whole
    rw [card_validVote, Nat.cast_ofNat] at most
    have positive : 0 < log 11 := log_pos (by norm_num)
    rw [calculateVotingEngagement_eq_entropy empty]
    exact ⟨div_nonneg (entropy_nonneg whole) positive.le, (div_le_one positive).mpr most⟩

/-- Scores lie between that of one answer and that of eleven equal ones, and reach either end only
there. -/
theorem calculateVotingEngagement_bounds (votes : List ValidVote) :
    0 ≤ calculateVotingEngagement log2 votes ∧ calculateVotingEngagement log2 votes ≤ 1 ∧
      (calculateVotingEngagement log2 votes = 0 ↔
        ∀ vote ∈ votes, ∀ other ∈ votes, vote = other) ∧
      (calculateVotingEngagement log2 votes = 1 ↔
        votes ≠ [] ∧ ∀ vote other, votes.count vote = votes.count other) := by
  have bounds := calculateVotingEngagement_mem_Icc votes
  refine ⟨bounds.1, bounds.2, calculateVotingEngagement_eq_zero_iff, ?_⟩
  by_cases empty : votes = []
  · have none : calculateVotingEngagement log2 votes = 0 := by
      rw [empty]
      rfl
    rw [none]
    exact ⟨fun one => absurd one zero_ne_one, fun present => absurd empty present.1⟩
  · rw [calculateVotingEngagement_eq_one_iff empty]
    exact ⟨fun same => ⟨empty, same⟩, fun both => both.2⟩

/-- Rounding stays between whole numbers. -/
theorem roundScore_mem_Icc {score : ℝ} (between : score ∈ Set.Icc 0 1) :
    roundScore score ∈ Set.Icc 0 1 := by
  rcases between with ⟨least, most⟩
  have positive : (0 : ℝ) < 10 ^ 6 := by norm_num
  have lower : 0 ≤ ⌊score * 10 ^ 6 + 1 / 2⌋ := Int.floor_nonneg.mpr (by positivity)
  have upper : ⌊score * 10 ^ 6 + 1 / 2⌋ ≤ 10 ^ 6 := by
    have below : score * 10 ^ 6 + 1 / 2 < ((10 ^ 6 + 1 : ℤ) : ℝ) := by
      push_cast
      linarith [mul_le_of_le_one_left positive.le most]
    exact Int.lt_add_one_iff.mp (Int.floor_lt.mpr below)
  constructor
  · exact div_nonneg (Int.cast_nonneg lower) positive.le
  · rw [roundScore, div_le_one positive]
    exact_mod_cast upper

theorem scoreOf_mem_Icc (votes : List ValidVote) : scoreOf log2 votes ∈ Set.Icc 0 1 := by
  rw [scoreOf]
  split
  · exact roundScore_mem_Icc (calculateVotingEngagement_mem_Icc votes)
  · exact ⟨le_rfl, zero_le_one⟩

end Real

end Reputo.VotingEngagement
