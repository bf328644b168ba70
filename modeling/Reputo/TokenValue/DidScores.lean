import Mathlib.Algebra.BigOperators.Ring.List
import Mathlib.Tactic.Ring
import Reputo.Library.Json
import Reputo.Library.JsText
import Reputo.TokenValue.Resources
import Reputo.TokenValue.Score

/-!
# Scores of decentralized identifiers

The map of decentralized identifiers is read from a file, and the scores of wallets are added up
for the identifiers that list them.  Every addition is rounded, which changes nothing: the score
of an identifier is exactly the sum over the wallets that it lists.
-/

namespace Reputo.TokenValue

open Reputo.Library

variable (toLowerCase : String → String) (localeCompare : String → String → Ordering)

/-! ## The map of decentralized identifiers -/

section Parsing

variable {ν : Type}

def normalizeWalletAddress (wallet chain : String) : String :=
  if chain = "ethereum" then toLowerCase wallet else wallet

/-- The wallet of an entry with a supported chain and an address. -/
def readWallet (wallet : Json ν) : Option DidWallet := do
  let chain ← ((wallet.field "chain").bind Json.asString).filter fun chain =>
    chain = "ethereum" || chain = "cardano"
  let address ← ((wallet.field "address").bind Json.asString).filter fun address =>
    JsText.trim address ≠ ""
  return { address := normalizeWalletAddress toLowerCase (JsText.trim address) chain, chain }

def dedupeKey (wallet : DidWallet) : String := wallet.chain ++ ":" ++ wallet.address

def parseUserWallets (value : Option (Json ν)) : List DidWallet :=
  match value.bind Json.asArray with
  | none => []
  | some wallets => distinctBy dedupeKey (wallets.filterMap (readWallet toLowerCase))

/-- The entry of a decentralized identifier, if it is a record under a name. -/
def readDid (field : String × Json ν) : Option (String × DidEntry) :=
  if field.2.asRecord.isNone ∨ JsText.trim field.1 = "" then none
  else some (field.1, { userWallets := parseUserWallets toLowerCase (field.2.field "userWallets") })

def parseDidInputRecord (parsed : Json ν) : DidInputMap :=
  match parsed.asRecord with
  | none => .empty
  | some fields => .ofPairs (fields.filterMap (readDid toLowerCase))

end Parsing

def sortDids (dids : List String) : List String :=
  dids.mergeSort fun left right => localeCompare left right ≠ .gt

def getDids (didInputMap : DidInputMap) : List String := sortDids localeCompare didInputMap.keys

/-- The identifiers with the addresses of their wallets. -/
def walletsOfDids (didInputMap : DidInputMap) : List (String × String) :=
  didInputMap.entries.flatMap fun entry =>
    entry.2.userWallets.map fun wallet => (wallet.address, entry.1)

/-- The identifiers that list a wallet, once for each time that they list it. -/
def buildWalletDidsIndex (didInputMap : DidInputMap) : OrderedMap String (List String) :=
  let index : OrderedMap String (List String) :=
    .groupInto Prod.fst OrderedMap.appendRow .empty (walletsOfDids didInputMap)
  .ofPairs (index.entries.map fun entry => (entry.1, sortDids localeCompare entry.2))

/-! ## Sums of scores -/

structure DidScoreDetail where
  did : String
  token_value : Rat := 0
  wallets : List WalletScoreDetail := []

def DidScoreDetail.add (aggregate : DidScoreDetail) (walletScore : WalletScoreDetail) :
    DidScoreDetail where
  did := aggregate.did
  token_value := roundScore (aggregate.token_value + walletScore.token_value)
  wallets := aggregate.wallets ++ [walletScore]

/-- The map that the scores are added to. -/
def startMap (dids : List String) : OrderedMap String DidScoreDetail :=
  .ofPairs (dids.map fun did => (did, { did }))

/-- A score is added for an identifier that is known. -/
def addScore (walletScore : WalletScoreDetail) (didMap : OrderedMap String DidScoreDetail)
    (did : String) : OrderedMap String DidScoreDetail :=
  match didMap.get? did with
  | none => didMap
  | some aggregate => didMap.set did (aggregate.add walletScore)

def addWalletScore (walletDidsIndex : OrderedMap String (List String))
    (didMap : OrderedMap String DidScoreDetail) (walletScore : WalletScoreDetail) :
    OrderedMap String DidScoreDetail :=
  ((walletDidsIndex.get? walletScore.wallet_address).getD []).foldl (addScore walletScore) didMap

def sortWallets (row : DidScoreDetail) : DidScoreDetail :=
  { row with
    wallets := row.wallets.mergeSort fun left right =>
      localeCompare left.wallet_address right.wallet_address ≠ .gt }

def aggregateWalletScoresByDid (dids : List String) (walletScores : List WalletScoreDetail)
    (walletDidsIndex : OrderedMap String (List String)) : List DidScoreDetail :=
  let didMap := walletScores.foldl (addWalletScore walletDidsIndex) (startMap dids)
  (didMap.entries.map fun entry => sortWallets localeCompare entry.2).mergeSort fun left right =>
    localeCompare left.did right.did ≠ .gt

/-- The scores of the identifiers for the lots of the wallets. -/
def scoreDids (didInputMap : DidInputMap) (lotsState : WalletLotsState) (input : ScoreInput) :
    List DidScoreDetail :=
  aggregateWalletScoresByDid localeCompare (getDids localeCompare didInputMap)
    (scoreWalletLots localeCompare lotsState input) (buildWalletDidsIndex localeCompare didInputMap)

/-! ## Wallets that were read -/

section Parsed

variable {toLowerCase} {ν : Type}

/-- The wallet has a supported chain and an address in the spelling of its chain. -/
def DidWallet.WellFormed (toLowerCase : String → String) (wallet : DidWallet) : Prop :=
  (wallet.chain = "ethereum" ∨ wallet.chain = "cardano") ∧
    ∃ text, JsText.trim text ≠ "" ∧
      wallet.address = normalizeWalletAddress toLowerCase (JsText.trim text) wallet.chain

theorem wellFormed_of_readWallet {value : Json ν} {wallet : DidWallet}
    (read : readWallet toLowerCase value = some wallet) : wallet.WellFormed toLowerCase := by
  rcases Option.bind_eq_some_iff.mp read with ⟨chain, chainRead, afterChain⟩
  rcases Option.bind_eq_some_iff.mp afterChain with ⟨address, addressRead, built⟩
  cases Option.some.inj built
  have supported := (Option.filter_eq_some_iff.mp chainRead).2
  have present := (Option.filter_eq_some_iff.mp addressRead).2
  simp only [Bool.or_eq_true, decide_eq_true_eq] at supported present
  exact ⟨supported, address, present, rfl⟩

/-- On supported chains, a key is a chain and an address. -/
theorem dedupeKey_injective {wallet other : DidWallet}
    (supported : wallet.chain = "ethereum" ∨ wallet.chain = "cardano")
    (otherSupported : other.chain = "ethereum" ∨ other.chain = "cardano")
    (same : dedupeKey wallet = dedupeKey other) : wallet = other := by
  rcases wallet with ⟨address, chain⟩
  rcases other with ⟨otherAddress, otherChain⟩
  have texts := congrArg String.toList same
  simp only [dedupeKey, String.toList_append, List.append_assoc] at supported otherSupported texts
  rcases supported with rfl | rfl
  · rcases otherSupported with rfl | rfl
    · rw [String.toList_inj.mp (List.append_cancel_left (List.append_cancel_left texts))]
    · exact absurd (List.cons.inj texts).1 (by decide)
  · rcases otherSupported with rfl | rfl
    · exact absurd (List.cons.inj texts).1 (by decide)
    · rw [String.toList_inj.mp (List.append_cancel_left (List.append_cancel_left texts))]

/-- The wallets of an identifier are those that can be read, each once. -/
theorem mem_parseUserWallets {items : List (Json ν)} {wallet : DidWallet} :
    wallet ∈ parseUserWallets toLowerCase (some (.arr items)) ↔
      ∃ item ∈ items, readWallet toLowerCase item = some wallet := by
  rw [← List.mem_filterMap]
  constructor
  · exact fun kept => mem_of_mem_distinctBy kept
  · intro read
    have keyed : dedupeKey wallet ∈
        (distinctBy dedupeKey (items.filterMap (readWallet toLowerCase))).map dedupeKey :=
      mem_keys_distinctBy.mpr (List.mem_map_of_mem read)
    rcases List.mem_map.mp keyed with ⟨other, kept, same⟩
    have supported : ∀ listed ∈ items.filterMap (readWallet toLowerCase),
        listed.chain = "ethereum" ∨ listed.chain = "cardano" := by
      intro listed member
      rcases List.mem_filterMap.mp member with ⟨item, _, own⟩
      exact (wellFormed_of_readWallet own).1
    rw [← dedupeKey_injective (supported other (mem_of_mem_distinctBy kept))
      (supported wallet read) same]
    exact kept

theorem nodup_parseUserWallets (value : Option (Json ν)) :
    (parseUserWallets toLowerCase value).Nodup := by
  rw [parseUserWallets]
  split
  · exact List.nodup_nil
  · exact (keys_distinctBy_nodup dedupeKey _).of_map _

/-- The identifiers of a file have names, and list wallets in the spelling of their chains, each
once. -/
theorem wellFormed_parseDidInputRecord {parsed : Json ν} {did : String} {entry : DidEntry}
    (found : (parseDidInputRecord toLowerCase parsed).get? did = some entry) :
    JsText.trim did ≠ "" ∧ entry.userWallets.Nodup ∧
      ∀ wallet ∈ entry.userWallets, wallet.WellFormed toLowerCase := by
  rw [parseDidInputRecord] at found
  cases record : parsed.asRecord with
  | none =>
      rw [record] at found
      cases found
  | some fields =>
      rw [record] at found
      rcases List.mem_filterMap.mp (OrderedMap.mem_of_get?_ofPairs found) with ⟨field, _, read⟩
      rw [readDid] at read
      split at read
      case isTrue => cases read
      case isFalse named =>
          cases read
          refine ⟨fun blank => named (Or.inr blank), nodup_parseUserWallets _, ?_⟩
          intro wallet listed
          dsimp only at listed
          rw [parseUserWallets] at listed
          split at listed
          · cases listed
          · rcases List.mem_filterMap.mp (mem_of_mem_distinctBy listed) with ⟨item, _, own⟩
            exact wellFormed_of_readWallet own

end Parsed

/-! ## Owners of wallets -/

section Owners

variable {localeCompare} {didInputMap : DidInputMap}

theorem perm_buildWalletDidsIndex (wallet : String) :
    (((buildWalletDidsIndex localeCompare didInputMap).get? wallet).getD []).Perm
      (((walletsOfDids didInputMap).filter fun owner => owner.1 = wallet).map Prod.snd) := by
  rw [← OrderedMap.getD_groupInto_appendRow, buildWalletDidsIndex,
    OrderedMap.get?_ofPairs_map _ (sortDids localeCompare)]
  cases (OrderedMap.groupInto Prod.fst OrderedMap.appendRow .empty
    (walletsOfDids didInputMap)).get? wallet with
  | none => exact .nil
  | some dids => exact List.mergeSort_perm dids _

theorem count_ownWallets (wallets : List DidWallet) (did wallet : String) :
    (((wallets.map fun listed => (listed.address, did)).filter
      fun owner => owner.1 = wallet).map Prod.snd).count did =
        wallets.countP fun listed => listed.address = wallet := by
  induction wallets with
  | nil => rfl
  | cons listed rest ih =>
      rw [List.map_cons, List.filter_cons, List.countP_cons]
      split
      · rw [List.map_cons, List.count_cons_self, ih]
      · rw [ih, Nat.add_zero]

theorem count_otherWallets {entries : List (String × DidEntry)} {did : String}
    (absent : did ∉ entries.map Prod.fst) (wallet : String) :
    (((entries.flatMap fun entry => entry.2.userWallets.map fun listed =>
      (listed.address, entry.1)).filter fun owner => owner.1 = wallet).map Prod.snd).count did =
        0 := by
  apply List.count_eq_zero.mpr
  intro member
  simp only [List.mem_map, List.mem_filter, List.mem_flatMap] at member
  rcases member with ⟨_, ⟨⟨entry, listed, _, _, rfl⟩, _⟩, equal⟩
  exact absent (List.mem_map.mpr ⟨entry, listed, equal⟩)

/-- An identifier is found for a wallet as often as it lists the wallet. -/
theorem count_walletsOfDids {did : String} {entry : DidEntry}
    (found : didInputMap.get? did = some entry) (wallet : String) :
    (((walletsOfDids didInputMap).filter fun owner => owner.1 = wallet).map Prod.snd).count did =
      entry.userWallets.countP fun listed => listed.address = wallet := by
  rcases didInputMap with ⟨entries, nodup⟩
  simp only [OrderedMap.get?, walletsOfDids] at found ⊢
  induction entries with
  | nil => cases found
  | cons first rest ih =>
      rcases first with ⟨name, listedHere⟩
      rcases List.nodup_cons.mp nodup with ⟨fresh, others⟩
      rw [List.flatMap_cons, List.filter_append, List.map_append, List.count_append]
      by_cases same : did = name
      · subst same
        rw [List.lookup_cons_self] at found
        cases found
        rw [count_ownWallets, count_otherWallets fresh, Nat.add_zero]
      · rw [OrderedMap.lookup_cons_of_ne _ _ same] at found
        have none : (((listedHere.userWallets.map fun listed => (listed.address, name)).filter
            fun owner => owner.1 = wallet).map Prod.snd).count did = 0 := by
          apply List.count_eq_zero.mpr
          intro member
          simp only [List.mem_map, List.mem_filter] at member
          rcases member with ⟨_, ⟨⟨_, _, rfl⟩, _⟩, equal⟩
          exact same equal.symm
        rw [none, Nat.zero_add, ih others found]

end Owners

/-! ## Rounded numbers -/

section Rounded

/-- A number with six decimals. -/
def IsRounded (value : Rat) : Prop := ∃ units : Int, value = units / 10 ^ SCORE_PRECISION

theorem isRounded_roundScore (score : Rat) : IsRounded (roundScore score) := ⟨_, rfl⟩

theorem IsRounded.add {left right : Rat} (leftRounded : IsRounded left)
    (rightRounded : IsRounded right) : IsRounded (left + right) := by
  rcases leftRounded with ⟨units, rfl⟩
  rcases rightRounded with ⟨others, rfl⟩
  exact ⟨units + others, by rw [Int.cast_add, add_div]⟩

/-- A number with six decimals is not changed. -/
theorem IsRounded.roundScore_eq {value : Rat} (rounded : IsRounded value) :
    roundScore value = value := by
  rcases rounded with ⟨units, rfl⟩
  have scale : (10 : Rat) ^ SCORE_PRECISION ≠ 0 := pow_ne_zero _ (by norm_num)
  have floor : ⌊(units : Rat) + 1 / 2⌋ = units := by
    rw [Int.floor_intCast_add]
    norm_num
  rw [roundScore, div_mul_cancel₀ _ scale, floor]

end Rounded

/-! ## Sums -/

section Sums

variable {walletScore : WalletScoreDetail} {didMap : OrderedMap String DidScoreDetail}

theorem get?_addScore (did query : String) :
    (addScore walletScore didMap did).get? query =
      if query = did then (didMap.get? query).map (·.add walletScore) else didMap.get? query := by
  cases found : didMap.get? did with
  | none =>
      simp only [addScore, found]
      split
      · rename_i same
        rw [same, found]
        rfl
      · rfl
  | some aggregate =>
      simp only [addScore, found, OrderedMap.get?_set]
      split
      · rename_i same
        rw [same, found]
        rfl
      · rfl

theorem keys_addScore (did : String) : (addScore walletScore didMap did).keys = didMap.keys := by
  cases found : didMap.get? did with
  | none => simp only [addScore, found]
  | some aggregate =>
      simp only [addScore, found]
      exact didMap.keys_set_of_mem _ ((didMap.mem_keys_iff_get? did).mpr ⟨aggregate, found⟩)

/-- What is added for an identifier: every score as often as its wallet is listed. -/
def contributions (walletDidsIndex : OrderedMap String (List String))
    (walletScores : List WalletScoreDetail) (did : String) : List WalletScoreDetail :=
  walletScores.flatMap fun walletScore => List.replicate
    (((walletDidsIndex.get? walletScore.wallet_address).getD []).count did) walletScore

theorem get?_foldl_addScore (dids : List String) (query : String) :
    (dids.foldl (addScore walletScore) didMap).get? query = (didMap.get? query).map fun aggregate =>
      (List.replicate (dids.count query) walletScore).foldl DidScoreDetail.add aggregate := by
  induction dids generalizing didMap with
  | nil => simp
  | cons did rest ih =>
      rw [List.foldl_cons, ih, get?_addScore, List.count_cons]
      by_cases same : query = did
      · subst same
        simp only [if_true, beq_self_eq_true, Option.map_map, List.replicate_succ,
          List.foldl_cons]
        rfl
      · rw [if_neg same, beq_false_of_ne (Ne.symm same), if_neg Bool.false_ne_true, Nat.add_zero]

theorem keys_foldl_addScore (dids : List String) :
    (dids.foldl (addScore walletScore) didMap).keys = didMap.keys := by
  induction dids generalizing didMap with
  | nil => rfl
  | cons did rest ih => rw [List.foldl_cons, ih, keys_addScore]

variable {walletDidsIndex : OrderedMap String (List String)}

theorem get?_foldl_addWalletScore (walletScores : List WalletScoreDetail) (did : String) :
    (walletScores.foldl (addWalletScore walletDidsIndex) didMap).get? did =
      (didMap.get? did).map fun aggregate =>
        (contributions walletDidsIndex walletScores did).foldl DidScoreDetail.add aggregate := by
  induction walletScores generalizing didMap with
  | nil => simp [contributions]
  | cons walletScore rest ih =>
      rw [List.foldl_cons, ih, addWalletScore, get?_foldl_addScore, Option.map_map]
      simp only [contributions, List.flatMap_cons, List.foldl_append]
      rfl

theorem keys_foldl_addWalletScore (walletScores : List WalletScoreDetail) :
    (walletScores.foldl (addWalletScore walletDidsIndex) didMap).keys = didMap.keys := by
  induction walletScores generalizing didMap with
  | nil => rfl
  | cons walletScore rest ih =>
      rw [List.foldl_cons, ih, addWalletScore, keys_foldl_addScore]

/-- Rounding every sum changes no sum of rounded scores. -/
theorem foldl_add_eq {scores : List WalletScoreDetail}
    (rounded : ∀ walletScore ∈ scores, IsRounded walletScore.token_value)
    {aggregate : DidScoreDetail} (start : IsRounded aggregate.token_value) :
    scores.foldl DidScoreDetail.add aggregate = {
      did := aggregate.did
      token_value := aggregate.token_value + (scores.map (·.token_value)).sum
      wallets := aggregate.wallets ++ scores } := by
  induction scores generalizing aggregate with
  | nil => simp
  | cons walletScore rest ih =>
      have sum := start.add (rounded walletScore List.mem_cons_self)
      have started : IsRounded (aggregate.add walletScore).token_value := isRounded_roundScore _
      have value : (aggregate.add walletScore).token_value =
          aggregate.token_value + walletScore.token_value := sum.roundScore_eq
      have later := ih (fun other member => rounded other (List.mem_cons_of_mem _ member)) started
      rw [List.foldl_cons, later, value, List.map_cons, List.sum_cons, add_assoc]
      simp [DidScoreDetail.add]

end Sums

/-! ## Scores of identifiers -/

section Scores

variable {localeCompare} {didInputMap : DidInputMap} {lotsState : WalletLotsState}
  {input : ScoreInput}

/-- The scores of the wallets that an entry lists, once for each time that it lists them. -/
def listedScores (lotsState : WalletLotsState) (input : ScoreInput) (entry : DidEntry) :
    List WalletScoreDetail :=
  entry.userWallets.filterMap fun wallet =>
    (lotsState.get? wallet.address).map (scoreLots input wallet.address)

theorem nodup_scoreWalletLots :
    ((scoreWalletLots localeCompare lotsState input).map (·.wallet_address)).Nodup := by
  apply ((List.mergeSort_perm _ _).map _).nodup_iff.mpr
  rw [List.map_map]
  exact lotsState.keys_nodup

theorem find?_scoreWalletLots (wallet : String) :
    (scoreWalletLots localeCompare lotsState input).find?
        (fun walletScore => walletScore.wallet_address = wallet) =
      (lotsState.get? wallet).map (scoreLots input wallet) := by
  have sorted := List.mergeSort_perm
    (lotsState.entries.map fun entry => scoreLots input entry.1 entry.2)
    (fun left right => localeCompare left.wallet_address right.wallet_address ≠ .gt)
  apply Option.ext
  intro walletScore
  constructor
  · intro found
    rcases List.mem_map.mp (sorted.mem_iff.mp (List.mem_of_find?_eq_some found)) with
      ⟨entry, member, rfl⟩
    have address : (scoreLots input entry.1 entry.2).wallet_address = wallet := by
      simpa only [decide_eq_true_eq] using List.find?_some found
    change entry.1 = wallet at address
    subst address
    rw [lotsState.get?_of_mem_entries member, Option.map_some]
  · intro scored
    rcases Option.map_eq_some_iff.mp scored with ⟨lots, held, rfl⟩
    have entryMember := lotsState.get?_eq_some_iff_mem.mp held
    exact find?_key_eq nodup_scoreWalletLots
      (sorted.mem_iff.mpr (List.mem_map.mpr ⟨(wallet, lots), entryMember, rfl⟩))

theorem isRounded_of_mem_scoreWalletLots {walletScore : WalletScoreDetail}
    (member : walletScore ∈ scoreWalletLots localeCompare lotsState input) :
    IsRounded walletScore.token_value := by
  rcases List.mem_map.mp ((List.mergeSort_perm _ _).mem_iff.mp member) with ⟨entry, _, rfl⟩
  exact isRounded_roundScore _

/-- The scores that are added for an identifier are those of the wallets that it lists. -/
theorem perm_contributions {did : String} {entry : DidEntry}
    (found : didInputMap.get? did = some entry) :
    (contributions (buildWalletDidsIndex localeCompare didInputMap)
      (scoreWalletLots localeCompare lotsState input) did).Perm
        (listedScores lotsState input entry) := by
  have nodup : ((scoreWalletLots localeCompare lotsState input).map (·.wallet_address)).Nodup :=
    nodup_scoreWalletLots
  have joined := perm_flatMap_replicate nodup (entry.userWallets.map (·.address))
  have listed : (entry.userWallets.map (·.address)).filterMap (fun wallet =>
      (scoreWalletLots localeCompare lotsState input).find?
        fun walletScore => walletScore.wallet_address = wallet) =
      listedScores lotsState input entry := by
    simp only [find?_scoreWalletLots, List.filterMap_map]
    rfl
  have counted : ∀ wallet, (((buildWalletDidsIndex localeCompare didInputMap).get?
      wallet).getD []).count did = (entry.userWallets.map (·.address)).count wallet := by
    intro wallet
    rw [(perm_buildWalletDidsIndex wallet).count_eq, count_walletsOfDids found,
      List.count, List.countP_map]
    rfl
  rw [listed] at joined
  simpa only [contributions, counted] using joined

theorem nodup_getDids : (getDids localeCompare didInputMap).Nodup :=
  (List.mergeSort_perm _ _).nodup_iff.mpr didInputMap.keys_nodup

theorem entries_startMap {dids : List String} (nodup : dids.Nodup) :
    (startMap dids).entries = dids.map fun did => (did, { did }) := by
  apply OrderedMap.entries_ofPairs_of_nodup
  rw [List.map_map]
  exact (List.map_id dids).symm ▸ nodup

/-- An identifier ends with the scores that are added for it. -/
theorem entry_of_mem {entry : String × DidScoreDetail}
    (member : entry ∈ ((scoreWalletLots localeCompare lotsState input).foldl
      (addWalletScore (buildWalletDidsIndex localeCompare didInputMap))
      (startMap (getDids localeCompare didInputMap))).entries) :
    entry.2 = {
      did := entry.1
      token_value := ((contributions (buildWalletDidsIndex localeCompare didInputMap)
        (scoreWalletLots localeCompare lotsState input) entry.1).map (·.token_value)).sum
      wallets := contributions (buildWalletDidsIndex localeCompare didInputMap)
        (scoreWalletLots localeCompare lotsState input) entry.1 } := by
  have stored := OrderedMap.get?_of_mem_entries _ member
  rw [get?_foldl_addWalletScore] at stored
  rcases Option.map_eq_some_iff.mp stored with ⟨start, started, added⟩
  have first := OrderedMap.mem_of_get?_ofPairs started
  rcases List.mem_map.mp first with ⟨did, _, same⟩
  cases same
  have rounded : ∀ walletScore ∈ contributions (buildWalletDidsIndex localeCompare didInputMap)
      (scoreWalletLots localeCompare lotsState input) entry.1,
      IsRounded walletScore.token_value := by
    intro walletScore contributed
    rcases List.mem_flatMap.mp contributed with ⟨scored, scoredMember, copy⟩
    rw [List.eq_of_mem_replicate copy]
    exact isRounded_of_mem_scoreWalletLots scoredMember
  have zero : IsRounded (0 : Rat) := ⟨0, by norm_num⟩
  rw [← added, foldl_add_eq rounded zero, zero_add, List.nil_append]

end Scores

end Reputo.TokenValue
