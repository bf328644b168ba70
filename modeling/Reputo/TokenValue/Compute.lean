import Reputo.TokenValue.Isolation
import Reputo.TokenValue.Normalize
import Reputo.TokenValue.Resources

/-!
# The replay loop of `computeTokenValueOverTime`

Every token of the resolved resources is replayed once, page by page, on one
lots state.  The loop over the pages has no bound of its own; it takes a number
of pages it may read, and ends without a result when that does not suffice.
-/

namespace Reputo.TokenValue

open Reputo.Library Reputo.OnchainData

/-- The stored on-chain data and the text order of its database. -/
structure OnchainRepos where
  cardano : CardanoTables
  evm : EvmAssetTransferTable
  collation : Collation

/-- What a page of transfers is loaded with, apart from its number. -/
structure LoadContext where
  repos : OnchainRepos
  walletAddresses : List String
  limit : Nat
  stakingAddresses : List String
  fromTimestampUnix : Option Int
  toTimestampUnix : Option Int

abbrev TransferPage := Page OrderedTransferEvent

variable (toLowerCase : String → String)

def findTransfersInput (resource : ResolvedResource) (ctx : LoadContext) (pageNumber : Nat) :
    FindTransfersInput where
  chain := resource.chain
  assetIdentifier := resource.tokenIdentifier
  addresses := ctx.walletAddresses
  page := pageNumber
  limit := ctx.limit
  fromTimestampUnix := ctx.fromTimestampUnix
  toTimestampUnix := ctx.toTimestampUnix

def findTransactionsInput (resource : ResolvedResource) (ctx : LoadContext) (pageNumber : Nat) :
    FindTransactionsInput where
  assetIdentifier := resource.tokenIdentifier
  addresses := ctx.walletAddresses
  page := pageNumber
  limit := ctx.limit
  fromTimestampUnix := ctx.fromTimestampUnix
  toTimestampUnix := ctx.toTimestampUnix

def loadEvmTransferPage (resource : ResolvedResource) (ctx : LoadContext) (pageNumber : Nat) :
    Except String TransferPage :=
  if ctx.walletAddresses.length = 0 then .ok ⟨[], false⟩
  else do
    let rows ← findTransfersByAddresses ctx.repos.collation ctx.repos.evm
      (findTransfersInput resource ctx pageNumber)
    let events ← normalizeEvmTransfers toLowerCase rows resource.resourceId ctx.stakingAddresses
    return { items := events, hasMore := rows.length = ctx.limit }

def loadCardanoTransferPage (resource : ResolvedResource) (ctx : LoadContext)
    (pageNumber : Nat) : Except String TransferPage :=
  if ctx.walletAddresses.length = 0 then .ok ⟨[], false⟩
  else do
    let txs ← findTransactionsByAddresses ctx.repos.collation ctx.repos.cardano
      (findTransactionsInput resource ctx pageNumber)
    let events := normalizeCardanoTransactions txs resource.resourceId resource.tokenIdentifier
      ctx.walletAddresses (resource.tokenDecimals.getD 0)
    return { items := events, hasMore := txs.length = ctx.limit }

def loadTransferPage (resource : ResolvedResource) (ctx : LoadContext) (pageNumber : Nat) :
    Except String TransferPage :=
  if resource.chain = "ethereum" then loadEvmTransferPage toLowerCase resource ctx pageNumber
  else if resource.chain = "cardano" then loadCardanoTransferPage resource ctx pageNumber
  else .error ("Unsupported chain: " ++ resource.chain)

/-- What the replay has built up. -/
structure ReplayState where
  walletLots : WalletLotsState
  replayStats : ReplayStats := {}
  transferCount : Nat := 0

/-- Replay the items of one page. -/
def replayPage (targetWallets : List String) (state : ReplayState)
    (items : List OrderedTransferEvent) : ReplayState :=
  let (lots, stats) := replayTransfers state.walletLots items targetWallets
  { walletLots := lots
    replayStats := state.replayStats.add stats
    transferCount := state.transferCount + items.length }

/-- The page loop of one resource. -/
def replayResource (resource : ResolvedResource) (ctx : LoadContext)
    (targetWallets : List String) (fuel : Nat) (state : ReplayState) : Except Stop ReplayState :=
  follow (loadTransferPage toLowerCase resource ctx) (replayPage targetWallets) fuel 1 state

/-- The inputs of a run, read from the frozen preset and the stored DIDs. -/
structure TokenValueOverTimeParams where
  selectedResources : List SelectedResourceInput
  didInputMap : DidInputMap
  toTimestampUnix : Int

def TRANSFERS_PAGE_LIMIT : Nat := 500

/-- What the pages of one resource are loaded with. -/
def resourceContext (repos : OnchainRepos) (catalog : List ResourceCatalogEntry)
    (params : TokenValueOverTimeParams) (resource : ResolvedResource) : LoadContext where
  repos := repos
  walletAddresses := getWalletsForChain params.didInputMap resource.chain
  limit := TRANSFERS_PAGE_LIMIT
  stakingAddresses := getStakingContractAddresses toLowerCase catalog
  fromTimestampUnix := none
  toTimestampUnix := some params.toTimestampUnix

/-- The resources whose token is loaded: the first one of every token. -/
def queriedResources (catalog : List ResourceCatalogEntry) (params : TokenValueOverTimeParams) :
    List ResolvedResource :=
  distinctBy (tokenDedupeKey toLowerCase)
    (resolveSelectedResources toLowerCase params.selectedResources catalog)

/-- Replay every token on one lots state. -/
def replayAllResources (repos : OnchainRepos) (catalog : List ResourceCatalogEntry)
    (params : TokenValueOverTimeParams) (fuel : Nat) : Except Stop ReplayState :=
  let targetWallets := getWalletsForSelectedResources params.didInputMap params.selectedResources
  (queriedResources toLowerCase catalog params).foldlM (fun state resource =>
      replayResource toLowerCase resource (resourceContext toLowerCase repos catalog params resource)
        targetWallets fuel state)
    { walletLots := initializeWalletLots targetWallets }

/-! ## The loop replays one sequence of events -/

/-- The events that the page loop hands to the replay, in order. -/
def replayedEvents (resource : ResolvedResource) (ctx : LoadContext) (fuel : Nat) :
    Except Stop (List OrderedTransferEvent) :=
  follow (loadTransferPage toLowerCase resource ctx) (fun seen items => seen ++ items) fuel 1 []

theorem replayPage_append (targets : List String) (state : ReplayState)
    (first second : List OrderedTransferEvent) :
    replayPage targets (replayPage targets state first) second =
      replayPage targets state (first ++ second) := by
  simp [replayPage, replayTransfers_append, ReplayStats.add_assoc, Nat.add_assoc]

theorem replayPage_nil (targets : List String) (state : ReplayState) :
    replayPage targets state [] = state := by
  simp [replayPage, replayTransfers]

/-- The page loop is one replay of the events it hands over. -/
theorem replayResource_eq (resource : ResolvedResource) (ctx : LoadContext)
    (targets : List String) (fuel : Nat) (state : ReplayState) :
    replayResource toLowerCase resource ctx targets fuel state =
      (replayedEvents toLowerCase resource ctx fuel).map (replayPage targets state) := by
  have looped := follow_eq_absorb (loadTransferPage toLowerCase resource ctx)
    (replayPage targets) (replayPage_append targets) fuel 1 state []
  rwa [replayPage_nil] at looped

/-! ## Replays of whole resources -/

/-- Every event that a page brings carries the id of its resource. -/
theorem resourceId_of_mem_loadTransferPage {resource : ResolvedResource} {ctx : LoadContext}
    {pageNumber : Nat} {page : TransferPage}
    (loaded : loadTransferPage toLowerCase resource ctx pageNumber = .ok page) :
    ∀ event ∈ page.items, event.resourceId = resource.resourceId := by
  intro event member
  simp only [loadTransferPage] at loaded
  split at loaded
  · simp only [loadEvmTransferPage] at loaded
    split at loaded
    · cases loaded
      simp at member
    · rcases Result.bind_eq_ok.mp loaded with ⟨rows, _, normalizing⟩
      rcases Result.bind_eq_ok.mp normalizing with ⟨events, normalized, built⟩
      cases built
      rcases Result.exists_of_mem_mapM normalized member with ⟨row, _, converted⟩
      exact resourceId_of_normalizeEvmTransfer converted
  · split at loaded
    · simp only [loadCardanoTransferPage] at loaded
      split at loaded
      · cases loaded
        simp at member
      · rcases Result.bind_eq_ok.mp loaded with ⟨txs, _, built⟩
        cases built
        rcases List.mem_flatMap.mp member with ⟨tx, _, flowMember⟩
        exact resourceId_of_mem_flowEvents flowMember
    · cases loaded

theorem resourceId_of_mem_replayedEvents {resource : ResolvedResource} {ctx : LoadContext}
    {fuel : Nat} {events : List OrderedTransferEvent}
    (replayed : replayedEvents toLowerCase resource ctx fuel = .ok events) :
    ∀ event ∈ events, event.resourceId = resource.resourceId := by
  have none : ∀ event ∈ ([] : List OrderedTransferEvent),
      event.resourceId = resource.resourceId := by simp
  exact forall_mem_follow
    (fun _ _ loaded => resourceId_of_mem_loadTransferPage toLowerCase loaded) none replayed

theorem resourceId_of_mem_resolve {selected : List SelectedResourceInput}
    {catalog : List ResourceCatalogEntry} {resource : ResolvedResource}
    (member : resource ∈ resolveSelectedResources toLowerCase selected catalog) :
    resource.resourceId = tokenDedupeKey toLowerCase resource := by
  rcases List.mem_map.mp member with ⟨entry, _, resolved⟩
  rw [← resolved]
  rfl

theorem queriedResources_resourceIds_nodup (catalog : List ResourceCatalogEntry)
    (params : TokenValueOverTimeParams) :
    ((queriedResources toLowerCase catalog params).map (·.resourceId)).Nodup := by
  have keys := keys_distinctBy_nodup (tokenDedupeKey toLowerCase)
    (resolveSelectedResources toLowerCase params.selectedResources catalog)
  have ids : (queriedResources toLowerCase catalog params).map (·.resourceId) =
      (queriedResources toLowerCase catalog params).map (tokenDedupeKey toLowerCase) := by
    apply List.map_congr_left
    intro resource member
    exact resourceId_of_mem_resolve toLowerCase (mem_of_mem_distinctBy member)
  rw [ids]
  exact keys

/-- Replaying resources page by page is replaying one history for each. -/
theorem foldlM_replayResource {resources : List ResolvedResource}
    {context : ResolvedResource → LoadContext} {targets : List String} {fuel : Nat}
    {before after : ReplayState}
    (ended : resources.foldlM (fun state resource =>
      replayResource toLowerCase resource (context resource) targets fuel state) before =
        .ok after) :
    ∃ histories : List ResourceHistory,
      histories.map (·.resourceId) = resources.map (·.resourceId) ∧
      after.walletLots = histories.foldl (fun lots history =>
        (replayTransfers lots history.transfers targets).1) before.walletLots := by
  induction resources generalizing before with
  | nil =>
      cases ended
      exact ⟨[], rfl, rfl⟩
  | cons resource rest ih =>
      rw [List.foldlM_cons] at ended
      rcases Result.bind_eq_ok.mp ended with ⟨middle, first, others⟩
      rw [replayResource_eq] at first
      rcases Result.map_eq_ok.mp first with ⟨events, replayed, built⟩
      rcases ih others with ⟨histories, ids, lots⟩
      refine ⟨⟨resource.resourceId, events,
        resourceId_of_mem_replayedEvents toLowerCase replayed⟩ :: histories, ?_, ?_⟩
      · simp [ids]
      · rw [lots, ← built]
        rfl

/-- A run that ends has replayed one history for every token, on one state. -/
theorem replayAllResources_lots {repos : OnchainRepos} {catalog : List ResourceCatalogEntry}
    {params : TokenValueOverTimeParams} {fuel : Nat} {state : ReplayState}
    (ended : replayAllResources toLowerCase repos catalog params fuel = .ok state) :
    ∃ histories : List ResourceHistory,
      histories.map (·.resourceId) =
        (queriedResources toLowerCase catalog params).map (·.resourceId) ∧
      (histories.map (·.resourceId)).Nodup ∧
      state.walletLots = replayResources
        (getWalletsForSelectedResources params.didInputMap params.selectedResources)
        histories := by
  rcases foldlM_replayResource toLowerCase ended with ⟨histories, ids, lots⟩
  refine ⟨histories, ids, ?_, lots⟩
  rw [ids]
  exact queriedResources_resourceIds_nodup toLowerCase catalog params

end Reputo.TokenValue
