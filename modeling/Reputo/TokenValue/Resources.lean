import Reputo.Library.Distinct
import Reputo.TokenValue.Types

/-!
# Resources and wallets of a snapshot

The selected resources are looked up in the catalog of the definition, and the
wallets of every chain are read from the map of DIDs.  `toLowerCase` stands for
the method of JavaScript strings.
-/

namespace Reputo.TokenValue

open Reputo.Library

variable (toLowerCase : String → String)

def buildResourceId (chain identifier : String) : ResourceId :=
  chain ++ ":" ++ toLowerCase identifier

/-- A catalog entry as a resolved resource. -/
def resolveEntry (entry : ResourceCatalogEntry) : ResolvedResource where
  chain := entry.chain
  resourceKey := entry.key
  kind := entry.kind
  identifier := entry.identifier
  tokenIdentifier := entry.tokenIdentifier
  tokenDecimals := entry.tokenDecimals
  resourceId := buildResourceId toLowerCase entry.chain entry.tokenIdentifier

/-- The catalog entries of the selected resources, each identifier once. -/
def resolveSelectedResources (selected : List SelectedResourceInput)
    (catalog : List ResourceCatalogEntry) : List ResolvedResource :=
  let found := selected.flatMap fun sel =>
    catalog.filter fun entry => entry.chain = sel.chain && entry.key = sel.resourceKey
  (distinctBy (fun entry => entry.chain ++ ":" ++ toLowerCase entry.identifier) found).map
    (resolveEntry toLowerCase)

def getStakingContractAddresses (catalog : List ResourceCatalogEntry) : List String :=
  (catalog.filter fun entry => entry.kind = "contract").map fun entry =>
    toLowerCase entry.identifier

/-- `${resource.chain}:${resource.tokenIdentifier.toLowerCase()}`. -/
def tokenDedupeKey (resource : ResolvedResource) : String :=
  resource.chain ++ ":" ++ toLowerCase resource.tokenIdentifier

/-! ## Wallets -/

structure DidWallet where
  address : String
  chain : String
  deriving DecidableEq, Repr

structure DidEntry where
  userWallets : List DidWallet

/-- The DIDs with their wallets, in iteration order. -/
abbrev DidInputMap := OrderedMap String DidEntry

/-- Addresses of the wallets on the chains that pass, each once. -/
def walletsWhere (didInputMap : DidInputMap) (chain : String → Bool) : List String :=
  let wallets := didInputMap.entries.flatMap fun entry => entry.2.userWallets
  distinctBy id ((wallets.filter fun wallet => chain wallet.chain).map (·.address))

def getWalletsForChain (didInputMap : DidInputMap) (chain : String) : List String :=
  walletsWhere didInputMap (· = chain)

def getWalletsForSelectedResources (didInputMap : DidInputMap)
    (selectedResources : List SelectedResourceInput) : List String :=
  walletsWhere didInputMap (· ∈ selectedResources.map (·.chain))

end Reputo.TokenValue
