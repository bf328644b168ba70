import Reputo.CustomScore.SealScopes

/-!
# Handles of the encrypted evaluator

Each function of the evaluator leaves in its scope the handles that its caller expects, and
whatever is thrown, no handle is deleted twice or used after its deletion.
-/

namespace Reputo.CustomScore.Seal

open Reputo.Library HandleLog SealHandleScope

variable {ν : Type} {runtime : SealRuntime ν} {outer handles : List Handle}

/-- The last handle of a scope is released. -/
theorem keeps_release_last (runtime : SealRuntime ν) {last : Handle}
    (fresh : last ∉ outer ++ handles) :
    Keeps runtime outer (handles ++ [last]) (release last) fun _ after => after = handles := by
  refine keeps_release.weaken fun _ after same => ?_
  rw [same, List.erase_append_right _ fun member => fresh (List.mem_append_right _ member),
    List.erase_cons_head, List.append_nil]

/-! ## Contexts of keys -/

/-- A live handle that is not tracked is used and deleted outside of the account. -/
theorem kept_takeBits {ledger : SealHandleLedger} {world : SealWorld} {prime : Handle}
    (sound : Sound (outer ++ handles) ledger world) (live : Live world.log prime)
    (untracked : .tracked prime ∉ world.log) :
    Kept outer (fun _ after => after = handles)
      (runIn runtime (takeBits prime) ⟨handles, ledger⟩ world) := by
  have uses : ∀ handle ∈ (SealCall.bitCount prime : SealCall ν Nat).handles,
      Live world.log handle := by
    simpa [SealCall.handles] using live
  have used := sound.used uses
  rcases @runIn_call ν runtime Nat (.bitCount prime) ⟨handles, ledger⟩ world with ⟨result, ran⟩
  rw [takeBits, runIn_bind, ran]
  cases result with
  | error error => exact ⟨used, fun value same => by cases same⟩
  | ok bits =>
      have stillLive : Live (world.after [.used prime]).log prime :=
        ⟨List.mem_cons_of_mem _ live.created, fun deleted => live.notDeleted
          ((List.mem_cons.mp deleted).resolve_left HandleEvent.noConfusion)⟩
      have stillUntracked : .tracked prime ∉ (world.after [.used prime]).log := fun tracked =>
        untracked ((List.mem_cons.mp tracked).resolve_left HandleEvent.noConfusion)
      exact ⟨used.deleted_untracked stillLive stillUntracked, fun _ _ => rfl⟩

theorem keeps_readPrime {modulus : Handle} (held : modulus ∈ outer ++ handles)
    {actualBitSizes : List Nat} {index : Nat} :
    Keeps runtime outer handles (readPrime modulus actualBitSizes index)
      fun _ after => after = handles := by
  intro ledger world sound
  have uses : ∀ handle ∈ [modulus], Live world.log handle := by
    simpa using sound.holds.live sound.proper held
  rw [readPrime, runIn_bind, runIn_perform]
  cases thrown : runtime.throws world.operations with
  | some error =>
      simp only [SealRuntime.handler, thrown, runIn_bind, Scoped.orThrow, runIn_throw]
      exact ⟨sound.used uses, fun value same => by cases same⟩
  | none =>
      cases present : runtime.present world.operations with
      | false =>
          simp only [SealRuntime.handler, thrown, present, runIn_bind, Scoped.orThrow, runIn_pure,
            Bool.false_eq_true, if_false]
          exact ⟨sound.used uses, fun _ _ => rfl⟩
      | true =>
          rcases sound.fresh uses with ⟨live, untracked⟩
          have kept : Kept outer (fun _ after => after = handles)
              (runIn runtime (takeBits world.operations) ⟨handles, ledger⟩
                (world.after [.created world.operations, .used modulus])) :=
            kept_takeBits (sound.created uses) live untracked
          simp only [SealRuntime.handler, thrown, present, runIn_bind, Scoped.orThrow, runIn_pure,
            if_true]
          generalize runIn runtime (takeBits world.operations) ⟨handles, ledger⟩
            (world.after [.created world.operations, .used modulus]) = out at kept ⊢
          rcases out with ⟨⟨result, scope⟩, after⟩
          cases result with
          | ok bits => exact ⟨kept.sound, fun _ _ => kept.ended bits rfl⟩
          | error error => exact ⟨kept.sound, fun value same => by cases same⟩

theorem keeps_readBitSizes {modulus : Handle} (held : modulus ∈ outer ++ handles) :
    Keeps runtime outer handles (readBitSizes modulus) fun _ after => after = handles := by
  have size : Keeps runtime outer handles (Scoped.call (.size modulus)) fun _ after =>
      after = handles := keeps_call (by simpa [SealCall.handles] using held)
  refine keeps_bind size ?_
  rintro count _ rfl
  refine keeps_foldlM (fun sizes index _ _ same => ?_) rfl
  subst same
  refine keeps_bind (keeps_readPrime held) ?_
  rintro sizes _ rfl
  refine keeps_bind size ?_
  rintro _ _ rfl
  exact keeps_pure rfl

theorem keeps_loadParameters {metadata : SealMetadata ν} :
    Keeps runtime outer [] (loadParameters metadata) fun parms after => after = [parms] := by
  rw [loadParameters]
  refine keeps_bind (keeps_trackNew (by simp [SealMaker.handles])) ?_
  rintro parms _ ⟨_, rfl⟩
  refine keeps_bind (keeps_orFail (keeps_call (by simp [SealCall.handles]))) ?_
  rintro _ _ rfl
  refine keeps_bind (keeps_call (by simp [SealCall.handles])) ?_
  rintro scheme _ rfl
  refine keeps_check keeps_throw fun _ => ?_
  refine keeps_bind (keeps_call (by simp [SealCall.handles])) ?_
  rintro degree _ rfl
  refine keeps_if (fun _ => ?_) fun _ => keeps_pure rfl
  refine keeps_bind (keeps_call (by simp [SealCall.handles])) ?_
  rintro actual _ rfl
  exact keeps_throw_bind

theorem keeps_checkModulus {metadata : SealMetadata ν} {parms : Handle} (held : parms ∈ handles) :
    Keeps runtime outer handles (checkModulus metadata parms) fun _ after => after = handles := by
  rw [checkModulus]
  refine keeps_bind (keeps_trackNew (by simp [SealMaker.handles, held])) ?_
  rintro modulus _ ⟨fresh, rfl⟩
  refine keeps_bind (keeps_readBitSizes (by simp)) ?_
  rintro sizes _ rfl
  refine keeps_bind (keeps_release_last runtime fresh) ?_
  rintro _ _ rfl
  exact keeps_if (fun _ => keeps_throw) fun _ => keeps_pure rfl

theorem keeps_buildContext {metadata : SealMetadata ν} {securityLevel : SecLevelType}
    {parms : Handle} (held : parms ∈ handles) :
    Keeps runtime outer handles (buildContext metadata securityLevel parms) fun built after =>
      after = handles ++ [built.1] := by
  have made : ∀ handle ∈ (SealMaker.SEALContext parms securityLevel).handles,
      handle ∈ outer ++ handles := by simp [SealMaker.handles, held]
  refine keeps_bind (keeps_track (creates_orFail (creates_create made))) ?_
  rintro context _ ⟨fresh, rfl⟩
  refine keeps_bind (keeps_call (by simp [SealCall.handles])) ?_
  rintro parametersSet _ rfl
  refine keeps_check keeps_throw fun _ => ?_
  refine keeps_bind (keeps_trackNew (by simp [SealMaker.handles])) ?_
  rintro contextData _ ⟨fresh, rfl⟩
  refine keeps_bind (keeps_call (by simp [SealCall.handles])) ?_
  rintro bits _ rfl
  refine keeps_bind (keeps_call (by simp [SealCall.handles])) ?_
  rintro levels _ rfl
  refine keeps_bind (keeps_release_last runtime fresh) ?_
  rintro _ _ rfl
  exact keeps_check keeps_throw fun _ => keeps_pure rfl

theorem keeps_resolveSecurityLevel {metadata : SealMetadata ν} :
    Keeps runtime outer handles (resolveSecurityLevel metadata) fun _ after => after = handles :=
  keeps_if (fun _ => keeps_pure rfl) fun _ => keeps_if (fun _ => keeps_pure rfl) fun _ =>
    keeps_if (fun _ => keeps_pure rfl) fun _ => keeps_throw

section Known

variable {key : SealKeyContext ν} (known : ∀ handle ∈ key.handles, handle ∈ outer)
include known

theorem context_mem : key.context ∈ outer := known _ List.mem_cons_self

theorem evaluator_mem : key.evaluator ∈ outer :=
  known _ (List.mem_cons_of_mem _ List.mem_cons_self)

theorem encoder_mem : key.encoder ∈ outer :=
  known _ (List.mem_cons_of_mem _ (List.mem_cons_of_mem _ List.mem_cons_self))

theorem keeps_encodeScalar {value scale : ν} :
    Keeps runtime outer handles (encodeScalar key value scale) fun plain after =>
      plain ∉ outer ++ handles ∧ after = handles ++ [plain] := by
  have encoder := encoder_mem known
  rw [encodeScalar]
  refine keeps_bind (keeps_trackNew (by simp [SealMaker.handles])) ?_
  rintro plain _ ⟨fresh, rfl⟩
  refine keeps_bind (keeps_call (by simp [SealCall.handles, encoder])) ?_
  rintro _ _ rfl
  exact keeps_pure ⟨fresh, rfl⟩

end Known

theorem keeps_checkCapacity [JsNumber ν] [Sub ν] {metadata : SealMetadata ν} {magnitudeLimit : ν}
    {children : List (PlannedChild ν)} :
    Keeps runtime outer handles (checkCapacity metadata magnitudeLimit children)
      fun _ after => after = handles := by
  induction children with
  | nil => exact keeps_pure rfl
  | cons child rest ih => exact keeps_if (fun _ => keeps_throw) fun _ => ih

/-- The scope of a key holds the handles of its context. -/
theorem keeps_buildSealKeyContext [JsNumber ν] [Sub ν] [NatCast ν] {log2 exp2 : ν → ν}
    {plan : EncryptedEvaluationPlan ν} {metadata : SealMetadata ν} :
    Keeps runtime outer [] (buildSealKeyContext log2 exp2 plan metadata) fun key after =>
      ∀ handle ∈ key.handles, handle ∈ after := by
  rw [buildSealKeyContext]
  refine keeps_check keeps_throw fun _ => ?_
  refine keeps_bind keeps_resolveSecurityLevel ?_
  rintro securityLevel _ rfl
  refine keeps_bind keeps_loadParameters ?_
  rintro parms _ rfl
  refine keeps_bind (keeps_checkModulus List.mem_cons_self) ?_
  rintro _ _ rfl
  refine keeps_bind (keeps_buildContext List.mem_cons_self) ?_
  rintro ⟨context, totalDataBits⟩ _ rfl
  refine keeps_check keeps_throw fun _ => ?_
  refine keeps_bind keeps_checkCapacity ?_
  rintro _ _ rfl
  refine keeps_bind (keeps_trackNew (by simp [SealMaker.handles])) ?_
  rintro evaluator _ ⟨_, rfl⟩
  refine keeps_bind (keeps_trackNew (by simp [SealMaker.handles])) ?_
  rintro encoder _ ⟨_, rfl⟩
  refine keeps_bind (keeps_call (by simp [SealCall.handles])) ?_
  rintro slotCount _ rfl
  exact keeps_pure (by simp [SealKeyContext.handles])

/-! ## Users -/

section Users

variable [JsNumber ν] [Sub ν] [Div ν] [NatCast ν] [DecidableEq ν]
variable {key : SealKeyContext ν} (known : ∀ handle ∈ key.handles, handle ∈ outer)
variable {user : EncryptedCustomScoreUser}
include known

/-- All ciphertexts that have been read are in the scope. -/
theorem keeps_deserializeCiphertext {ciphertexts : OrderedMap String Handle} {childKey : String}
    (read : ∀ child ciphertext, ciphertexts.get? child = some ciphertext → ciphertext ∈ handles) :
    Keeps runtime outer handles (deserializeCiphertext key user ciphertexts childKey)
      fun ciphertexts after => ∀ child ciphertext,
        ciphertexts.get? child = some ciphertext → ciphertext ∈ after := by
  have context := context_mem known
  rw [deserializeCiphertext]
  refine keeps_bind (keeps_trackNew (by simp [SealMaker.handles])) ?_
  rintro ciphertext _ ⟨_, rfl⟩
  refine keeps_bind (keeps_orFail (keeps_call (by simp [SealCall.handles, context]))) ?_
  rintro _ _ rfl
  refine keeps_bind (keeps_call (by simp [SealCall.handles])) ?_
  rintro scale _ rfl
  refine keeps_check keeps_throw fun _ => keeps_pure ?_
  intro child other found
  rw [OrderedMap.get?_set] at found
  by_cases same : child = childKey
  · rw [if_pos same] at found
    cases found
    exact List.mem_append_right _ (List.mem_singleton.mpr rfl)
  · rw [if_neg same] at found
    exact List.mem_append_left _ (read child other found)

theorem keeps_deserializeCiphertexts {plan : EncryptedEvaluationPlan ν} :
    Keeps runtime outer [] (deserializeCiphertexts plan key user) fun ciphertexts after =>
      ∀ child ciphertext, ciphertexts.get? child = some ciphertext → ciphertext ∈ after := by
  refine keeps_foldlM (fun ciphertexts childKey _ _ read =>
    keeps_deserializeCiphertext known read) ?_
  intro child ciphertext found
  cases found

end Users

/-! ## Alignment -/

/-- While levels are compared, the scope holds one more handle: the deepest parms id so far. -/
def Aligned (outer handles : List Handle) : Option (Nat × Handle) → List Handle → Prop
  | none, after => after = handles
  | some (_, target), after => target ∉ outer ++ handles ∧ after = handles ++ [target]

section Alignment

variable {key : SealKeyContext ν} (known : ∀ handle ∈ key.handles, handle ∈ outer)
variable {user : EncryptedCustomScoreUser} {ciphertext : Handle} (listed : ciphertext ∈ handles)
include known

theorem keeps_alignStep (listed : ciphertext ∈ handles) {deepest : Option (Nat × Handle)}
    {now : List Handle} (aligned : Aligned outer handles deepest now) :
    Keeps runtime outer now (alignStep key deepest ciphertext) (Aligned outer handles) := by
  have context := context_mem known
  have among : ciphertext ∈ now := by
    cases deepest with
    | none => exact aligned ▸ listed
    | some found => exact aligned.2 ▸ List.mem_append_left _ listed
  rw [alignStep]
  refine keeps_bind (keeps_trackNew (by simp [SealMaker.handles, among])) ?_
  rintro parmsId _ ⟨parmsFresh, rfl⟩
  refine keeps_bind (keeps_trackNew (by simp [SealMaker.handles, context])) ?_
  rintro contextData _ ⟨dataFresh, rfl⟩
  refine keeps_bind (keeps_call (by simp [SealCall.handles])) ?_
  rintro chainIndex _ rfl
  refine keeps_bind (keeps_release_last runtime dataFresh) ?_
  rintro _ _ rfl
  cases deepest with
  | none =>
      cases aligned
      exact keeps_pure ⟨parmsFresh, rfl⟩
  | some found =>
      rcases found with ⟨minChainIndex, target⟩
      rcases aligned with ⟨targetFresh, rfl⟩
      have parmsApart : parmsId ∉ outer ++ handles := fun member =>
        parmsFresh (by rw [← List.append_assoc]; exact List.mem_append_left _ member)
      refine keeps_if (fun _ => ?_) fun _ => ?_
      · refine keeps_bind keeps_release ?_
        rintro _ _ rfl
        refine keeps_pure ⟨parmsApart, ?_⟩
        rw [List.append_assoc, List.erase_append_right _ fun member =>
          targetFresh (List.mem_append_right _ member)]
        rw [List.singleton_append, List.erase_cons_head]
      · refine keeps_bind (keeps_release_last runtime parmsFresh) ?_
        rintro _ _ rfl
        exact keeps_pure ⟨targetFresh, rfl⟩

/-- The deepest parms id is left in the scope. -/
theorem keeps_alignToCommonLevel {ciphertexts : List Handle}
    (listed : ∀ ciphertext ∈ ciphertexts, ciphertext ∈ handles) :
    Keeps runtime outer handles (alignToCommonLevel key user ciphertexts) fun target after =>
      after = handles ++ [target] := by
  have evaluator := evaluator_mem known
  rw [alignToCommonLevel]
  refine keeps_bind (keeps_foldlM (fun deepest ciphertext now member aligned =>
    keeps_alignStep known (listed ciphertext member) aligned)
      (rfl : Aligned outer handles none handles)) ?_
  intro deepest now aligned
  cases deepest with
  | none => exact keeps_throw
  | some found =>
      rcases found with ⟨minChainIndex, target⟩
      rcases aligned with ⟨_, rfl⟩
      refine keeps_if (fun _ => keeps_throw) fun _ => ?_
      refine keeps_bind (keeps_forM fun ciphertext member =>
        keeps_call (by simp [SealCall.handles, evaluator, listed ciphertext member])) ?_
      rintro _ _ rfl
      exact keeps_pure rfl

/-! ## Contributions -/

theorem keeps_subtractShift [JsNumber ν] [DecidableEq ν] {workingParmsId : Handle} {shift : ν}
    (listed : ciphertext ∈ handles) (working : workingParmsId ∈ handles) :
    Keeps runtime outer handles (subtractShift key workingParmsId ciphertext shift)
      fun _ after => after = handles := by
  have evaluator := evaluator_mem known
  rw [subtractShift]
  refine keeps_if (fun _ => ?_) fun _ => keeps_pure rfl
  refine keeps_bind (keeps_call (by simp [SealCall.handles, listed])) ?_
  rintro scale _ rfl
  refine keeps_bind (keeps_encodeScalar known) ?_
  rintro shiftPlain _ ⟨fresh, rfl⟩
  refine keeps_bind (keeps_call (by simp [SealCall.handles])) ?_
  rintro isZero _ rfl
  have released := keeps_release_last runtime fresh
  refine keeps_if (fun _ => ?_) fun _ => released
  refine keeps_bind (keeps_call (by simp [SealCall.handles, evaluator, working])) ?_
  rintro _ _ rfl
  refine keeps_bind (keeps_call (by simp [SealCall.handles, evaluator, listed])) ?_
  rintro _ _ rfl
  exact released

theorem keeps_multiplyCoefficient {workingParmsId : Handle} {childKey : String} {coefficient : ν}
    (listed : ciphertext ∈ handles) (working : workingParmsId ∈ handles) :
    Keeps runtime outer handles
      (multiplyCoefficient key user workingParmsId ciphertext childKey coefficient)
      fun _ after => after = handles := by
  have evaluator := evaluator_mem known
  rw [multiplyCoefficient]
  refine keeps_bind (keeps_encodeScalar known) ?_
  rintro plain _ ⟨fresh, rfl⟩
  refine keeps_bind (keeps_call (by simp [SealCall.handles])) ?_
  rintro isZero _ rfl
  refine keeps_check keeps_throw fun _ => ?_
  refine keeps_bind (keeps_call (by simp [SealCall.handles, evaluator, working])) ?_
  rintro _ _ rfl
  refine keeps_bind (keeps_call (by simp [SealCall.handles, evaluator, listed])) ?_
  rintro _ _ rfl
  refine keeps_bind (keeps_release_last runtime fresh) ?_
  rintro _ _ rfl
  exact keeps_call (by simp [SealCall.handles, evaluator, listed])

end Alignment

section Contributions

variable [JsNumber ν] [Sub ν] [Div ν] [NatCast ν] [DecidableEq ν]
variable {key : SealKeyContext ν} (known : ∀ handle ∈ key.handles, handle ∈ outer)
variable {user : EncryptedCustomScoreUser} {ciphertext : Handle}
include known

/-- The accumulator is a ciphertext of the scope. -/
theorem keeps_accumulate {accumulated : Option (Handle × ν)} (listed : ciphertext ∈ handles)
    (accumulators : ∀ accumulator ∈ accumulated, accumulator.1 ∈ handles) :
    Keeps runtime outer handles (accumulate key user ciphertext accumulated)
      fun accumulator after => after = handles ∧ accumulator.1 ∈ handles := by
  have evaluator := evaluator_mem known
  cases accumulated with
  | none =>
      refine keeps_bind (keeps_call (by simp [SealCall.handles, listed])) ?_
      rintro scale _ rfl
      exact keeps_pure ⟨rfl, listed⟩
  | some accumulator =>
      rcases accumulator with ⟨accumulator, canonicalScale⟩
      have accumulatorListed : accumulator ∈ handles := accumulators _ rfl
      refine keeps_bind (keeps_call (by simp [SealCall.handles, listed])) ?_
      rintro scale _ rfl
      refine keeps_check keeps_throw fun _ => ?_
      refine keeps_bind (keeps_call (by simp [SealCall.handles, listed])) ?_
      rintro _ _ rfl
      refine keeps_bind (keeps_call
        (by simp [SealCall.handles, evaluator, listed, accumulatorListed])) ?_
      rintro _ _ rfl
      exact keeps_pure ⟨rfl, accumulatorListed⟩

variable {ciphertexts : OrderedMap String Handle}
  (read : ∀ child ciphertext, ciphertexts.get? child = some ciphertext → ciphertext ∈ handles)
include read

omit [JsNumber ν] [Sub ν] [Div ν] [NatCast ν] [DecidableEq ν] known in
theorem keeps_ciphertextOf {childKey : String} :
    Keeps runtime outer handles (ciphertextOf ciphertexts childKey) fun ciphertext after =>
      after = handles ∧ ciphertext ∈ handles := by
  rw [ciphertextOf]
  cases found : ciphertexts.get? childKey with
  | none => exact keeps_throw
  | some ciphertext => exact keeps_pure ⟨rfl, read childKey ciphertext found⟩

/-- A contribution leaves the scope as it was. -/
theorem keeps_contribute {workingParmsId : Handle} (working : workingParmsId ∈ handles)
    {accumulated : Option (Handle × ν)} {child : String × ν × ν}
    (accumulators : ∀ accumulator ∈ accumulated, accumulator.1 ∈ handles) :
    Keeps runtime outer handles (contribute key user ciphertexts workingParmsId accumulated child)
      fun accumulated after => after = handles ∧
        ∀ accumulator ∈ accumulated, accumulator.1 ∈ handles := by
  rcases child with ⟨childKey, coefficient, shift⟩
  refine keeps_bind (keeps_ciphertextOf read) ?_
  rintro ciphertext _ ⟨rfl, listed⟩
  refine keeps_bind (keeps_subtractShift known listed working) ?_
  rintro _ _ rfl
  refine keeps_bind (keeps_multiplyCoefficient known listed working) ?_
  rintro _ _ rfl
  refine keeps_bind (keeps_accumulate known listed accumulators) ?_
  rintro accumulator _ ⟨rfl, among⟩
  refine keeps_pure ⟨rfl, ?_⟩
  intro other same
  cases same
  exact among

theorem keeps_evaluateAffineChildren {activeChildren : List (String × ν × ν)} :
    Keeps runtime outer handles (evaluateAffineChildren key user activeChildren ciphertexts)
      fun result after => result ∈ after := by
  rw [evaluateAffineChildren]
  have active : Keeps runtime outer handles (activeChildren.foldlM (fun active child => do
      return active ++ [← ciphertextOf ciphertexts child.1]) []) fun active after =>
        after = handles ∧ ∀ ciphertext ∈ active, ciphertext ∈ handles := by
    refine keeps_foldlM (fun active child now _ kept => ?_) ⟨rfl, by simp⟩
    rcases kept with ⟨rfl, listed⟩
    refine keeps_bind (keeps_ciphertextOf read) ?_
    rintro ciphertext _ ⟨rfl, among⟩
    refine keeps_pure ⟨rfl, List.forall_mem_append.mpr ⟨listed, ?_⟩⟩
    exact List.forall_mem_singleton.mpr among
  refine keeps_bind active ?_
  rintro activeCiphertexts now ⟨rfl, listed⟩
  refine keeps_bind (keeps_alignToCommonLevel known listed) ?_
  rintro workingParmsId _ rfl
  have later : ∀ child ciphertext, ciphertexts.get? child = some ciphertext →
      ciphertext ∈ now ++ [workingParmsId] :=
    fun child ciphertext found => List.mem_append_left _ (read child ciphertext found)
  have contributed : Keeps runtime outer (now ++ [workingParmsId])
      (activeChildren.foldlM (contribute key user ciphertexts workingParmsId) none)
      fun accumulated after => after = now ++ [workingParmsId] ∧
        ∀ accumulator ∈ accumulated, accumulator.1 ∈ now ++ [workingParmsId] := by
    refine keeps_foldlM (fun accumulated child after _ kept => ?_)
      ⟨rfl, fun _ absent => absurd absent (Option.not_mem_none _)⟩
    rcases kept with ⟨rfl, accumulators⟩
    exact keeps_contribute known later (by simp) accumulators
  refine keeps_bind contributed ?_
  rintro accumulated _ ⟨rfl, accumulators⟩
  cases accumulated with
  | none => exact keeps_throw
  | some accumulator => exact keeps_pure (accumulators accumulator rfl)

omit [JsNumber ν] [Sub ν] [Div ν] [NatCast ν] [DecidableEq ν] in
theorem keeps_deriveEncryptedZero {fallback : Option (ZeroFallback ν)} :
    Keeps runtime outer handles (deriveEncryptedZero key user fallback ciphertexts)
      fun result after => result ∈ after := by
  have evaluator := evaluator_mem known
  rw [deriveEncryptedZero]
  cases found : fallback.bind fun fallback =>
    (ciphertexts.get? fallback.childKey).map (fallback.knownValue, ·) with
  | none => exact keeps_throw
  | some pair =>
      rcases pair with ⟨knownValue, ciphertext⟩
      have listed : ciphertext ∈ handles := by
        rcases Option.bind_eq_some_iff.mp found with ⟨chosen, _, taken⟩
        rcases Option.map_eq_some_iff.mp taken with ⟨other, stored, same⟩
        cases same
        exact read chosen.childKey _ stored
      refine keeps_bind (keeps_call (by simp [SealCall.handles, listed])) ?_
      rintro scale now rfl
      refine keeps_bind (keeps_encodeScalar known) ?_
      rintro knownPlain _ ⟨fresh, rfl⟩
      refine keeps_bind (keeps_call (by simp [SealCall.handles])) ?_
      rintro isZero _ rfl
      have released : Keeps runtime outer (now ++ [knownPlain])
          (do release knownPlain; return ciphertext) fun result after => result ∈ after := by
        refine keeps_bind (keeps_release_last runtime fresh) ?_
        rintro _ _ rfl
        exact keeps_pure listed
      refine keeps_if (fun _ => ?_) fun _ => released
      refine keeps_bind (keeps_trackNew (by simp [SealMaker.handles, listed])) ?_
      rintro parmsId _ ⟨parmsFresh, rfl⟩
      refine keeps_bind (keeps_call (by simp [SealCall.handles, evaluator])) ?_
      rintro _ _ rfl
      refine keeps_bind (keeps_release_last runtime parmsFresh) ?_
      rintro _ _ rfl
      refine keeps_bind (keeps_call (by simp [SealCall.handles, evaluator, listed])) ?_
      rintro _ _ rfl
      exact released

omit read in
/-- Whatever is thrown, the evaluation of a user keeps account of its scope. -/
theorem keeps_evaluateInScope {plan : EncryptedEvaluationPlan ν} :
    Keeps runtime outer [] (evaluateInScope plan key user) fun _ _ => True := by
  rw [evaluateInScope]
  refine keeps_bind (keeps_deserializeCiphertexts known) ?_
  intro ciphertexts now read
  have evaluated : Keeps runtime outer now (evaluateCiphertexts plan key user ciphertexts)
      fun result after => result ∈ after :=
    keeps_if (fun _ => keeps_evaluateAffineChildren known read)
      fun _ => keeps_deriveEncryptedZero known read
  refine keeps_bind evaluated ?_
  intro result after listed
  refine keeps_bind (keeps_call (by simp [SealCall.handles, listed])) ?_
  rintro isTransparent _ rfl
  refine keeps_check keeps_throw fun _ => ?_
  refine keeps_bind (keeps_call (by simp [SealCall.handles, listed])) ?_
  rintro text _ rfl
  exact keeps_pure trivial

end Contributions

/-! ## Calls on an evaluator -/

/-- The registered keys hold what is live, each at least the handles of its context; a disposed
evaluator has none. -/
structure Consistent (state : EvaluatorState ν) (world : SealWorld) : Prop where
  sound : Sound state.handles state.ledger world
  known : ∀ entry ∈ state.registeredKeys.entries, ∀ handle ∈ entry.2.key.handles,
    handle ∈ entry.2.scope
  emptied : state.disposed = true → state.registeredKeys = .empty

variable {state : EvaluatorState ν} {world : SealWorld}

theorem consistent_initial : Consistent ({} : EvaluatorState ν) {} where
  sound := ⟨trivial, fun _ absent => absurd absent List.not_mem_nil, holds_nil, rfl⟩
  known _ absent := absurd absent List.not_mem_nil
  emptied _ := rfl

theorem runIn_inScope {α : Type} {kept : List Handle} {program : Scoped ν α} :
    runIn runtime (inScope kept program) state world =
      match runIn runtime program ⟨kept, state.ledger⟩ world with
      | ((result, scope), world) =>
          ((.ok (result, scope.handles), { state with ledger := scope.ledger }), world) := by
  rw [inScope, runIn_bind, runIn_get]
  simp only [runIn_bind, runIn_lift, runIn_set, runIn_pure]
  rfl

theorem runIn_ensureUsable : runIn runtime ensureUsable state world =
    if state.disposed then ((.error (.evaluation ⟨"The encrypted evaluator was already disposed",
      .EVALUATOR_DISPOSED, []⟩), state), world)
    else ((.ok (), state), world) := by
  rw [ensureUsable, runIn_bind, runIn_get]
  dsimp only
  split
  · rfl
  · rfl

/-- A scope is disposed, and all else stays. -/
theorem runIn_disposeScope {kept : List Handle} (sound : Sound (outer ++ kept) state.ledger world) :
    ∃ ledger world', runIn runtime (disposeScope kept) state world =
      ((.ok (), { state with ledger }), world') ∧ Sound outer ledger world' := by
  rcases @runIn_dispose ν runtime outer kept _ _ sound with ⟨ledger, world', ran, after⟩
  refine ⟨ledger, world', ?_, after⟩
  rw [disposeScope, runIn_bind, runIn_inScope, ran]
  rfl

/-- A call leaves an evaluator consistent, and does not dispose it. -/
def Stays {α : Type} (runtime : SealRuntime ν) (program : Evaluator ν α) : Prop :=
  ∀ state world, Consistent state world →
    Consistent (runIn runtime program state world).1.2 (runIn runtime program state world).2 ∧
      (runIn runtime program state world).1.2.disposed = state.disposed

theorem stays_pure {α : Type} {value : α} : Stays runtime (pure value) :=
  fun _ _ consistent => ⟨consistent, rfl⟩

theorem stays_throw {α : Type} {error : Thrown ν} :
    Stays runtime (throw error : Evaluator ν α) :=
  fun _ _ consistent => ⟨consistent, rfl⟩

theorem stays_bind {α β : Type} {first : Evaluator ν β} {next : β → Evaluator ν α}
    (stays : Stays runtime first) (after : ∀ value, Stays runtime (next value)) :
    Stays runtime (first >>= next) := by
  intro state world consistent
  have stayed := stays state world consistent
  rw [runIn_bind]
  generalize runIn runtime first state world = out at stayed ⊢
  rcases out with ⟨⟨result, state'⟩, world'⟩
  rcases stayed with ⟨consistent', same⟩
  cases result with
  | error error => exact ⟨consistent', same⟩
  | ok value =>
      rcases after value state' world' consistent' with ⟨later, disposed⟩
      exact ⟨later, disposed.trans same⟩

theorem stays_foldlM {α β : Type} {items : List β} {step : α → β → Evaluator ν α}
    (stays : ∀ value item, Stays runtime (step value item)) {value : α} :
    Stays runtime (items.foldlM step value) := by
  induction items generalizing value with
  | nil => exact stays_pure
  | cons item rest ih => exact stays_bind (stays value item) fun _ => ih

theorem stays_ensureUsable : Stays runtime ensureUsable := by
  intro state world consistent
  rw [runIn_ensureUsable]
  split
  · exact ⟨consistent, rfl⟩
  · exact ⟨consistent, rfl⟩

/-- What follows the check of use, and the state that is read there. -/
theorem stays_of_usable {α : Type} {next : EvaluatorState ν → Evaluator ν α}
    (after : ∀ state world, Consistent state world → state.disposed = false →
      Consistent (runIn runtime (next state) state world).1.2
          (runIn runtime (next state) state world).2 ∧
        (runIn runtime (next state) state world).1.2.disposed = state.disposed) :
    Stays runtime (do ensureUsable; next (← get)) := by
  intro state world consistent
  rw [runIn_bind, runIn_ensureUsable]
  by_cases disposed : state.disposed = true
  · rw [if_pos disposed]
    exact ⟨consistent, rfl⟩
  · rw [if_neg disposed]
    dsimp only
    rw [runIn_bind, runIn_get]
    exact after state world consistent (Bool.eq_false_of_not_eq_true disposed)

/-- Only the ledger and the world have changed. -/
theorem Consistent.withLedger {ledger : SealHandleLedger} {world' : SealWorld}
    (consistent : Consistent state world) (sound : Sound state.handles ledger world') :
    Consistent { state with ledger } world' where
  sound := sound
  known := consistent.known
  emptied := consistent.emptied

theorem Consistent.known_mem (consistent : Consistent state world) {id : String}
    {registered : RegisteredKey ν} (found : state.registeredKeys.get? id = some registered) :
    ∀ handle ∈ registered.key.handles, handle ∈ state.handles := by
  have entry := (OrderedMap.get?_eq_some_iff_mem _).mp found
  intro handle member
  exact List.mem_flatMap.mpr ⟨_, entry, consistent.known _ entry handle member⟩

/-- A key is registered with the handles of its scope. -/
theorem Consistent.register (consistent : Consistent state world) {id : String}
    (absent : (state.registeredKeys.get? id).isNone = true) {key : SealKeyContext ν}
    {scope : SealHandleScope} {world' : SealWorld}
    (known : ∀ handle ∈ key.handles, handle ∈ scope.handles) (usable : state.disposed = false)
    (sound : Sound (state.handles ++ scope.handles) scope.ledger world') :
    Consistent { state with
      ledger := scope.ledger
      registeredKeys := state.registeredKeys.set id ⟨key, scope.handles⟩ } world' := by
  have fresh : id ∉ state.registeredKeys.entries.map Prod.fst := by
    intro member
    rcases (OrderedMap.mem_keys_iff_get? _ _).mp member with ⟨value, found⟩
    rw [found] at absent
    cases absent
  have entries : (state.registeredKeys.set id ⟨key, scope.handles⟩).entries =
      state.registeredKeys.entries ++ [(id, ⟨key, scope.handles⟩)] :=
    OrderedMap.setEntries_of_not_mem fresh
  refine ⟨?_, ?_, ?_⟩
  · simpa only [EvaluatorState.handles, entries, List.flatMap_append, List.flatMap_cons,
      List.flatMap_nil, List.append_nil] using sound
  · rw [entries]
    exact List.forall_mem_append.mpr ⟨consistent.known, List.forall_mem_singleton.mpr known⟩
  · intro disposed
    exact absurd (usable.symm.trans disposed) Bool.false_ne_true

section Calls

variable [JsNumber ν] [Sub ν] [Div ν] [NatCast ν] [DecidableEq ν]
variable {log2 exp2 : ν → ν} {plan : EncryptedEvaluationPlan ν}

omit [Div ν] [DecidableEq ν] in
/-- A registration adds the scope of the key, or leaves nothing. -/
theorem stays_registerSealMetadata {metadata : SealMetadata ν} :
    Stays runtime (registerSealMetadata log2 exp2 plan metadata) := by
  refine stays_of_usable fun state world consistent usable => ?_
  by_cases absent : (state.registeredKeys.get? metadata.id).isNone = true
  · rw [if_pos absent, runIn_bind, runIn_inScope]
    have kept := @keeps_buildSealKeyContext ν runtime state.handles _ _ _ log2 exp2 plan metadata
      state.ledger world (by simpa using consistent.sound)
    generalize runIn runtime (buildSealKeyContext log2 exp2 plan metadata) ⟨[], state.ledger⟩ world
      = out at kept ⊢
    rcases out with ⟨⟨result, scope⟩, world'⟩
    cases result with
    | ok key => exact ⟨consistent.register absent (kept.ended key rfl) usable kept.sound, rfl⟩
    | error error =>
        rcases @runIn_disposeScope ν runtime state.handles { state with ledger := scope.ledger }
          world' scope.handles kept.sound with ⟨ledger, later, ran, sound⟩
        dsimp only
        rw [runIn_bind, ran]
        exact ⟨consistent.withLedger sound, rfl⟩
  · rw [if_neg absent]
    exact ⟨consistent, rfl⟩

theorem stays_evaluateUser {user : EncryptedCustomScoreUser} :
    Stays runtime (evaluateUser plan user) := by
  refine stays_of_usable fun state world consistent usable => ?_
  cases found : state.registeredKeys.get? user.keyId with
  | none => exact ⟨consistent, rfl⟩
  | some registered =>
      cases valid : validateCiphertextSet plan user with
      | error error => exact ⟨consistent, rfl⟩
      | ok _ =>
          have known : ∀ handle ∈ registered.key.handles, handle ∈ state.handles :=
            consistent.known_mem found
          have kept := @keeps_evaluateInScope ν runtime state.handles _ _ _ _ _ registered.key known
            user plan state.ledger world (by simpa using consistent.sound)
          dsimp only
          rw [runIn_bind, runIn_inScope]
          generalize runIn runtime (evaluateInScope plan registered.key user) ⟨[], state.ledger⟩
            world = out at kept ⊢
          rcases out with ⟨⟨result, scope⟩, world'⟩
          rcases @runIn_disposeScope ν runtime state.handles { state with ledger := scope.ledger }
            world' scope.handles kept.sound with ⟨ledger, later, ran, sound⟩
          have after := consistent.withLedger sound
          dsimp only
          rw [runIn_bind, ran]
          cases result with
          | ok result => exact ⟨after, rfl⟩
          | error thrown =>
              cases thrown with
              | evaluation error => exact ⟨after, rfl⟩
              | runtime description => exact ⟨after, rfl⟩

/-- The users of a batch are evaluated one after another, until one fails. -/
theorem stays_evaluateBatch {users : List EncryptedCustomScoreUser} :
    Stays runtime (evaluateBatch plan users) := by
  refine stays_bind stays_ensureUsable fun _ => ?_
  have evaluated : Stays runtime (users.foldlM (fun results user => do
      return results ++ [← evaluateUser plan user]) []) :=
    stays_foldlM fun results user => stays_bind stays_evaluateUser fun _ => stays_pure
  intro state world consistent
  by_cases long : users.length > CUSTOM_SCORE_EVALUATION_BATCH_LIMIT
  · rw [if_pos long]
    exact ⟨consistent, rfl⟩
  · rw [if_neg long]
    exact evaluated state world consistent

end Calls

/-! ## Disposal -/

theorem runIn_disposeScopes {entries : List (String × RegisteredKey ν)}
    (sound : Sound (entries.flatMap fun entry => entry.2.scope) state.ledger world) :
    ∃ ledger world', runIn runtime (entries.forM fun entry => disposeScope entry.2.scope) state
        world = ((.ok (), { state with ledger }), world') ∧ Sound [] ledger world' := by
  induction entries generalizing state world with
  | nil => exact ⟨_, _, rfl, sound⟩
  | cons entry rest ih =>
      have first : Sound ((rest.flatMap fun entry => entry.2.scope) ++ entry.2.scope) state.ledger
          world := sound.perm List.perm_append_comm
      rcases @runIn_disposeScope ν runtime _ state world _ first with ⟨ledger, world', ran, left⟩
      rcases @ih { state with ledger } world' left with ⟨ledger', world'', others, after⟩
      refine ⟨ledger', world'', ?_, after⟩
      refine (runIn_bind runtime (disposeScope entry.2.scope) fun _ =>
        rest.forM fun entry => disposeScope entry.2.scope).trans ?_
      rw [ran]
      exact others

/-- A disposed evaluator holds nothing, and is not disposed twice. -/
theorem runIn_disposeEvaluator (consistent : Consistent state world) :
    ∃ state' world', runIn runtime disposeEvaluator state world = ((.ok (), state'), world') ∧
      Consistent state' world' ∧ state'.disposed = true ∧
        (state.disposed = true → state' = state ∧ world' = world) := by
  rw [disposeEvaluator, runIn_bind, runIn_get]
  by_cases disposed : state.disposed = true
  · refine ⟨state, world, ?_, consistent, disposed, fun _ => ⟨rfl, rfl⟩⟩
    dsimp only
    rw [if_neg (by simp [disposed])]
    rfl
  · rcases @runIn_disposeScopes ν runtime { state with disposed := true } world _
      consistent.sound with ⟨ledger, world', ran, after⟩
    refine ⟨{ ledger, registeredKeys := .empty, disposed := true }, world', ?_, ?_, rfl,
      fun already => absurd already disposed⟩
    · dsimp only
      rw [if_pos (by simp [disposed]), runIn_bind, runIn_modify]
      dsimp only
      rw [runIn_bind, ran]
      rfl
    · exact ⟨after, fun _ absent => absurd absent List.not_mem_nil, fun _ => rfl⟩

/-! ## Sessions -/

/-- What comes of calls: no handle is deleted twice or used after its deletion, the ledger counts
exactly the handles that the scopes of registered keys hold, and once the evaluator was disposed,
all tracked handles are deleted and no call does anything: all but another disposal fail. -/
structure ReleasedOnce [JsNumber ν] [Sub ν] [Div ν] [NatCast ν] [DecidableEq ν]
    (log2 exp2 : ν → ν) (plan : EncryptedEvaluationPlan ν) (runtime : SealRuntime ν)
    (calls : List (EvaluatorCall ν)) (session : Session ν) : Prop where
  deletedOnce : ∀ handle, session.world.log.count (.deleted handle) ≤ 1
  notUsedAfter : ∀ later earlier handle,
    session.world.log = later ++ .deleted handle :: earlier → .used handle ∉ later
  counted : session.state.liveHandles = session.state.handles.length
  held : session.state.handles.Nodup ∧ ∀ handle, handle ∈ session.state.handles ↔
    .tracked handle ∈ session.world.log ∧ .deleted handle ∉ session.world.log
  disposed : .dispose ∈ calls → session.state.liveHandles = 0 ∧
    (∀ handle, .tracked handle ∈ session.world.log →
      session.world.log.count (.deleted handle) = 1) ∧
    ∀ call, session.call log2 exp2 plan runtime call = match call with
      | .dispose => (.ok [], session)
      | .registerSealMetadata _ | .evaluateUser _ | .evaluateBatch _ =>
          (.error (.evaluation ⟨"The encrypted evaluator was already disposed",
            .EVALUATOR_DISPOSED, []⟩), session)

section Sessions

variable [JsNumber ν] [Sub ν] [Div ν] [NatCast ν] [DecidableEq ν]
variable (log2 exp2 : ν → ν) (plan : EncryptedEvaluationPlan ν) (runtime)

theorem Session.call_eq (session : Session ν) (call : EvaluatorCall ν) :
    session.call log2 exp2 plan runtime call =
      ((runIn runtime (perform log2 exp2 plan call) session.state session.world).1.1,
        ⟨(runIn runtime (perform log2 exp2 plan call) session.state session.world).1.2,
          (runIn runtime (perform log2 exp2 plan call) session.state session.world).2⟩) :=
  rfl

theorem consistent_of_stays {session : Session ν}
    (consistent : Consistent session.state session.world) {call : EvaluatorCall ν}
    (other : call ≠ .dispose) (stays : Stays runtime (perform log2 exp2 plan call)) :
    Consistent (session.call log2 exp2 plan runtime call).2.state
        (session.call log2 exp2 plan runtime call).2.world ∧
      ((session.call log2 exp2 plan runtime call).2.state.disposed = true ↔
        session.state.disposed = true ∨ .dispose = call) := by
  rcases stays session.state session.world consistent with ⟨after, same⟩
  rw [Session.call_eq]
  exact ⟨after, by rw [same]; simp [other.symm]⟩

/-- A call leaves a session consistent, and disposes the evaluator if it says so. -/
theorem consistent_call {session : Session ν} (consistent : Consistent session.state session.world)
    (call : EvaluatorCall ν) :
    Consistent (session.call log2 exp2 plan runtime call).2.state
        (session.call log2 exp2 plan runtime call).2.world ∧
      ((session.call log2 exp2 plan runtime call).2.state.disposed = true ↔
        session.state.disposed = true ∨ .dispose = call) := by
  cases call with
  | registerSealMetadata metadata =>
      exact consistent_of_stays runtime log2 exp2 plan consistent (fun same => by cases same)
        (stays_bind stays_registerSealMetadata fun _ => stays_pure)
  | evaluateUser user =>
      exact consistent_of_stays runtime log2 exp2 plan consistent (fun same => by cases same)
        (stays_bind stays_evaluateUser fun _ => stays_pure)
  | evaluateBatch users =>
      exact consistent_of_stays runtime log2 exp2 plan consistent (fun same => by cases same)
        stays_evaluateBatch
  | dispose =>
      rcases @runIn_disposeEvaluator ν runtime _ _ consistent with
        ⟨state', world', ran, after, disposed, _⟩
      rw [Session.call_eq, perform, runIn_bind, ran]
      exact ⟨after, by simp [disposed]⟩

/-- Every session is consistent, and disposed exactly after a disposal. -/
theorem consistent_after (calls : List (EvaluatorCall ν)) :
    Consistent (Session.after log2 exp2 plan runtime calls).state
        (Session.after log2 exp2 plan runtime calls).world ∧
      ((Session.after log2 exp2 plan runtime calls).state.disposed = true ↔ .dispose ∈ calls) := by
  have run : ∀ (calls : List (EvaluatorCall ν)) (session : Session ν),
      Consistent session.state session.world →
      let later := calls.foldl (fun session call =>
        (session.call log2 exp2 plan runtime call).2) session
      Consistent later.state later.world ∧
        (later.state.disposed = true ↔ session.state.disposed = true ∨ .dispose ∈ calls) := by
    intro calls
    induction calls with
    | nil => exact fun session consistent => ⟨consistent, by simp⟩
    | cons call rest ih =>
        intro session consistent
        rcases consistent_call runtime log2 exp2 plan consistent call with ⟨next, disposed⟩
        rcases ih _ next with ⟨after, iff⟩
        refine ⟨after, iff.trans ?_⟩
        rw [disposed, List.mem_cons, or_assoc]
  have whole := run calls {} consistent_initial
  refine ⟨whole.1, whole.2.trans ?_⟩
  simp

/-- A disposed evaluator does nothing any more. -/
theorem call_of_disposed {session : Session ν}
    (consistent : Consistent session.state session.world)
    (disposed : session.state.disposed = true) (call : EvaluatorCall ν) :
    session.call log2 exp2 plan runtime call = match call with
      | .dispose => (.ok [], session)
      | .registerSealMetadata _ | .evaluateUser _ | .evaluateBatch _ =>
          (.error (.evaluation ⟨"The encrypted evaluator was already disposed",
            .EVALUATOR_DISPOSED, []⟩), session) := by
  rw [Session.call_eq]
  cases call with
  | registerSealMetadata metadata =>
      simp only [perform, registerSealMetadata, runIn_bind, runIn_ensureUsable, disposed, if_true]
  | evaluateUser user =>
      simp only [perform, evaluateUser, runIn_bind, runIn_ensureUsable, disposed, if_true]
  | evaluateBatch users =>
      simp only [perform, evaluateBatch, runIn_bind, runIn_ensureUsable, disposed, if_true]
  | dispose =>
      rcases @runIn_disposeEvaluator ν runtime _ _ consistent with
        ⟨state', world', ran, _, _, unchanged⟩
      rcases unchanged disposed with ⟨rfl, rfl⟩
      rw [perform, runIn_bind, ran]
      rfl

/-- Whatever throws, every handle is released once. -/
theorem handles_releasedOnce (calls : List (EvaluatorCall ν)) :
    ReleasedOnce log2 exp2 plan runtime calls (Session.after log2 exp2 plan runtime calls) := by
  rcases consistent_after runtime log2 exp2 plan calls with ⟨consistent, disposal⟩
  have sound := consistent.sound
  generalize Session.after log2 exp2 plan runtime calls = session at *
  have counted : session.state.liveHandles = session.state.handles.length := by
    rw [EvaluatorState.liveHandles, sound.balanced]
    simp
  refine ⟨sound.proper.deleted_once, ?_, counted, ⟨sound.holds.nodup, sound.holds.exactly⟩, ?_⟩
  · intro later earlier handle parts
    exact (parts ▸ sound.proper : Proper (later ++ .deleted handle :: earlier)).not_used_after
  · intro called
    have disposed := disposal.mpr called
    have nothing : session.state.handles = [] := by
      rw [EvaluatorState.handles, consistent.emptied disposed]
      rfl
    refine ⟨by rw [counted, nothing]; rfl, ?_,
      call_of_disposed runtime log2 exp2 plan consistent disposed⟩
    intro handle tracked
    have deleted : .deleted handle ∈ session.world.log := by
      by_contra notDeleted
      have listed := (sound.holds.exactly handle).mpr ⟨tracked, notDeleted⟩
      rw [nothing] at listed
      cases listed
    exact le_antisymm (sound.proper.deleted_once handle) (List.count_pos_iff.mpr deleted)

end Sessions

/-- A runtime in which nothing throws. -/
def quietRuntime : SealRuntime ℚ where
  throws _ := none
  present _ := true
  returns _ _ method := match method with
    | .loadParms .. | .loadCiphertext .. | .setScale .. | .encode .. => ()
    | .cipherModSwitchToInplace .. | .plainModSwitchToInplace .. | .subPlainInplace .. => ()
    | .multiplyPlainInplace .. | .rescaleToNextInplace .. | .addInplace .. => ()
    | .scheme _ => .ckks
    | .polyModulusDegree _ => 8192
    | .size _ => 2
    | .bitCount _ => 60
    | .totalCoeffModulusBitCount _ => 120
    | .chainIndex _ => 1
    | .slotCount _ => 2
    | .scale _ => 2
    | .parametersSet _ => true
    | .isZero _ | .isTransparent _ => false
    | .saveToBase64 _ => "score"

def votesPlan : EncryptedEvaluationPlan ℚ where
  method := "observed_min_max"
  totalWeight := 1
  children := [⟨"votes", 1, ⟨"observed_min_max", 0, 10⟩, .affine 10 1⟩]
  zeroFallback := none

def votesMetadata : SealMetadata ℚ := ⟨"key", 128, 8192, [60, 60], 2, "parms"⟩

def votesUser : EncryptedCustomScoreUser := ⟨"did:1", "key", [("votes", "ciphertext")]⟩

def votesSession (calls : List (EvaluatorCall ℚ)) : Session ℚ :=
  Session.after (fun _ => 1) (fun _ => 1024) votesPlan quietRuntime calls

/-- A registered key keeps four handles, and users keep none. -/
example : (votesSession [.registerSealMetadata votesMetadata,
    .evaluateUser votesUser]).state.liveHandles = 4 := by decide +kernel

/-- A later disposal does not fail. -/
theorem later_disposal_returns : ¬∀ call, ∃ error,
    ((votesSession [.dispose]).call (fun _ => 1) (fun _ => 1024) votesPlan quietRuntime call).1 =
      .error error := by
  intro fails
  rcases fails .dispose with ⟨error, same⟩
  have returned : ((votesSession [.dispose]).call (fun _ => 1) (fun _ => 1024) votesPlan
      quietRuntime .dispose).1 = .ok [] := rfl
  rw [returned] at same
  cases same

end Reputo.CustomScore.Seal
