import Reputo.Consent.ConsentStages

/-!
# Consent grants are consumed once

Where nobody else is about to use a grant when a callback finds it, nobody else ever finds
it, and nobody who comes later exchanges a code for it.
-/

namespace Reputo.Consent

open Reputo.Library Reputo.Access

/-! ## What holds of all requests -/

/-- The state and the verifier of a grant were drawn for one flow. -/
def DrawnFor (requests : List ConsentRequest) (state codeVerifier : String) : Prop :=
  ∃ provider source, ConsentRequest.initiate provider source state codeVerifier ∈ requests

/-- The requests are at stages, of which at most one is at a grant. -/
structure Orderly (config : ConsentConfig) (run : ConsentRun) (stages : List ConsentStage) :
    Prop where
  running : run.pool.running = stages.map (·.program config)
  requests : run.requests = stages.map ConsentStage.request
  sound : ∀ stage ∈ stages, stage.Sound config
  configured : ∀ grant ∈ run.pool.store.oauth_consent_grants,
    (config.providers grant.provider).isSome
  drawn : ∀ grant ∈ run.pool.store.oauth_consent_grants,
    DrawnFor run.requests grant.state grant.codeVerifier
  held : ∀ stage ∈ stages, ∀ grant ∈ stage.held,
    DrawnFor run.requests grant.state grant.codeVerifier
  sent : ∀ flow ∈ stages, ∀ callback ∈ stages, ∀ state, flow.request.drawn = some state →
    callback.request.carried = some state → (flow.program config).result?.isSome
  alone : ∀ first second state, labelAt ConsentStage.taken stages first = some state →
    labelAt ConsentStage.taken stages second = some state → first = second
  gone : ∀ stage ∈ stages, ∀ state ∈ stage.closed,
    run.pool.store.oauth_consent_grants.find? state = none
  exchanged : ∀ exchange ∈ run.exchanges, ∃ stage, stages[exchange.1]? = some stage ∧
    stage.spent ∧ ∃ state, stage.taken = some state ∧
      DrawnFor run.requests state exchange.2.codeVerifier
  once : (run.exchanges.map Prod.fst).Nodup

section Orderly

variable {config : ConsentConfig} {run after : ConsentRun} {stages : List ConsentStage}

theorem DrawnFor.mono {requests others : List ConsentRequest} {state codeVerifier : String}
    (drawn : DrawnFor requests state codeVerifier) (within : requests ⊆ others) :
    DrawnFor others state codeVerifier := by
  rcases drawn with ⟨provider, source, member⟩
  exact ⟨provider, source, within member⟩

theorem Orderly.begin (clock : Nat)
    (authorizationUrl : BuildOAuthAuthorizationUrlParams → Option String)
    (accepts : ExchangeOAuthCodeParams → Bool) :
    Orderly config (.begin clock authorizationUrl accepts) [] where
  running := rfl
  requests := rfl
  sound _ absent := absurd absent List.not_mem_nil
  configured _ absent := absurd absent List.not_mem_nil
  drawn _ absent := absurd absent List.not_mem_nil
  held _ absent := absurd absent List.not_mem_nil
  sent _ absent := absurd absent List.not_mem_nil
  alone first second state atFirst := by
    rw [labelAt_nil] at atFirst
    cases atFirst
  gone _ absent := absurd absent List.not_mem_nil
  exchanged _ absent := absurd absent List.not_mem_nil
  once := List.nodup_nil

/-- A request is taken up. -/
theorem Orderly.start (orderly : Orderly config run stages) (stage : ConsentStage)
    (sound : stage.Sound config) (untaken : stage.taken = none) (idle : stage.closed = none)
    (free : stage.held = none)
    (sentBefore : ∀ callback ∈ stages, ∀ state, stage.request.drawn = some state →
      callback.request.carried ≠ some state)
    (sentAfter : ∀ flow ∈ stages, ∀ state, flow.request.drawn = some state →
      stage.request.carried = some state → (flow.program config).result?.isSome)
    (apart : ∀ state, stage.request.drawn = some state → stage.request.carried ≠ some state) :
    Orderly config
      ⟨{ run.pool with running := run.pool.running ++ [stage.program config] },
        run.requests ++ [stage.request], run.exchanges ++ []⟩ (stages ++ [stage]) := by
  have cases_ : ∀ other ∈ stages ++ [stage], other ∈ stages ∨ other = stage := fun other member =>
    (List.mem_append.mp member).imp_right List.mem_singleton.mp
  have within : run.requests ⊆ run.requests ++ [stage.request] :=
    fun _ member => List.mem_append_left _ member
  constructor
  · simp only [orderly.running, List.map_append, List.map_singleton]
  · simp only [orderly.requests, List.map_append, List.map_singleton]
  · intro other member
    rcases cases_ other member with earlier | last
    · exact orderly.sound other earlier
    · rw [last]
      exact sound
  · exact orderly.configured
  · exact fun grant member => (orderly.drawn grant member).mono within
  · intro other member grant kept
    rcases cases_ other member with earlier | last
    · exact (orderly.held other earlier grant kept).mono within
    · rw [last, free] at kept
      cases kept
  · intro flow flowMember callback callbackMember state drawn carried
    rcases cases_ flow flowMember with earlier | last
    · rcases cases_ callback callbackMember with callbackEarlier | callbackLast
      · exact orderly.sent flow earlier callback callbackEarlier state drawn carried
      · rw [callbackLast] at carried
        exact sentAfter flow earlier state drawn carried
    · rw [last] at drawn
      rcases cases_ callback callbackMember with callbackEarlier | callbackLast
      · exact absurd carried (sentBefore callback callbackEarlier state drawn)
      · rw [callbackLast] at carried
        exact absurd carried (apart state drawn)
  · intro first second state atFirst atSecond
    rw [labelAt_append untaken] at atFirst atSecond
    exact orderly.alone first second state atFirst atSecond
  · intro other member state closed
    rcases cases_ other member with earlier | last
    · exact orderly.gone other earlier state closed
    · rw [last, idle] at closed
      cases closed
  · intro exchange member
    rw [List.append_nil] at member
    rcases orderly.exchanged exchange member with ⟨spent, located, done, state, taken, drawn⟩
    refine ⟨spent, ?_, done, state, taken, drawn.mono within⟩
    rw [List.getElem?_append_left (List.getElem?_eq_some_iff.mp located).1]
    exact located
  · rw [List.append_nil]
    exact orderly.once

/-- Fewer grants are there. -/
theorem Orderly.fewer (orderly : Orderly config run stages) {store : ConsentStore}
    (fewer : ∀ grant ∈ store.oauth_consent_grants,
      grant ∈ run.pool.store.oauth_consent_grants) :
    Orderly config ⟨{ run.pool with store }, run.requests, run.exchanges⟩ stages where
  running := orderly.running
  requests := orderly.requests
  sound := orderly.sound
  configured grant member := orderly.configured grant (fewer grant member)
  drawn grant member := orderly.drawn grant (fewer grant member)
  held := orderly.held
  sent := orderly.sent
  alone := orderly.alone
  gone stage member state closed :=
    Table.find?_eq_none_of_subset fewer (orderly.gone stage member state closed)
  exchanged := orderly.exchanged
  once := orderly.once

/-- Nobody carries the state of a flow that goes on. -/
theorem Orderly.not_carried (orderly : Orderly config run stages) {stage : ConsentStage}
    (here : stage ∈ stages) (going : (stage.program config).result? = none) {state : String}
    (drawn : stage.request.drawn = some state) {callback : ConsentStage}
    (member : callback ∈ stages) : callback.request.carried ≠ some state := by
  intro carried
  have finished := orderly.sent stage here callback member state drawn carried
  rw [going] at finished
  cases finished

/-- A request goes on. -/
theorem Orderly.proceed (orderly : Orderly config run stages) {position : Nat}
    {stage later : ConsentStage} {store : ConsentStore} {made : Option ExchangeOAuthCodeParams}
    (located : stages[position]? = some stage)
    (move : ConsentMove config run.pool.store stage later store.oauth_consent_grants made)
    (going : (stage.program config).result? = none) (sound : later.Sound config)
    (asked : later.request = stage.request)
    (alone : ∀ provider query grant, stage = .looking provider query →
      findActive run.pool.store provider grant.state = some grant →
      JsText.truthyText query.state = some grant.state →
      ∀ other ∈ stages, other.request.carried = some grant.state →
      isConsuming (other.program config) = false) :
    Orderly config
      ⟨⟨store, run.pool.running.set position (later.program config)⟩, run.requests,
        run.exchanges ++ (made.map fun params => (position, params)).toList⟩
      (stages.set position later) := by
  have here := List.mem_of_getElem? located
  have cases_ : ∀ other ∈ stages.set position later, other ∈ stages ∨ other = later :=
    fun other member => List.mem_or_eq_of_mem_set member
  have flowOf : ∀ state, stage.request.drawn = some state →
      ∀ callback ∈ stages, callback.request.carried ≠ some state :=
    fun _ drawn _ member => orderly.not_carried here going drawn member
  constructor
  · rw [List.map_set, ← orderly.running]
  · have same : (stages.map ConsentStage.request)[position]? = some stage.request := by
      rw [List.getElem?_map, located, Option.map_some]
    rcases List.getElem?_eq_some_iff.mp same with ⟨within, own⟩
    rw [List.map_set, asked, ← own, List.set_getElem_self]
    exact orderly.requests
  · intro other member
    rcases cases_ other member with earlier | last
    · exact orderly.sound other earlier
    · rw [last]
      exact sound
  · intro grant member
    rcases move.created_cases member with stored | ⟨configured, _⟩
    · exact orderly.configured grant stored
    · exact configured
  · intro grant member
    rcases move.created_cases member with stored | ⟨_, provider, source, flow⟩
    · exact orderly.drawn grant stored
    · refine ⟨provider, source, ?_⟩
      rw [orderly.requests, ← flow]
      exact List.mem_map_of_mem here
  · intro other member grant kept
    rcases cases_ other member with earlier | last
    · exact orderly.held other earlier grant kept
    · rw [last] at kept
      exact orderly.drawn grant (move.held_cases kept)
  · intro flow flowMember callback callbackMember state drawn carried
    have asking : ∃ own ∈ stages, own.request.carried = some state := by
      rcases cases_ callback callbackMember with earlier | last
      · exact ⟨callback, earlier, carried⟩
      · rw [last, asked] at carried
        exact ⟨stage, here, carried⟩
    rcases asking with ⟨own, ownMember, ownCarried⟩
    rcases cases_ flow flowMember with earlier | last
    · exact orderly.sent flow earlier own ownMember state drawn ownCarried
    · rw [last, asked] at drawn
      exact absurd ownCarried (flowOf state drawn own ownMember)
  · rcases move.taken_cases (orderly.sound stage here) with
      same | ⟨untaken, provider, query, grant, looking, active, carried, taken⟩
    · intro first second state atFirst atSecond
      rw [labelAt_set_same located same] at atFirst atSecond
      exact orderly.alone first second state atFirst atSecond
    · have free : ∀ other, labelAt ConsentStage.taken stages other ≠ some grant.state := by
        intro other held
        rcases Option.bind_eq_some_iff.mp held with ⟨holder, found, holds⟩
        have member := List.mem_of_getElem? found
        rcases holder.isConsuming_or_closed config holds with consuming | closed
        · rw [alone provider query grant looking active carried holder member
            (holder.carried_of_taken holds)] at consuming
          cases consuming
        · exact Table.key_ne_of_find?_eq_none (orderly.gone holder member grant.state closed)
            (findActive_eq_some active).1.1 rfl
      intro first second state atFirst atSecond
      rw [labelAt_set located, taken] at atFirst atSecond
      split at atFirst
      · rename_i firstHere
        cases atFirst
        split at atSecond
        · rename_i secondHere
          rw [firstHere, secondHere]
        · exact absurd atSecond (free second)
      · split at atSecond
        · cases atSecond
          exact absurd atFirst (free first)
        · exact orderly.alone first second state atFirst atSecond
  · intro other member state closed
    rcases cases_ other member with earlier | last
    · refine move.find?_eq_none (orderly.gone other earlier state closed) ?_
      intro drawn
      exact flowOf state drawn other earlier (other.carried_of_closed closed)
    · rw [last] at closed
      exact move.gone (orderly.sound stage here) closed
  · intro exchange member
    rcases List.mem_append.mp member with earlier | last
    · rcases orderly.exchanged exchange earlier with ⟨spent, found, done, state, taken, drawn⟩
      by_cases own : exchange.1 = position
      · rw [own, located] at found
        cases found
        refine ⟨later, ?_, move.spent done, state, ?_, drawn⟩
        · rw [own, List.getElem?_set_self (List.getElem?_eq_some_iff.mp located).1]
        · rcases move.taken_cases (orderly.sound stage here) with same | ⟨untaken, _⟩
          · rw [same, taken]
          · rw [untaken] at taken
            cases taken
      · refine ⟨spent, ?_, done, state, taken, drawn⟩
        rw [List.getElem?_set_ne (Ne.symm own)]
        exact found
    · cases made with
      | none => cases last
      | some params =>
          rw [List.mem_singleton.mp last]
          rcases move.exchanged_cases (orderly.sound stage here) with
            ⟨_, done, grant, held, taken, verifier⟩
          refine ⟨later, ?_, done, grant.state, taken, ?_⟩
          · rw [List.getElem?_set_self (List.getElem?_eq_some_iff.mp located).1]
          · rw [verifier]
            exact orderly.held stage here grant held
  · cases made with
    | none => simpa using orderly.once
    | some params =>
        rw [List.map_append, List.nodup_append]
        refine ⟨orderly.once, List.nodup_singleton _, ?_⟩
        intro earlier member last same together
        rcases List.mem_map.mp member with ⟨exchange, exchangeMember, own⟩
        rcases orderly.exchanged exchange exchangeMember with ⟨spent, found, done, _⟩
        rw [own, together, List.mem_singleton.mp same, located] at found
        cases found
        rw [(move.exchanged_cases (orderly.sound stage here)).1] at done
        cases done

/-- Nobody who comes after a number of requests gets the grant of a state. -/
structure Barred (state : String) (first : Nat) (run : ConsentRun)
    (stages : List ConsentStage) : Prop where
  absent : run.pool.store.oauth_consent_grants.find? state = none
  carried : ∃ callback ∈ stages, callback.request.carried = some state
  unfound : ∀ position, first ≤ position →
    labelAt ConsentStage.taken stages position ≠ some state

/-- A step leads from stages to stages, and leaves barred what is. -/
structure StepsTo (config : ConsentConfig) (run after : ConsentRun)
    (stages others : List ConsentStage) : Prop where
  orderly : Orderly config after others
  barred : ∀ state first, Barred state first run stages → Barred state first after others

theorem looking_program {provider : OAuthProvider} {query : ConsentCallbackQueryDto}
    (given : (JsText.truthyText query.state).isSome) :
    (handleCallback config provider query).result? = none := by
  rcases Option.isSome_iff_exists.mp given with ⟨state, carried⟩
  simp only [handleCallback, carried]
  rfl

/-- A lookup is the first step of a callback. -/
theorem nextLookup_of_looking {provider : OAuthProvider} {query : ConsentCallbackQueryDto}
    {state : String} (carried : JsText.truthyText query.state = some state) :
    nextLookup (handleCallback config provider query) = some (provider, state) := by
  simp only [handleCallback, carried]
  rfl

theorem Barred.taken_up {state : String} {first : Nat}
    (barred : Barred state first run stages) {stage : ConsentStage}
    (untaken : stage.taken = none) {later : ConsentRun}
    (same : later.pool.store = run.pool.store) :
    Barred state first later (stages ++ [stage]) := by
  rcases barred.carried with ⟨callback, member, carried⟩
  refine ⟨?_, ⟨callback, List.mem_append_left _ member, carried⟩, ?_⟩
  · rw [same]
    exact barred.absent
  · intro position beyond
    rw [labelAt_append untaken]
    exact barred.unfound position beyond

theorem Barred.proceed {state : String} {first position : Nat}
    (barred : Barred state first run stages) (orderly : Orderly config run stages)
    {stage later : ConsentStage} {made : Option ExchangeOAuthCodeParams}
    (located : stages[position]? = some stage)
    (move : ConsentMove config run.pool.store stage later
      after.pool.store.oauth_consent_grants made)
    (going : (stage.program config).result? = none) (sound : stage.Sound config)
    (asked : later.request = stage.request) :
    Barred state first after (stages.set position later) := by
  have here := List.mem_of_getElem? located
  rcases barred.carried with ⟨callback, member, carried⟩
  refine ⟨move.find?_eq_none barred.absent fun drawn =>
    orderly.not_carried here going drawn member carried, ?_, ?_⟩
  · rcases List.mem_iff_getElem?.mp member with ⟨place, found⟩
    by_cases own : place = position
    · rw [own, located] at found
      cases found
      refine ⟨later, List.mem_iff_getElem?.mpr ⟨position, ?_⟩, asked ▸ carried⟩
      rw [List.getElem?_set_self (List.getElem?_eq_some_iff.mp located).1]
    · refine ⟨callback, List.mem_iff_getElem?.mpr ⟨place, ?_⟩, carried⟩
      rw [List.getElem?_set_ne (Ne.symm own)]
      exact found
  · intro other beyond held
    rcases move.taken_cases sound with same | ⟨untaken, provider, query, grant, _, active, _, taken⟩
    · rw [labelAt_set_same located same] at held
      exact barred.unfound other beyond held
    · rw [labelAt_set located, taken] at held
      split at held
      · cases held
        exact Table.key_ne_of_find?_eq_none barred.absent (findActive_eq_some active).1.1 rfl
      · exact barred.unfound other beyond held

theorem mem_entries (orderly : Orderly config run stages) {stage : ConsentStage}
    (member : stage ∈ stages) : (stage.request, stage.program config) ∈ run.entries := by
  rw [ConsentRun.entries, orderly.requests, orderly.running, List.zip_map']
  exact List.mem_map_of_mem member

theorem Orderly.step (orderly : Orderly config run stages) {action : ConsentAction}
    (secret : run.KeepsSecrets action) (alone : run.LooksUpAlone action)
    (performed : run.perform config action = some after) :
    ∃ others, StepsTo config run after stages others := by
  rcases Option.map_eq_some_iff.mp performed with ⟨pool, stepped, same⟩
  cases same
  cases action with
  | start request =>
      cases stepped
      cases request with
      | initiate provider source state codeVerifier =>
          refine ⟨stages ++ [.initiating provider source state codeVerifier
            (initiate config provider source state codeVerifier)], ?_, ?_⟩
          · refine orderly.start (.initiating provider source state codeVerifier _)
              (initiate_uses provider source state codeVerifier) rfl rfl rfl ?_ ?_ ?_
            · intro callback member other drawn
              cases drawn
              refine secret callback.request ?_
              rw [orderly.requests]
              exact List.mem_map_of_mem member
            · intro flow member other drawn carried
              cases carried
            · intro other drawn carried
              cases carried
          · exact fun state first barred => barred.taken_up rfl rfl
      | callback provider query =>
          have finished : ∀ flow ∈ stages, ∀ state, flow.request.drawn = some state →
              JsText.truthyText query.state = some state →
              (flow.program config).result?.isSome := by
            intro flow member state drawn carried
            rcases secret _ (mem_entries orderly member) ⟨state, drawn, carried⟩ with
              ⟨result, known, _⟩
            exact Option.isSome_of_eq_some known
          cases given : JsText.truthyText query.state with
          | some state =>
              refine ⟨stages ++ [.looking provider query], ?_, ?_⟩
              · exact orderly.start (.looking provider query)
                  (Option.isSome_of_eq_some given) rfl rfl rfl
                  (fun _ _ _ drawn => (Option.some_ne_none _ drawn.symm).elim) finished
                  (fun _ drawn => (Option.some_ne_none _ drawn.symm).elim)
              · exact fun state first barred => barred.taken_up rfl rfl
          | none =>
              have rejected : handleCallback config provider query =
                  pure (.error .InvalidConsentStateException) := by
                simp only [handleCallback, given]
              refine ⟨stages ++
                [.ended provider query false (.error .InvalidConsentStateException)], ?_, ?_⟩
              · have started := orderly.start (.ended provider query false
                  (.error .InvalidConsentStateException)) (fun _ => rfl) rfl given rfl
                  (fun _ _ _ drawn => (Option.some_ne_none _ drawn.symm).elim) finished
                  (fun _ drawn => (Option.some_ne_none _ drawn.symm).elim)
                rw [ConsentRequest.program, rejected]
                exact started
              · exact fun state first barred => barred.taken_up rfl rfl
  | environment event =>
      cases stepped
      have fewer : ∀ grant ∈ (event.apply run.pool.store).oauth_consent_grants,
          grant ∈ run.pool.store.oauth_consent_grants := by
        intro grant member
        cases event with
        | deleteExpired => exact (Table.mem_filter.mp member).1
        | tick | provider => exact member
      refine ⟨stages, ?_, fun state first barred => ⟨?_, barred.carried, barred.unfound⟩⟩
      · rw [ConsentAction.requested, ConsentRun.exchanging, List.append_nil, List.append_nil]
        exact orderly.fewer fewer
      · exact Table.find?_eq_none_of_subset fewer barred.absent
  | proceed position =>
      rcases Pool.perform_proceed stepped with ⟨α, operation, next, found, stored, left⟩
      have asks := found
      rw [orderly.running, List.getElem?_map, Option.map_eq_some_iff] at found
      rcases found with ⟨stage, located, denoted⟩
      have here := List.mem_of_getElem? located
      rcases stage.move (orderly.sound stage here) orderly.configured denoted with
        ⟨later, reached, sound, asked, move⟩
      have going : (stage.program config).result? = none := by
        rw [denoted]
        rfl
      have onlyOne : ∀ provider query grant, stage = .looking provider query →
          findActive run.pool.store provider grant.state = some grant →
          JsText.truthyText query.state = some grant.state →
          ∀ other ∈ stages, other.request.carried = some grant.state →
          isConsuming (other.program config) = false := by
        intro provider query grant looking active carried other member otherCarried
        rw [looking] at denoted
        have looks : nextLookup ((ConsentStage.looking provider query).program config) =
            some (provider, grant.state) := nextLookup_of_looking carried
        rw [denoted] at looks
        exact alone _ asks _ looks (Option.isSome_of_eq_some active) _
          (mem_entries orderly member) otherCarried
      have making : run.exchanging (.proceed position) =
          ((nextExchange (.call operation next)).map fun params => (position, params)).toList := by
        rw [ConsentRun.exchanging, asks]
        rfl
      rw [← stored] at move
      have proceeded := orderly.proceed located move going sound asked onlyOne
      rw [reached, ← left, ← making] at proceeded
      refine ⟨stages.set position later, ?_, ?_⟩
      · rw [ConsentAction.requested, List.append_nil]
        exact proceeded
      · exact fun state first barred =>
          barred.proceed orderly located move going (orderly.sound stage here) asked

theorem Orderly.of_reachable (clock : Nat)
    (authorizationUrl : BuildOAuthAuthorizationUrlParams → Option String)
    (accepts : ExchangeOAuthCodeParams → Bool)
    (reachable : (consentSystem config (· = .begin clock authorizationUrl accepts)).Reachable
      ConsentRun.LooksUpAlone run) : ∃ stages, Orderly config run stages := by
  have initially : ∀ before, before = ConsentRun.begin clock authorizationUrl accepts →
      ∃ stages, Orderly config before stages := by
    intro before first
    cases first
    exact ⟨[], .begin clock authorizationUrl accepts⟩
  apply reachable.invariant initially
  intro before action later ⟨stages, orderly⟩ alone stepped
  rcases orderly.step stepped.1 alone stepped.2 with ⟨others, reached⟩
  exact ⟨others, reached.orderly⟩

theorem Orderly.located (orderly : Orderly config run stages) {position : Nat} {state : String}
    (carries : run.Carries position state) :
    ∃ stage, stages[position]? = some stage ∧ stage.request.carried = some state := by
  rcases carries with ⟨request, found, carried⟩
  rw [orderly.requests, List.getElem?_map, Option.mem_def, Option.map_eq_some_iff] at found
  rcases found with ⟨stage, located, same⟩
  exact ⟨stage, located, same ▸ carried⟩

/-- A callback that is over has had its grant deleted; if it had not found it, it was
rejected. -/
theorem ConsentStage.ended_cases {stage : ConsentStage} {state : String} {result : ConsentResult}
    (sound : stage.Sound config) (carried : stage.request.carried = some state)
    (ended : (stage.program config).result? = some result) :
    stage.closed = some state ∧
      (stage.taken = some state ∨ result = .error .InvalidConsentStateException) := by
  cases stage with
  | initiating => cases carried
  | looking =>
      rw [ConsentStage.program, looking_program sound] at ended
      cases ended
  | exchanging | deleting => cases ended
  | ended provider query found =>
      cases ended
      refine ⟨carried, ?_⟩
      cases found with
      | true => exact .inl carried
      | false => exact .inr (sound rfl)

/-- A callback that consumes its grant has found it. -/
theorem Orderly.taken_of_consumes (orderly : Orderly config run stages) {position : Nat}
    {state : String} (carries : run.Carries position state) (consumes : run.Consumes position) :
    labelAt ConsentStage.taken stages position = some state := by
  rcases orderly.located carries with ⟨stage, located, carried⟩
  rw [labelAt_self located]
  rcases consumes with exchanged | ⟨result, ⟨program, found, ended⟩, accepted⟩
  · rcases List.mem_map.mp exchanged with ⟨exchange, member, same⟩
    rcases orderly.exchanged exchange member with ⟨spent, found, _, other, taken, _⟩
    rw [same, located] at found
    cases found
    rw [taken, ← stage.carried_of_taken taken, carried]
  · rw [orderly.running, List.getElem?_map, located] at found
    cases found
    rcases ConsentStage.ended_cases (orderly.sound stage (List.mem_of_getElem? located)) carried
      ended with ⟨_, taken | rejected⟩
    · exact taken
    · exact absurd rejected accepted

theorem Orderly.singleUse (orderly : Orderly config run stages) : run.SingleUse := by
  refine ⟨orderly.once, ?_, ?_⟩
  · intro exchange member
    rcases orderly.exchanged exchange member with ⟨stage, located, _, state, taken, drawn⟩
    refine ⟨state, ⟨stage.request, ?_, stage.carried_of_taken taken⟩, ?_⟩
    · rw [orderly.requests, List.getElem?_map, located]
      rfl
    · exact drawn
  · intro first second state apart firstCarries secondCarries firstConsumes secondConsumes
    exact apart (orderly.alone first second state
      (orderly.taken_of_consumes firstCarries firstConsumes)
      (orderly.taken_of_consumes secondCarries secondConsumes))

/-- Once a callback is over, its state is barred. -/
theorem Orderly.barred (orderly : Orderly config run stages) {position : Nat} {state : String}
    {result : ConsentResult} (carries : run.Carries position state)
    (ended : run.EndsIn position result) : Barred state run.requests.length run stages := by
  rcases orderly.located carries with ⟨stage, located, carried⟩
  have here := List.mem_of_getElem? located
  rcases ended with ⟨program, found, closed⟩
  rw [orderly.running, List.getElem?_map, located] at found
  cases found
  refine ⟨?_, ⟨stage, here, carried⟩, ?_⟩
  · exact orderly.gone stage here state
      (ConsentStage.ended_cases (orderly.sound stage here) carried closed).1
  · intro other beyond held
    rw [orderly.requests, List.length_map] at beyond
    rw [labelAt, List.getElem?_eq_none beyond] at held
    cases held

theorem Orderly.later (orderly : Orderly config run stages) {state : String} {first : Nat}
    (barred : Barred state first run stages) {later : ConsentRun}
    (reachable : (consentSystem config (· = run)).Reachable ConsentRun.LooksUpAlone later) :
    ∃ others, Orderly config later others ∧ Barred state first later others := by
  have initially : ∀ before, before = run →
      ∃ others, Orderly config before others ∧ Barred state first before others := by
    intro before same
    cases same
    exact ⟨stages, orderly, barred⟩
  apply reachable.invariant initially
  intro before action after ⟨between, sound, kept⟩ alone stepped
  rcases sound.step stepped.1 alone stepped.2 with ⟨others, reached⟩
  exact ⟨others, reached.orderly, reached.barred state first kept⟩

end Orderly

/-- Where callbacks find their grants only while nobody else is about to use them, each
grant is consumed at most once, and nobody who calls back after a callback was over
exchanges a code. -/
theorem handleCallback_singleUse (config : ConsentConfig) (clock : Nat)
    (authorizationUrl : BuildOAuthAuthorizationUrlParams → Option String)
    (accepts : ExchangeOAuthCodeParams → Bool) (run : ConsentRun)
    (reachable : (consentSystem config (· = .begin clock authorizationUrl accepts)).Reachable
      ConsentRun.LooksUpAlone run) :
    run.SingleUse ∧ ∀ later,
      (consentSystem config (· = run)).Reachable ConsentRun.LooksUpAlone later →
      ∀ first second state result, run.Carries first state → run.EndsIn first result →
        run.requests.length ≤ second → later.Carries second state →
        ¬later.Exchanges second := by
  rcases Orderly.of_reachable clock authorizationUrl accepts reachable with ⟨stages, orderly⟩
  refine ⟨orderly.singleUse, ?_⟩
  intro later goesOn first second state result carries ended beyond laterCarries exchanges
  rcases orderly.later (orderly.barred carries ended) goesOn with ⟨others, sound, barred⟩
  exact barred.unfound second beyond (sound.taken_of_consumes laterCarries (.inl exchanges))

/-! ## A flow and its callbacks -/

private def votingConsent : ConsentConfig where
  providers _ := some ⟨⟨"https://id", "client", "secret"⟩, 600, "https://api/callback",
    fun source => if source = "voting-portal" then some ⟨"openid"⟩ else none⟩
  sources source := if source = "voting-portal" then some ⟨"https://portal"⟩ else none
  isUrl _ := true
  createPkceChallenge verifier := verifier

private def openConsent : ConsentRun :=
  .begin 0 (fun params => some params.state) fun _ => true

private def performConsent (actions : List ConsentAction) : ConsentRun :=
  System.performAll (ConsentRun.perform votingConsent) openConsent actions

private theorem performConsent_reachable {permitted : ConsentRun → ConsentAction → Prop}
    {actions : List ConsentAction}
    (along : System.AllAlong (ConsentRun.perform votingConsent)
      (fun before action => permitted before action ∧ before.KeepsSecrets action) openConsent
      actions) :
    (consentSystem votingConsent (· = openConsent)).Reachable permitted
      (performConsent actions) :=
  System.reachable_performAll (.start rfl) along

private def openFlow : List ConsentAction :=
  .start (.initiate .deepId "voting-portal" "state" "verifier") :: List.replicate 3 (.proceed 0)

private def callsBack : ConsentAction :=
  .start (.callback .deepId ⟨some "code", some "state", none⟩)

/-- A second callback comes when the first one is over. -/
private def callsBackAgain : List ConsentAction :=
  openFlow ++ [callsBack] ++ List.replicate 3 (.proceed 1) ++ [callsBack] ++
    List.replicate 2 (.proceed 2)

theorem handleCallback_singleUse_sample :
    (performConsent callsBackAgain).SingleUse ∧ ∀ later,
      (consentSystem votingConsent (· = performConsent callsBackAgain)).Reachable
        ConsentRun.LooksUpAlone later →
      ∀ first second state result, (performConsent callsBackAgain).Carries first state →
        (performConsent callsBackAgain).EndsIn first result →
        (performConsent callsBackAgain).requests.length ≤ second → later.Carries second state →
        ¬later.Exchanges second :=
  handleCallback_singleUse votingConsent 0 (fun params => some params.state) (fun _ => true)
    (performConsent callsBackAgain) (performConsent_reachable (by decide +kernel))

/-- Two callbacks find the grant before either deletes it. -/
private def callsBackTwice : List ConsentAction :=
  openFlow ++ [callsBack, callsBack, .proceed 1, .proceed 2, .proceed 1, .proceed 2]

/-- The code is exchanged twice with the verifier of one grant. -/
theorem callsBackTwice_exchanges :
    ¬∀ run, (consentSystem votingConsent (· = openConsent)).Reachable (fun _ _ => True) run →
      run.SingleUse := by
  intro once
  have exchanged : (performConsent callsBackTwice).Exchanges 1 ∧
      (performConsent callsBackTwice).Exchanges 2 := by
    unfold ConsentRun.Exchanges
    decide +kernel
  have carries : (performConsent callsBackTwice).Carries 1 "state" ∧
      (performConsent callsBackTwice).Carries 2 "state" := by
    unfold ConsentRun.Carries
    decide +kernel
  exact (once _ (performConsent_reachable (by decide +kernel))).alone 1 2 "state" (by decide)
    carries.1 carries.2 (.inl exchanged.1) (.inl exchanged.2)

end Reputo.Consent
