import Reputo.CustomScore.SealEvaluator

/-!
# What programs in scopes keep

A program in a scope keeps account of its handles, whatever operations throw: the handles of the
scope and those outside are the ones that are tracked and not deleted, and the ledger counts them.
-/

namespace Reputo.CustomScore.Seal

open Reputo.Library HandleLog SealHandleScope

variable {ν : Type}

/-! ## Accounts -/

/-- The held handles are the live ones that are tracked, and the ledger counts them. -/
structure Sound (held : List Handle) (ledger : SealHandleLedger) (world : SealWorld) : Prop where
  proper : Proper world.log
  numbered : ∀ handle, .created handle ∈ world.log → handle < world.operations
  holds : Holds world.log held
  balanced : ledger.created = ledger.released + held.length

section Sound

variable {held : List Handle} {ledger : SealHandleLedger} {world : SealWorld} {handle : Handle}

theorem Sound.perm {others : List Handle} (sound : Sound held ledger world)
    (perm : held.Perm others) : Sound others ledger world where
  proper := sound.proper
  numbered := sound.numbered
  holds := sound.holds.perm perm
  balanced := perm.length_eq ▸ sound.balanced

theorem Sound.nothing (sound : Sound held ledger world) : Sound held ledger (world.after []) where
  proper := sound.proper
  numbered handle created := Nat.lt_succ_of_lt (sound.numbered handle created)
  holds := sound.holds
  balanced := sound.balanced

theorem Sound.event {event : HandleEvent} (sound : Sound held ledger world)
    (allowed : Allowed world.log event) (plain : IsPlain event)
    (numbered : ∀ handle, event = .created handle → handle < world.operations) :
    Sound held ledger { world with log := event :: world.log } where
  proper := ⟨allowed, sound.proper⟩
  numbered handle created := by
    rcases List.mem_cons.mp created with same | before
    · exact numbered handle same.symm
    · exact sound.numbered handle before
  holds := sound.holds.plain plain
  balanced := sound.balanced

theorem isPlain_used : IsPlain (.used handle) := fun _ =>
  ⟨HandleEvent.noConfusion, HandleEvent.noConfusion⟩

theorem isPlain_created : IsPlain (.created handle) := fun _ =>
  ⟨HandleEvent.noConfusion, HandleEvent.noConfusion⟩

/-- Live handles may be used. -/
theorem Sound.used (sound : Sound held ledger world) {handles : List Handle}
    (live : ∀ handle ∈ handles, Live world.log handle) :
    Sound held ledger (world.after (handles.map .used)) := by
  induction handles with
  | nil => exact sound.nothing
  | cons handle rest ih =>
      have others := ih fun other member => live other (List.mem_cons_of_mem _ member)
      have own := live handle List.mem_cons_self
      refine others.event ⟨List.mem_append_right _ own.created, ?_⟩ isPlain_used
        (fun _ same => HandleEvent.noConfusion same)
      intro deleted
      rcases List.mem_append.mp deleted with uses | before
      · rcases List.mem_map.mp uses with ⟨_, _, same⟩
        cases same
      · exact own.notDeleted before

/-- The number of an operation is a new handle. -/
theorem Sound.not_created (sound : Sound held ledger world) :
    .created world.operations ∉ world.log :=
  fun created => lt_irrefl _ (sound.numbered _ created)

theorem Sound.created (sound : Sound held ledger world) {handles : List Handle}
    (live : ∀ handle ∈ handles, Live world.log handle) :
    Sound held ledger (world.after (.created world.operations :: handles.map .used)) := by
  refine (sound.used live).event ?_ isPlain_created ?_
  · intro created
    rcases List.mem_append.mp created with uses | before
    · rcases List.mem_map.mp uses with ⟨_, _, same⟩
      cases same
    · exact sound.not_created before
  · intro handle same
    cases same
    exact Nat.lt_succ_self _

/-- A handle that was just created is live, and not tracked. -/
theorem Sound.fresh (sound : Sound held ledger world) {handles : List Handle}
    (live : ∀ handle ∈ handles, Live world.log handle) :
    Live (world.after (.created world.operations :: handles.map .used)).log world.operations ∧
      .tracked world.operations ∉
        (world.after (.created world.operations :: handles.map .used)).log := by
  have proper := (sound.created live).proper
  refine ⟨⟨List.mem_cons_self, fun deleted => ?_⟩, fun tracked => ?_⟩
  · rcases List.mem_cons.mp deleted with same | before
    · cases same
    · exact proper.1 (proper.2.created_of_deleted before)
  · rcases List.mem_cons.mp tracked with same | before
    · cases same
    · exact proper.1 (proper.2.created_of_tracked before)

theorem Sound.tracked (sound : Sound held ledger world) (live : Live world.log handle)
    (fresh : .tracked handle ∉ world.log) :
    Sound (handle :: held) { ledger with created := ledger.created + 1 }
      (world.after [.tracked handle]) where
  proper := ⟨⟨live, fresh⟩, sound.proper⟩
  numbered other created := by
    rcases List.mem_cons.mp created with same | before
    · cases same
    · exact Nat.lt_succ_of_lt (sound.numbered other before)
  holds := sound.holds.tracked ⟨⟨live, fresh⟩, sound.proper⟩
  balanced := by
    rw [sound.balanced, List.length_cons, Nat.add_assoc]

theorem Sound.deleted (sound : Sound held ledger world) (live : Live world.log handle) :
    Proper (world.after [.deleted handle]).log ∧
      (∀ other, .created other ∈ (world.after [.deleted handle]).log →
        other < (world.after [.deleted handle]).operations) ∧
      Holds (world.after [.deleted handle]).log (held.erase handle) := by
  refine ⟨⟨live, sound.proper⟩, ?_, sound.holds.deleted⟩
  intro other created
  rcases List.mem_cons.mp created with same | before
  · cases same
  · exact Nat.lt_succ_of_lt (sound.numbered other before)

/-- A held handle is deleted and counted as released. -/
theorem Sound.released (sound : Sound held ledger world) (member : handle ∈ held) :
    Sound (held.erase handle) { ledger with released := ledger.released + 1 }
      (world.after [.deleted handle]) := by
  rcases sound.deleted (sound.holds.live sound.proper member) with ⟨proper, numbered, holds⟩
  refine ⟨proper, numbered, holds, ?_⟩
  have length := List.length_erase_of_mem member
  have positive := List.length_pos_of_mem member
  rw [sound.balanced, length]
  simp only
  omega

/-- A handle that is not tracked is deleted outside of the account. -/
theorem Sound.deleted_untracked (sound : Sound held ledger world) (live : Live world.log handle)
    (untracked : .tracked handle ∉ world.log) :
    Sound held ledger (world.after [.deleted handle]) := by
  rcases sound.deleted live with ⟨proper, numbered, holds⟩
  have absent : handle ∉ held := fun member => untracked ((sound.holds.exactly handle).mp member).1
  rw [List.erase_of_not_mem absent] at holds
  exact ⟨proper, numbered, holds, sound.balanced⟩

end Sound

/-! ## Running programs -/

variable (runtime : SealRuntime ν)

/-- What a program returns or throws, and the state and the world after it. -/
def runIn {σ α : Type} (program : Stateful ν σ α) (state : σ) (world : SealWorld) :
    (Except (Thrown ν) α × σ) × SealWorld :=
  (program.run.run state).run runtime.handler world

section Runs

variable {σ α β : Type} {state : σ} {world : SealWorld}

@[simp] theorem runIn_pure (value : α) :
    runIn runtime (pure value) state world = ((.ok value, state), world) :=
  rfl

@[simp] theorem runIn_throw (error : Thrown ν) :
    runIn runtime (throw error : Stateful ν σ α) state world = ((.error error, state), world) :=
  rfl

theorem runIn_perform {scope : SealHandleScope} (operation : SealOp ν α) :
    runIn runtime (Scoped.perform operation) scope world =
      ((.ok (runtime.handler operation world).1, scope), (runtime.handler operation world).2) :=
  rfl

@[simp] theorem runIn_get :
    runIn runtime (get : Stateful ν σ σ) state world = ((.ok state, state), world) :=
  rfl

@[simp] theorem runIn_set (next : σ) :
    runIn runtime (set next : Stateful ν σ Unit) state world = ((.ok (), next), world) :=
  rfl

@[simp] theorem runIn_modify (change : σ → σ) :
    runIn runtime (modify change : Stateful ν σ Unit) state world =
      ((.ok (), change state), world) :=
  rfl

theorem runIn_bind (first : Stateful ν σ α) (next : α → Stateful ν σ β) :
    runIn runtime (first >>= next) state world = match runIn runtime first state world with
      | ((.ok value, state), world) => runIn runtime (next value) state world
      | ((.error error, state), world) => ((.error error, state), world) := by
  refine (Program.run_bind runtime.handler (first.run.run state) _ world).trans ?_
  rw [runIn]
  rcases (first.run.run state).run runtime.handler world with ⟨⟨result, after⟩, world⟩
  cases result with
  | ok value => rfl
  | error error => rfl

/-- A program without the state. -/
theorem runIn_lift (program : Program (SealOp ν) α) :
    runIn runtime (ExceptT.lift (StateT.lift program) : Stateful ν σ α) state world =
      ((.ok (program.run runtime.handler world).1, state),
        (program.run runtime.handler world).2) := by
  have lifted : (ExceptT.lift (StateT.lift program) : Stateful ν σ α).run.run state =
      (program >>= fun value => pure (value, state)) >>= fun pair =>
        pure (.ok pair.1, pair.2) := rfl
  rw [runIn, lifted, Program.run_bind, Program.run_bind]
  rfl

theorem runIn_tryCatch (first : Stateful ν σ α) (next : Thrown ν → Stateful ν σ α) :
    runIn runtime (tryCatch first next) state world = match runIn runtime first state world with
      | ((.ok value, state), world) => ((.ok value, state), world)
      | ((.error error, state), world) => runIn runtime (next error) state world := by
  refine (Program.run_bind runtime.handler (first.run.run state) _ world).trans ?_
  rw [runIn]
  rcases (first.run.run state).run runtime.handler world with ⟨⟨result, after⟩, world⟩
  cases result with
  | ok value => rfl
  | error error => rfl

end Runs

/-! ## Keeping account -/

/-- The account is sound, and what is asked of a value that is returned holds. -/
structure Kept {α : Type} (outer : List Handle) (ends : α → List Handle → Prop)
    (out : (Except (Thrown ν) α × SealHandleScope) × SealWorld) : Prop where
  sound : Sound (outer ++ out.1.2.handles) out.1.2.ledger out.2
  ended : ∀ value, out.1.1 = .ok value → ends value out.1.2.handles

/-- From a scope with certain handles, a program keeps account of them, and where it returns, its
value and the handles are as asked. -/
def Keeps {α : Type} (outer handles : List Handle) (program : Scoped ν α)
    (ends : α → List Handle → Prop) : Prop :=
  ∀ ledger world, Sound (outer ++ handles) ledger world →
    Kept outer ends (runIn runtime program ⟨handles, ledger⟩ world)

/-- A new handle is live and not tracked yet, and all else is as before. -/
def Creates (outer handles : List Handle) (program : Scoped ν Handle) : Prop :=
  ∀ ledger world, Sound (outer ++ handles) ledger world →
    ∃ result world', runIn runtime program ⟨handles, ledger⟩ world =
        ((result, ⟨handles, ledger⟩), world') ∧ Sound (outer ++ handles) ledger world' ∧
      ∀ handle, result = .ok handle → Live world'.log handle ∧ .tracked handle ∉ world'.log

section Keeps

variable {runtime : SealRuntime ν} {outer handles : List Handle} {α β : Type}
variable {ends : α → List Handle → Prop}

theorem keeps_pure {value : α} (ended : ends value handles) :
    Keeps runtime outer handles (pure value) ends := by
  intro ledger world sound
  refine ⟨sound, ?_⟩
  intro other same
  cases same
  exact ended

theorem keeps_throw {error : Thrown ν} :
    Keeps runtime outer handles (throw error : Scoped ν α) ends := by
  intro ledger world sound
  refine ⟨sound, ?_⟩
  intro value same
  cases same

theorem keeps_bind {between : β → List Handle → Prop} {first : Scoped ν β}
    {next : β → Scoped ν α} (keeps : Keeps runtime outer handles first between)
    (after : ∀ value handles, between value handles →
      Keeps runtime outer handles (next value) ends) :
    Keeps runtime outer handles (first >>= next) ends := by
  intro ledger world sound
  have kept := keeps ledger world sound
  rw [runIn_bind]
  generalize runIn runtime first ⟨handles, ledger⟩ world = out at kept ⊢
  rcases out with ⟨⟨result, scope⟩, world⟩
  cases result with
  | ok value => exact after value scope.handles (kept.ended value rfl) scope.ledger world kept.sound
  | error error =>
      refine ⟨kept.sound, ?_⟩
      intro value same
      cases same

theorem Keeps.weaken {others : α → List Handle → Prop} {program : Scoped ν α}
    (keeps : Keeps runtime outer handles program ends)
    (weaker : ∀ value handles, ends value handles → others value handles) :
    Keeps runtime outer handles program others := by
  intro ledger world sound
  have kept := keeps ledger world sound
  exact ⟨kept.sound, fun value same => weaker value _ (kept.ended value same)⟩

theorem keeps_if {condition : Prop} [Decidable condition] {yes no : Scoped ν α}
    (keepsYes : condition → Keeps runtime outer handles yes ends)
    (keepsNo : ¬condition → Keeps runtime outer handles no ends) :
    Keeps runtime outer handles (if condition then yes else no) ends := by
  by_cases holds : condition
  · rw [if_pos holds]
    exact keepsYes holds
  · rw [if_neg holds]
    exact keepsNo holds

theorem keeps_throw_bind {error : Thrown ν} {next : β → Scoped ν α} :
    Keeps runtime outer handles (throw error >>= next) ends := by
  have nothing : ∀ (value : β) (handles : List Handle), False →
      Keeps runtime outer handles (next value) ends := fun _ _ absurd => False.elim absurd
  exact keeps_bind keeps_throw nothing

/-- A check that throws, and what follows it. -/
theorem keeps_check {condition : Prop} [Decidable condition] {failure : Scoped ν β}
    {next : β → Scoped ν α} {passed : Scoped ν α}
    (fails : Keeps runtime outer handles failure fun _ _ => False)
    (keeps : ¬condition → Keeps runtime outer handles passed ends) :
    Keeps runtime outer handles (if condition then failure >>= next else passed) ends :=
  keeps_if (fun _ => keeps_bind fails fun _ _ absurd => False.elim absurd) keeps

theorem keeps_orFail {program : Scoped ν α} {message : String → String}
    {evaluationCode : EncryptedCustomScoreErrorCode} {context : List (String × ContextValue ν)}
    (keeps : Keeps runtime outer handles program ends) :
    Keeps runtime outer handles (Scoped.orFail program message evaluationCode context) ends := by
  intro ledger world sound
  have kept := keeps ledger world sound
  rw [Scoped.orFail, runIn_tryCatch]
  generalize runIn runtime program ⟨handles, ledger⟩ world = out at kept ⊢
  rcases out with ⟨⟨result, scope⟩, world⟩
  cases result with
  | ok value => exact kept
  | error error => exact keeps_throw scope.ledger world kept.sound

/-- A loop keeps what each of its steps keeps. -/
theorem keeps_foldlM {items : List β} {step : α → β → Scoped ν α}
    {invariant : α → List Handle → Prop} (stepped : ∀ value item handles, item ∈ items →
      invariant value handles → Keeps runtime outer handles (step value item) invariant)
    {value : α} (initially : invariant value handles) :
    Keeps runtime outer handles (items.foldlM step value) invariant := by
  induction items generalizing value handles with
  | nil => exact keeps_pure initially
  | cons item rest ih =>
      refine keeps_bind (stepped value item handles List.mem_cons_self initially) ?_
      intro next after kept
      exact ih (fun value item handles member =>
        stepped value item handles (List.mem_cons_of_mem _ member)) kept

/-- An operation that may throw uses live handles. -/
theorem runIn_call (method : SealCall ν α) (scope : SealHandleScope) (world : SealWorld) :
    ∃ result, runIn runtime (Scoped.call method) scope world =
      ((result, scope), world.after (method.handles.map .used)) := by
  rw [Scoped.call, runIn_bind, runIn_perform]
  cases thrown : runtime.throws world.operations with
  | some error =>
      simp only [SealRuntime.handler, thrown]
      exact ⟨_, rfl⟩
  | none =>
      simp only [SealRuntime.handler, thrown]
      exact ⟨_, rfl⟩

theorem keeps_call {method : SealCall ν α} (held : ∀ handle ∈ method.handles,
      handle ∈ outer ++ handles) :
    Keeps runtime outer handles (Scoped.call method) fun _ after => after = handles := by
  intro ledger world sound
  have used := sound.used fun handle member => sound.holds.live sound.proper (held handle member)
  rcases @runIn_call ν runtime α method ⟨handles, ledger⟩ world with ⟨result, ran⟩
  rw [ran]
  exact ⟨used, fun _ _ => rfl⟩

theorem creates_create {maker : SealMaker} (held : ∀ handle ∈ maker.handles,
      handle ∈ outer ++ handles) :
    Creates runtime outer handles (Scoped.create maker) := by
  intro ledger world sound
  have live : ∀ handle ∈ maker.handles, Live world.log handle := fun handle member =>
    sound.holds.live sound.proper (held handle member)
  rw [Scoped.create, runIn_bind, runIn_perform]
  cases thrown : runtime.throws world.operations with
  | some error =>
      simp only [SealRuntime.handler, thrown, Scoped.orThrow, runIn_throw]
      exact ⟨_, _, rfl, sound.used live, fun handle same => by cases same⟩
  | none =>
      simp only [SealRuntime.handler, thrown, Scoped.orThrow, runIn_pure]
      refine ⟨_, _, rfl, sound.created live, ?_⟩
      intro handle same
      cases same
      exact sound.fresh live

theorem creates_orFail {program : Scoped ν Handle} {message : String → String}
    {evaluationCode : EncryptedCustomScoreErrorCode} {context : List (String × ContextValue ν)}
    (creates : Creates runtime outer handles program) :
    Creates runtime outer handles
      (Scoped.orFail program message evaluationCode context) := by
  intro ledger world sound
  rcases creates ledger world sound with ⟨result, world', ran, after, fresh⟩
  rw [Scoped.orFail, runIn_tryCatch, ran]
  cases result with
  | ok handle => exact ⟨_, _, rfl, after, fresh⟩
  | error error => exact ⟨_, _, rfl, after, fun handle same => by cases same⟩

/-- A new handle that is tracked is a further handle of the scope. -/
theorem keeps_track {program : Scoped ν Handle}
    (creates : Creates runtime outer handles program) :
    Keeps runtime outer handles (program >>= track) fun handle after =>
      handle ∉ outer ++ handles ∧ after = handles ++ [handle] := by
  intro ledger world sound
  rcases creates ledger world sound with ⟨result, world', ran, after, fresh⟩
  rw [runIn_bind, ran]
  cases result with
  | error error => exact ⟨after, fun value same => by cases same⟩
  | ok handle =>
      rcases fresh handle rfl with ⟨live, untracked⟩
      have last : (handle :: (outer ++ handles)).Perm (outer ++ (handles ++ [handle])) := by
        rw [← List.append_assoc]
        exact (List.perm_append_singleton handle _).symm
      have tracked := (after.tracked live untracked).perm last
      refine ⟨tracked, ?_⟩
      intro value same
      cases same
      exact ⟨fun member => untracked ((after.holds.exactly handle).mp member).1, rfl⟩

theorem keeps_trackNew {maker : SealMaker} (held : ∀ handle ∈ maker.handles,
      handle ∈ outer ++ handles) :
    Keeps runtime outer handles (trackNew maker) fun handle after =>
      handle ∉ outer ++ handles ∧ after = handles ++ [handle] :=
  keeps_track (creates_create held)

theorem runIn_deleteOnce {scope : SealHandleScope} {world : SealWorld} {handle : Handle}
    (live : Live world.log handle) :
    runIn runtime (deleteOnce handle) scope world =
      ((.ok (), scope), (world.after []).after [.deleted handle]) := by
  rw [deleteOnce, runIn_bind, runIn_perform]
  simp only [SealRuntime.handler, live.notDeleted, decide_false, Bool.not_false, if_true]
  rfl

theorem keeps_release {handle : Handle} :
    Keeps runtime outer handles (release handle) fun _ after => after = handles.erase handle := by
  intro ledger world sound
  rw [release, runIn_bind, runIn_get]
  by_cases member : handle ∈ handles
  · have held : handle ∈ outer ++ handles := List.mem_append_right _ member
    have live := sound.holds.live sound.proper held
    have apart : handle ∉ outer := fun other =>
      (List.nodup_append.mp sound.holds.nodup).2.2 handle other handle member rfl
    simp only [member, if_true, runIn_bind, runIn_modify, runIn_deleteOnce live, countReleased]
    have released := sound.nothing.released held
    rw [List.erase_append_right _ apart] at released
    exact ⟨released, fun _ _ => rfl⟩
  · simp only [member, if_false, runIn_pure]
    exact ⟨sound, fun _ _ => (List.erase_of_not_mem member).symm⟩

/-- Handles are released one after another. -/
theorem runIn_disposeHandles (scope : SealHandleScope) {world : SealWorld}
    {released : List Handle} (sound : Sound (released ++ outer) scope.ledger world) :
    ∃ ledger world', runIn runtime (disposeHandles released) scope world =
      ((.ok (), { scope with ledger }), world') ∧ Sound outer ledger world' := by
  induction released generalizing scope world with
  | nil => exact ⟨_, _, rfl, sound⟩
  | cons handle rest ih =>
      have held : handle ∈ handle :: rest ++ outer := List.mem_cons_self
      have live := sound.holds.live sound.proper held
      have after := sound.nothing.released held
      rw [List.cons_append, List.erase_cons_head] at after
      rcases ih { scope with ledger :=
        { scope.ledger with released := scope.ledger.released + 1 } } after with
        ⟨ledger, world', ran, left⟩
      refine ⟨ledger, world', ?_, left⟩
      rw [disposeHandles, runIn_bind, runIn_deleteOnce live]
      simp only [runIn_bind, countReleased, runIn_modify]
      exact ran

/-- A scope that is disposed leaves the handles outside. -/
theorem runIn_dispose {ledger : SealHandleLedger} {world : SealWorld}
    (sound : Sound (outer ++ handles) ledger world) :
    ∃ ledger' world', runIn runtime dispose ⟨handles, ledger⟩ world =
      ((.ok (), ⟨[], ledger'⟩), world') ∧ Sound outer ledger' world' := by
  have reversed : Sound (handles.reverse ++ outer) ledger world := sound.perm
    (List.perm_append_comm.trans (handles.reverse_perm.symm.append_right outer))
  rcases @runIn_disposeHandles ν runtime outer ⟨handles, ledger⟩ _ _ reversed with
    ⟨ledger, world', ran, after⟩
  refine ⟨ledger, world', ?_, after⟩
  rw [dispose, runIn_bind, runIn_get]
  simp only [runIn_bind, ran, runIn_modify]

/-- One thing is done with each of the handles. -/
theorem keeps_forM {items : List Handle} {body : Handle → Scoped ν Unit}
    (each : ∀ item ∈ items, Keeps runtime outer handles (body item) fun _ after =>
      after = handles) :
    Keeps runtime outer handles (items.forM body) fun _ after => after = handles := by
  induction items with
  | nil => exact keeps_pure rfl
  | cons item rest ih =>
      refine keeps_bind (each item List.mem_cons_self) ?_
      rintro _ _ rfl
      exact ih fun other member => each other (List.mem_cons_of_mem _ member)

end Keeps

end Reputo.CustomScore.Seal
