import Reputo.CustomScore.EncryptedSubmission

/-!
# All users or none of a page

What the posts of a pass are in terms of the pages: those of a finished pass are the complete
users of all pages, those of a pass that found a pending user are the complete users of the
pages before.
-/

namespace Reputo.CustomScore

open Reputo.Library Reputo.Orchestrator

variable {ν : Type}

/-! ## Users of a list of pages -/

section Users

variable (selectedChildren : List SelectedEncryptedChild)

/-- The selected fields of a user, where all are present. -/
def selectedFields (scoresEncrValue : Option (Json ν)) : Option (List EncryptedScoreField) :=
  match parseEncryptedScores scoresEncrValue with
  | .ok (some scoresEncr) => selectedChildren.mapM fun child => scoresEncr.fields.lookup child.scope
  | _ => none

/-- The ciphertext of a field that is encrypted. -/
def EncryptedScoreField.asEncrypted : EncryptedScoreField → Option String
  | .encrypted ciphertext => some ciphertext
  | .pendingEncryption _ => none

/-- A user whose selected fields are all encrypted, with the ciphertext of each child. -/
def completeUser (user : String × Option (Json ν)) : Option (String × List (String × String)) := do
  let fields ← selectedFields selectedChildren user.2
  let ciphertexts ← fields.mapM (·.asEncrypted)
  return (user.1, (selectedChildren.map (·.key)).zip ciphertexts)

def completeUsers (users : List (String × Option (Json ν))) :
    List (String × List (String × String)) :=
  users.filterMap (completeUser selectedChildren)

/-- Every selected field is there, and some are pending. -/
def IsPending (user : String × Option (Json ν)) : Prop :=
  ∃ fields, selectedFields selectedChildren user.2 = some fields ∧
    ∃ ciphertext, .pendingEncryption ciphertext ∈ fields

/-- No user is pending or malformed. -/
def Settled (users : List (String × Option (Json ν))) : Prop :=
  ∀ user ∈ users, ∃ classification,
    classifyEncryptedUser user.1 user.2 selectedChildren = .ok classification ∧
      classification ≠ .potentiallyComplete

end Users

def usersOf (pages : List (UsersPage ν)) : List (String × Option (Json ν)) :=
  pages.flatMap (·.users)

-- The equations are made here, once for all proofs below.
section
attribute [local simp] scanPages processPages postBatches
end

theorem usersOf_cons (users : UsersPage ν) (rest : List (UsersPage ν)) :
    usersOf (users :: rest) = users.users ++ usersOf rest :=
  List.flatMap_cons

section Posts

variable (answers : PassAnswers ν) (selectedChildren : List SelectedEncryptedChild)
  (timestamp : String)

/-- The entry carries the evaluation of the user's ciphertexts. -/
def IsEntryOf (user : String × List (String × String)) (entry : String × EncryptedScoreEntry) :
    Prop :=
  entry.1 = user.1 ∧ entry.2.type = "custom_score_encr" ∧ entry.2.timestamp = timestamp ∧
    answers.evaluateUser ⟨user.1, entry.2.keyId, user.2⟩ = .ok entry.2.ciphertext

/-- The posts are those of the complete users, one entry for each, all of them answered
with OK. -/
structure PostedExactly (users : List (String × Option (Json ν)))
    (posts : List (PostScoresRequest × Except RequestError PostScoresResponse)) : Prop where
  entries : List.Forall₂ (IsEntryOf answers timestamp) (completeUsers selectedChildren users)
    (posts.flatMap (·.1))
  accepted : ∀ post ∈ posts, ∃ response, post.2 = .ok response ∧
    ∀ entry ∈ post.1, response.results entry.1 = some "OK"

/-- The counts and the posts after whole pages of settled users. -/
structure PagesDone (users : List (String × Option (Json ν))) (state : SubmissionState) :
    Prop where
  settled : Settled selectedChildren users
  posted : PostedExactly answers selectedChildren timestamp users state.posts
  scanned : state.pass.complete + state.pass.incomplete = state.pass.scannedUsers
  submitted : state.pass.submitted = state.pass.complete

end Posts

/-! ## Classification -/

section Classification

variable {selectedChildren : List SelectedEncryptedChild} {did : String}
  {scoresEncr : Option (Json ν)}

theorem classifyFields_eq (scores : DeepIdEncryptedScores)
    (selectedChildren : List SelectedEncryptedChild) :
    classifyFields scores selectedChildren = none ∧
        selectedChildren.mapM (fun child => scores.fields.lookup child.scope) = none ∨
      ∃ pending ciphertexts fields,
        classifyFields scores selectedChildren = some (pending, ciphertexts) ∧
        selectedChildren.mapM (fun child => scores.fields.lookup child.scope) = some fields ∧
        (0 < pending ↔ ∃ ciphertext, .pendingEncryption ciphertext ∈ fields) ∧
        (pending = 0 → ciphertexts.map Prod.fst = selectedChildren.map (·.key) ∧
          fields = ciphertexts.map fun ciphertext => .encrypted ciphertext.2) := by
  induction selectedChildren with
  | nil => exact Or.inr ⟨0, [], [], rfl, rfl, by simp, fun _ => ⟨rfl, rfl⟩⟩
  | cons child rest ih =>
      rw [classifyFields, List.mapM_cons]
      cases found : scores.fields.lookup child.scope with
      | none => exact Or.inl ⟨rfl, rfl⟩
      | some field =>
          rcases ih with ⟨missing, absent⟩ |
            ⟨pending, ciphertexts, fields, classified, present, isPending, encrypted⟩
          · left
            cases field <;> simp [missing, absent]
          · right
            cases field with
            | pendingEncryption ciphertext =>
                exact ⟨pending + 1, ciphertexts, .pendingEncryption ciphertext :: fields,
                  by simp [classified], by simp [present], by simp, nofun⟩
            | encrypted ciphertext =>
                refine ⟨pending, (child.key, ciphertext) :: ciphertexts,
                  .encrypted ciphertext :: fields, by simp [classified], by simp [present],
                  by simpa using isPending, fun none => ?_⟩
                rcases encrypted none with ⟨keys, same⟩
                exact ⟨congrArg (List.cons child.key) keys, congrArg (List.cons _) same⟩

/-- A user is held back exactly if it is pending. -/
theorem classifyEncryptedUser_pending :
    classifyEncryptedUser did scoresEncr selectedChildren = .ok .potentiallyComplete ↔
      IsPending selectedChildren (did, scoresEncr) := by
  rw [classifyEncryptedUser, IsPending, selectedFields]
  cases parsed : parseEncryptedScores scoresEncr with
  | error issues => simp
  | ok scores =>
      cases scores with
      | none => simp
      | some scores =>
          rcases classifyFields_eq scores selectedChildren with ⟨missing, absent⟩ |
            ⟨pending, ciphertexts, fields, classified, present, isPending, _⟩
          · simp [missing, absent]
          · simp only [classified, present, Option.some.injEq, exists_eq_left', ← isPending]
            split
            · rename_i waits
              exact iff_of_true rfl waits
            · rename_i ready
              refine iff_of_false ?_ ready
              cases scores.sealMetadata <;> nofun

theorem mapM_asEncrypted (ciphertexts : List (String × String)) :
    (ciphertexts.map fun ciphertext => EncryptedScoreField.encrypted ciphertext.2).mapM
      (·.asEncrypted) = some (ciphertexts.map Prod.snd) := by
  induction ciphertexts with
  | nil => rfl
  | cons ciphertext rest ih =>
      rw [List.map_cons, List.mapM_cons, ih]
      rfl

theorem mapM_asEncrypted_of_pending {fields : List EncryptedScoreField} {ciphertext : Option String}
    (pending : .pendingEncryption ciphertext ∈ fields) :
    fields.mapM (·.asEncrypted) = none := by
  induction fields with
  | nil => exact absurd pending List.not_mem_nil
  | cons field rest ih =>
      rw [List.mapM_cons]
      cases field with
      | pendingEncryption => rfl
      | encrypted own =>
          rcases List.mem_cons.mp pending with same | later
          · cases same
          · rw [ih later]
            rfl

/-- The ciphertexts of a complete user. -/
def EncryptedUserClassification.ciphertexts :
    EncryptedUserClassification → Option (List (String × String))
  | .complete _ ciphertexts => some ciphertexts
  | _ => none

/-- A user is classified as complete exactly if its selected fields are encrypted. -/
theorem completeUser_of_classified {classification : EncryptedUserClassification}
    (classified : classifyEncryptedUser did scoresEncr selectedChildren = .ok classification) :
    completeUser selectedChildren (did, scoresEncr) =
      classification.ciphertexts.map fun ciphertexts => (did, ciphertexts) := by
  rw [classifyEncryptedUser] at classified
  rw [completeUser, selectedFields]
  cases parsed : parseEncryptedScores scoresEncr with
  | error issues => simp [parsed] at classified
  | ok scores =>
      cases scores with
      | none =>
          simp only [parsed] at classified
          cases classified
          rfl
      | some scores =>
          rcases classifyFields_eq scores selectedChildren with ⟨missing, absent⟩ |
            ⟨pending, found, fields, counted, present, isPending, encrypted⟩
          · simp only [parsed, missing] at classified
            cases classified
            simp [absent, EncryptedUserClassification.ciphertexts]
          · simp only [parsed, counted] at classified
            simp only [present, Option.bind_eq_bind, Option.bind_some]
            split at classified
            · rename_i waits
              cases classified
              rcases isPending.mp waits with ⟨_, member⟩
              rw [mapM_asEncrypted_of_pending member]
              rfl
            · rename_i ready
              rcases encrypted (Nat.eq_zero_of_not_pos ready) with ⟨keys, same⟩
              cases address : scores.sealMetadata with
              | none => simp [address] at classified
              | some url =>
                  simp only [address] at classified
                  cases classified
                  rw [same, mapM_asEncrypted, ← keys]
                  exact congrArg some (congrArg (Prod.mk did) (List.zip_of_prod rfl rfl).symm)

end Classification

/-! ## Pages -/

section Pass

variable {answers : PassAnswers ν} {selectedChildren : List SelectedEncryptedChild}
  {timestamp : String} {page : Nat} {state after : SubmissionState}

theorem resolveUserKeyId_frame {did metadataUrl : String}
    {result : Except SubmissionFailure String}
    (resolved : resolveUserKeyId answers page did metadataUrl state = (result, after)) :
    after.pass = state.pass ∧ after.posts = state.posts := by
  rw [resolveUserKeyId] at resolved
  split at resolved
  · cases resolved
    exact ⟨rfl, rfl⟩
  · split at resolved
    · cases resolved
      exact ⟨rfl, rfl⟩
    · dsimp only at resolved
      split at resolved <;> cases resolved <;> exact ⟨rfl, rfl⟩

theorem settled_cons {user : String × Option (Json ν)} {rest : List (String × Option (Json ν))} :
    Settled selectedChildren (user :: rest) ↔
      (∃ classification,
        classifyEncryptedUser user.1 user.2 selectedChildren = .ok classification ∧
          classification ≠ .potentiallyComplete) ∧ Settled selectedChildren rest :=
  List.forall_mem_cons

theorem completeUsers_cons {user : String × Option (Json ν)}
    {rest : List (String × Option (Json ν))} :
    completeUsers selectedChildren (user :: rest) =
      (completeUser selectedChildren user).toList ++ completeUsers selectedChildren rest := by
  rw [completeUsers, List.filterMap_cons]
  cases completeUser selectedChildren user <;> rfl

/-- A page that is classified to its end is settled, and its complete users are counted. -/
theorem classifyUsers_ok {users : List (String × Option (Json ν))}
    {pageUsers : List EncryptedCustomScoreUser}
    (classified : classifyUsers answers selectedChildren page users state =
      (.ok pageUsers, after)) :
    Settled selectedChildren users ∧
      pageUsers.map (fun user => (user.did, user.ciphertexts)) =
        completeUsers selectedChildren users ∧
      after.posts = state.posts ∧ after.pass.submitted = state.pass.submitted ∧
      after.pass.complete = state.pass.complete + pageUsers.length ∧
      after.pass.complete + after.pass.incomplete + state.pass.scannedUsers =
        state.pass.complete + state.pass.incomplete + after.pass.scannedUsers := by
  induction users generalizing state pageUsers with
  | nil =>
      cases classified
      exact ⟨nofun, rfl, rfl, rfl, rfl, rfl⟩
  | cons user rest ih =>
      rcases user with ⟨did, scoresEncr⟩
      rw [classifyUsers] at classified
      cases own : classifyEncryptedUser did scoresEncr selectedChildren with
      | error violation => simp [own] at classified
      | ok classification =>
          rw [settled_cons, completeUsers_cons, completeUser_of_classified own, own]
          cases classification with
          | incomplete =>
              simp only [own] at classified
              rcases ih classified with ⟨settled, users, posts, submitted, complete, scanned⟩
              refine ⟨⟨⟨_, rfl, nofun⟩, settled⟩, users, posts, submitted, complete, ?_⟩
              dsimp only at scanned complete
              omega
          | potentiallyComplete => simp [own] at classified
          | complete metadataUrl ciphertexts =>
              simp only [own] at classified
              split at classified
              · cases classified
              · rename_i keyId middle resolved
                rcases resolveUserKeyId_frame resolved with ⟨samePass, samePosts⟩
                split at classified
                · cases classified
                · rename_i others last others_classified
                  cases classified
                  rcases ih others_classified with
                    ⟨settled, users, posts, submitted, complete, scanned⟩
                  rw [samePass] at submitted complete scanned
                  refine ⟨⟨⟨_, rfl, nofun⟩, settled⟩, congrArg (List.cons _) users,
                    posts.trans samePosts, submitted, ?_, ?_⟩
                  · rw [complete, List.length_cons]
                    dsimp only
                    omega
                  · dsimp only at scanned complete
                    omega

theorem classifyUsers_stop {users : List (String × Option (Json ν))} {stop : PassStop}
    (classified : classifyUsers answers selectedChildren page users state =
      (.error stop, after)) :
    after.posts = state.posts ∧
      ((∃ failure, stop = .failed failure) ∨
        stop = .pendingEncryption ∧ ∃ user ∈ users, IsPending selectedChildren user) := by
  induction users generalizing state with
  | nil => cases classified
  | cons user rest ih =>
      rcases user with ⟨did, scoresEncr⟩
      rw [List.exists_mem_cons_iff]
      rw [classifyUsers] at classified
      cases own : classifyEncryptedUser did scoresEncr selectedChildren with
      | error violation =>
          simp only [own] at classified
          cases classified
          exact ⟨rfl, Or.inl ⟨_, rfl⟩⟩
      | ok classification =>
          cases classification with
          | incomplete =>
              simp only [own] at classified
              rcases ih classified with ⟨posts, failed | ⟨pending, found⟩⟩
              · exact ⟨posts, Or.inl failed⟩
              · exact ⟨posts, Or.inr ⟨pending, Or.inr found⟩⟩
          | potentiallyComplete =>
              simp only [own] at classified
              cases classified
              exact ⟨rfl, Or.inr ⟨rfl, Or.inl (classifyEncryptedUser_pending.mp own)⟩⟩
          | complete metadataUrl ciphertexts =>
              simp only [own] at classified
              split at classified
              · rename_i failure middle resolved
                cases classified
                exact ⟨(resolveUserKeyId_frame resolved).2, Or.inl ⟨_, rfl⟩⟩
              · rename_i keyId middle resolved
                rcases resolveUserKeyId_frame resolved with ⟨_, samePosts⟩
                split at classified
                · rename_i stop last others
                  cases classified
                  rcases ih others with ⟨posts, failed | ⟨pending, found⟩⟩
                  · exact ⟨posts.trans samePosts, Or.inl failed⟩
                  · exact ⟨posts.trans samePosts, Or.inr ⟨pending, Or.inr found⟩⟩
                · cases classified

theorem flatten_chunkWithin {α : Type} {size room : Nat} (positive : 0 < size) {items : List α}
    (fits : items.length ≤ room) : (chunkWithin size room items).flatten = items := by
  induction room generalizing items with
  | zero => exact (List.eq_nil_of_length_eq_zero (Nat.le_zero.mp fits)).symm
  | succ room ih =>
      cases items with
      | nil => rfl
      | cons item rest =>
          have shorter : ((item :: rest).drop size).length ≤ room := by
            rw [List.length_drop]
            omega
          simp only [chunkWithin, List.flatten_cons, ih shorter, List.take_append_drop]

/-- Chunks in order are the items in order. -/
theorem flatten_chunk {α : Type} (items : List α) {size : Nat} (positive : 0 < size) :
    (chunk items size).flatten = items :=
  flatten_chunkWithin positive (Nat.le_refl _)

theorem postBatches_ok {batches : List (List EncryptedCustomScoreResult)} {batch : Nat}
    (posted : postBatches answers timestamp page batches batch state = (.ok (), after)) :
    ∃ posts, after.posts = state.posts ++ posts ∧
      posts.flatMap (·.1) = toRequest timestamp batches.flatten ∧
      (∀ post ∈ posts, ∃ response, post.2 = .ok response ∧
        ∀ entry ∈ post.1, response.results entry.1 = some "OK") ∧
      after.pass.submitted = state.pass.submitted + batches.flatten.length ∧
      after.pass.complete = state.pass.complete ∧
      after.pass.incomplete = state.pass.incomplete ∧
      after.pass.scannedUsers = state.pass.scannedUsers := by
  induction batches generalizing state batch with
  | nil =>
      cases posted
      exact ⟨[], (List.append_nil _).symm, rfl, nofun, rfl, rfl, rfl, rfl⟩
  | cons results rest ih =>
      rw [postBatches] at posted
      cases answer : answers.postScores page batch with
      | error error => simp [answer] at posted
      | ok response =>
          simp only [answer] at posted
          split at posted
          · cases posted
          · rename_i all
            rcases ih posted with
              ⟨posts, logged, entries, accepted, submitted, complete, incomplete, scanned⟩
            have own : ∀ entry ∈ toRequest timestamp results,
                response.results entry.1 = some "OK" := by
              intro entry member
              rcases List.mem_map.mp member with ⟨result, listed, rfl⟩
              simpa using List.find?_eq_none.mp all result listed
            refine ⟨(toRequest timestamp results, .ok response) :: posts, ?_, ?_, ?_, ?_,
              complete, incomplete, scanned⟩
            · rw [logged, List.append_assoc]
              rfl
            · rw [List.flatMap_cons, entries, List.flatten_cons, toRequest, toRequest, toRequest,
                List.map_append]
            · intro post member
              rcases List.mem_cons.mp member with rfl | later
              · exact ⟨response, rfl, own⟩
              · exact accepted post later
            · rw [submitted, List.flatten_cons, List.length_append]
              exact Nat.add_assoc _ _ _

theorem postBatches_stop {batches : List (List EncryptedCustomScoreResult)} {batch : Nat}
    {stop : PassStop}
    (posted : postBatches answers timestamp page batches batch state = (.error stop, after)) :
    ∃ failure, stop = .failed failure := by
  induction batches generalizing state batch with
  | nil => cases posted
  | cons results rest ih =>
      rw [postBatches] at posted
      cases answer : answers.postScores page batch with
      | error error =>
          simp only [answer] at posted
          cases posted
          exact ⟨_, rfl⟩
      | ok response =>
          simp only [answer] at posted
          split at posted
          · cases posted
            exact ⟨_, rfl⟩
          · exact ih posted

/-- Every user of a batch is evaluated to its entry. -/
theorem evaluateBatch_ok {pageUsers : List EncryptedCustomScoreUser}
    {results : List EncryptedCustomScoreResult}
    (evaluated : evaluateBatch answers pageUsers = .ok results) :
    List.Forall₂ (IsEntryOf answers timestamp)
        (pageUsers.map fun user => (user.did, user.ciphertexts)) (toRequest timestamp results) ∧
      results.length = pageUsers.length := by
  rw [evaluateBatch] at evaluated
  split at evaluated
  · cases evaluated
  · refine ⟨?_, Result.length_of_mapM evaluated⟩
    rw [toRequest, List.forall₂_map_left_iff, List.forall₂_map_right_iff]
    apply (Result.mapM_eq_ok_iff.mp evaluated).imp
    intro user result own
    rcases Result.map_eq_ok.mp own with ⟨ciphertext, sealed, rfl⟩
    exact ⟨rfl, rfl, rfl, sealed⟩

theorem submitPage_ok {pageUsers : List EncryptedCustomScoreUser}
    (submitted : submitPage answers timestamp page pageUsers state = (.ok (), after)) :
    ∃ posts, after.posts = state.posts ++ posts ∧
      List.Forall₂ (IsEntryOf answers timestamp)
        (pageUsers.map fun user => (user.did, user.ciphertexts)) (posts.flatMap (·.1)) ∧
      (∀ post ∈ posts, ∃ response, post.2 = .ok response ∧
        ∀ entry ∈ post.1, response.results entry.1 = some "OK") ∧
      after.pass.submitted = state.pass.submitted + pageUsers.length ∧
      after.pass.complete = state.pass.complete ∧
      after.pass.incomplete = state.pass.incomplete ∧
      after.pass.scannedUsers = state.pass.scannedUsers := by
  rw [submitPage] at submitted
  split at submitted
  · cases submitted
  · rename_i results evaluated
    rcases evaluateBatch_ok evaluated with ⟨entries, length⟩
    rcases postBatches_ok submitted with ⟨posts, logged, posted, accepted, count, frames⟩
    rw [flatten_chunk results (by decide)] at posted count
    refine ⟨posts, logged, ?_, accepted, length ▸ count, frames⟩
    rw [posted]
    exact entries

theorem submitPage_stop {pageUsers : List EncryptedCustomScoreUser} {stop : PassStop}
    (submitted : submitPage answers timestamp page pageUsers state = (.error stop, after)) :
    ∃ failure, stop = .failed failure := by
  rw [submitPage] at submitted
  split at submitted
  · cases submitted
    exact ⟨_, rfl⟩
  · exact postBatches_stop submitted

theorem settled_append {first second : List (String × Option (Json ν))} :
    Settled selectedChildren (first ++ second) ↔
      Settled selectedChildren first ∧ Settled selectedChildren second :=
  List.forall_mem_append

theorem completeUsers_append (first second : List (String × Option (Json ν))) :
    completeUsers selectedChildren (first ++ second) =
      completeUsers selectedChildren first ++ completeUsers selectedChildren second :=
  List.filterMap_append

theorem PostedExactly.append {first second : List (String × Option (Json ν))}
    {posts more : List (PostScoresRequest × Except RequestError PostScoresResponse)}
    (left : PostedExactly answers selectedChildren timestamp first posts)
    (right : PostedExactly answers selectedChildren timestamp second more) :
    PostedExactly answers selectedChildren timestamp (first ++ second) (posts ++ more) where
  entries := by
    rw [completeUsers_append, List.flatMap_append]
    exact List.rel_append left.entries right.entries
  accepted := fun post member => (List.mem_append.mp member).elim
    (left.accepted post) (right.accepted post)

/-- A page that goes through is posted as a whole. -/
theorem processPage_ok {users : UsersPage ν} {before : List (String × Option (Json ν))}
    (done : PagesDone answers selectedChildren timestamp before state)
    (processed : processPage answers selectedChildren timestamp page users state =
      (.ok (), after)) :
    PagesDone answers selectedChildren timestamp (before ++ users.users) after := by
  rw [processPage] at processed
  dsimp only at processed
  split at processed
  · cases processed
  · rename_i pageUsers middle classified
    rcases classifyUsers_ok classified with
      ⟨settled, complete, posts, submitted, counted, scanned⟩
    dsimp only at posts submitted counted scanned
    have doneScanned := done.scanned
    have doneSubmitted := done.submitted
    have allSettled : Settled selectedChildren (before ++ users.users) :=
      fun user member => (List.mem_append.mp member).elim (done.settled user) (settled user)
    split at processed
    · rcases submitPage_ok processed with
        ⟨more, logged, entries, accepted, count, sameComplete, sameIncomplete, sameScanned⟩
      have own : PostedExactly answers selectedChildren timestamp users.users more :=
        ⟨complete ▸ entries, accepted⟩
      refine ⟨allSettled, ?_, by omega, by omega⟩
      rw [logged, posts]
      exact done.posted.append own
    · rename_i none
      cases processed
      have empty := List.eq_nil_of_length_eq_zero (Nat.eq_zero_of_not_pos none)
      rw [empty] at complete counted
      have own : PostedExactly answers selectedChildren timestamp users.users [] :=
        ⟨complete ▸ List.Forall₂.nil, nofun⟩
      refine ⟨allSettled, ?_, by omega, ?_⟩
      · rw [posts, ← List.append_nil state.posts]
        exact done.posted.append own
      · rw [List.length_nil] at counted
        omega

/-- A page that stops the pass posts nothing where it has a pending user. -/
theorem processPage_stop {users : UsersPage ν} {stop : PassStop}
    (processed : processPage answers selectedChildren timestamp page users state =
      (.error stop, after)) :
    (∃ failure, stop = .failed failure) ∨
      stop = .pendingEncryption ∧ after.posts = state.posts ∧
        ∃ user ∈ users.users, IsPending selectedChildren user := by
  rw [processPage] at processed
  dsimp only at processed
  split at processed
  · rename_i other middle classified
    cases processed
    rcases classifyUsers_stop classified with ⟨posts, failed | ⟨pending, found⟩⟩
    · exact Or.inl failed
    · exact Or.inr ⟨pending, posts, found⟩
  · split at processed
    · exact Or.inl (submitPage_stop processed)
    · cases processed

/-- How a pass ends, in terms of its pages. -/
theorem processPages_cases {pages : List (UsersPage ν)} {before : List (UsersPage ν)}
    {result : Except PassStop Unit}
    (done : PagesDone answers selectedChildren timestamp (usersOf before) state)
    (processed : processPages answers selectedChildren timestamp page pages state =
      (result, after)) :
    result = .ok () ∧ answers.users.failure = none ∧
        PagesDone answers selectedChildren timestamp (usersOf (before ++ pages)) after ∨
      result = .error .pendingEncryption ∧
        (∃ earlier users later, before ++ pages = earlier ++ users :: later ∧
          (∃ user ∈ users.users, IsPending selectedChildren user) ∧
          PostedExactly answers selectedChildren timestamp (usersOf earlier) after.posts) ∨
      result = .error .cursorExpired ∧ answers.users.failure = some (.http 400) ∨
      ∃ failure, result = .error (.failed failure) := by
  induction pages generalizing page before state with
  | nil =>
      rw [processPages] at processed
      split at processed
      · rename_i none
        cases processed
        rw [List.append_nil]
        exact Or.inl ⟨rfl, none, done⟩
      · rename_i error failed
        split at processed
        · rename_i expired
          cases processed
          rw [expired.1] at failed
          exact Or.inr (Or.inr (Or.inl ⟨rfl, failed⟩))
        · cases processed
          exact Or.inr (Or.inr (Or.inr ⟨_, rfl⟩))
  | cons users rest ih =>
      rw [processPages] at processed
      split at processed
      · rename_i stop middle stopped
        cases processed
        rcases processPage_stop stopped with ⟨failure, rfl⟩ | ⟨rfl, posts, pending⟩
        · exact Or.inr (Or.inr (Or.inr ⟨_, rfl⟩))
        · refine Or.inr (Or.inl ⟨rfl, before, users, rest, rfl, pending, ?_⟩)
          rw [posts]
          exact done.posted
      · rename_i middle went
        have next := processPage_ok done went
        have joined : usersOf before ++ users.users = usersOf (before ++ [users]) := by
          simp [usersOf]
        rw [joined] at next
        rw [List.append_cons]
        exact ih next processed

end Pass

/-! ## Readiness -/

section Readiness

variable {selectedChildren : List SelectedEncryptedChild}

theorem scanPage_ok {users : List (String × Option (Json ν))} {pass after : ReadinessPass}
    (scanned : scanPage selectedChildren users pass = .ok after) :
    after.counts.potentiallyComplete = 0 ↔
      pass.counts.potentiallyComplete = 0 ∧ Settled selectedChildren users := by
  induction users generalizing pass with
  | nil =>
      cases scanned
      exact ⟨fun none => ⟨none, nofun⟩, And.left⟩
  | cons user rest ih =>
      rcases user with ⟨did, scoresEncr⟩
      rw [scanPage] at scanned
      cases own : classifyEncryptedUser did scoresEncr selectedChildren with
      | error violation => simp [own] at scanned
      | ok classification =>
          simp only [own] at scanned
          rw [ih scanned, settled_cons]
          cases classification <;> simp [EncryptionReadinessCounts.increment, own]

theorem scanPage_of_settled {users : List (String × Option (Json ν))}
    (settled : Settled selectedChildren users) (pass : ReadinessPass) :
    ∃ after, scanPage selectedChildren users pass = .ok after := by
  induction users generalizing pass with
  | nil => exact ⟨pass, rfl⟩
  | cons user rest ih =>
      rcases settled_cons.mp settled with ⟨⟨classification, own, _⟩, others⟩
      rw [scanPage, own]
      exact ih others _

theorem scanPages_ok {pages : List (UsersPage ν)} {failure : Option RequestError}
    {pass after : ReadinessPass} {lastRequestId last : Option String}
    (scanned : scanPages selectedChildren pages failure pass lastRequestId = (.ok after, last)) :
    failure = none ∧ (after.counts.potentiallyComplete = 0 ↔
      pass.counts.potentiallyComplete = 0 ∧ Settled selectedChildren (usersOf pages)) := by
  induction pages generalizing pass lastRequestId with
  | nil =>
      cases failure with
      | none =>
          cases scanned
          exact ⟨rfl, fun none => ⟨none, nofun⟩, And.left⟩
      | some error =>
          rw [scanPages] at scanned
          split at scanned <;> cases scanned
  | cons users rest ih =>
      rw [scanPages] at scanned
      split at scanned
      · cases scanned
      · rename_i middle page
        rcases ih scanned with ⟨finished, settled⟩
        refine ⟨finished, settled.trans ?_⟩
        rw [scanPage_ok page, usersOf_cons, settled_append, and_assoc]

theorem scanPages_of_settled {pages : List (UsersPage ν)}
    (settled : Settled selectedChildren (usersOf pages)) (pass : ReadinessPass)
    (lastRequestId : Option String) :
    ∃ after last, scanPages selectedChildren pages none pass lastRequestId = (.ok after, last) := by
  induction pages generalizing pass lastRequestId with
  | nil => exact ⟨pass, lastRequestId, rfl⟩
  | cons users rest ih =>
      rw [usersOf_cons, settled_append] at settled
      rcases scanPage_of_settled settled.1 { pass with pages := pass.pages + 1 } with
        ⟨middle, scanned⟩
      rw [scanPages, scanned]
      exact ih settled.2 _ _

theorem scanPage_stop {users : List (String × Option (Json ν))} {pass : ReadinessPass}
    {stop : ScanStop} (scanned : scanPage selectedChildren users pass = .error stop) :
    ∃ violation, stop = .violation violation := by
  induction users generalizing pass with
  | nil => cases scanned
  | cons user rest ih =>
      rcases user with ⟨did, scoresEncr⟩
      rw [scanPage] at scanned
      split at scanned
      · cases scanned
        exact ⟨_, rfl⟩
      · exact ih scanned

theorem expired_of_scanPages {pages : List (UsersPage ν)} {failure : Option RequestError}
    {pass : ReadinessPass} {lastRequestId last : Option String}
    (scanned : scanPages selectedChildren pages failure pass lastRequestId =
      (.error .cursorExpired, last)) :
    failure = some (.http 400) ∧ (pass.pages > 0 ∨ pages ≠ []) := by
  induction pages generalizing pass lastRequestId with
  | nil =>
      cases failure with
      | none => cases scanned
      | some error =>
          rw [scanPages] at scanned
          split at scanned
          · rename_i expired
            exact ⟨congrArg some expired.1, Or.inl expired.2⟩
          · cases scanned
  | cons users rest ih =>
      rw [scanPages] at scanned
      split at scanned
      · rename_i stop page
        cases scanned
        rcases scanPage_stop page with ⟨_, impossible⟩
        cases impossible
      · exact ⟨(ih scanned).1, Or.inr (List.cons_ne_nil _ _)⟩

/-- Only a read after the first page expires. -/
theorem expired_of_scanUsers {users : UserPages ν} {lastRequestId last : Option String}
    (scanned : scanUsers selectedChildren users lastRequestId = (.error .cursorExpired, last)) :
    users.failure = some (.http 400) ∧ users.pages ≠ [] := by
  rcases expired_of_scanPages scanned with ⟨failure, some | pages⟩
  · exact absurd some (Nat.lt_irrefl 0)
  · exact ⟨failure, pages⟩

/-- A poll whose cursor does not expire reports ready exactly if all users are settled. -/
theorem readinessPasses_ready_iff {passes : Nat → UserPages ν} {restartsLeft : Nat}
    {lastRequestId : Option String}
    (lasting : ¬ ((passes (CURSOR_RESTART_LIMIT - restartsLeft)).failure = some (.http 400) ∧
      (passes (CURSOR_RESTART_LIMIT - restartsLeft)).pages ≠ [])) :
    (∃ result, readinessPasses selectedChildren passes restartsLeft lastRequestId = .ok result ∧
        result.ready = true) ↔
      (passes (CURSOR_RESTART_LIMIT - restartsLeft)).failure = none ∧
        Settled selectedChildren
          (usersOf (passes (CURSOR_RESTART_LIMIT - restartsLeft)).pages) := by
  constructor
  · intro ⟨result, polled, ready⟩
    rw [readinessPasses] at polled
    split at polled
    · rename_i pass last scanned
      cases polled
      rcases scanPages_ok scanned with ⟨finished, settled⟩
      exact ⟨finished, (settled.mp (of_decide_eq_true ready)).2⟩
    · rename_i last scanned
      exact absurd (expired_of_scanUsers scanned) lasting
    · cases polled
    · cases polled
  · intro ⟨finished, settled⟩
    rcases scanPages_of_settled settled ⟨⟨0, 0, 0⟩, 0, 0⟩ lastRequestId with
      ⟨pass, last, scanned⟩
    have all := (scanPages_ok scanned).2.mpr ⟨rfl, settled⟩
    rw [readinessPasses, scanUsers, finished, scanned]
    exact ⟨_, rfl, decide_eq_true all⟩

end Readiness

/-! ## Passes -/

section Passes

variable {answers : PassAnswers ν} {passes : Nat → PassAnswers ν}
  {selectedChildren : List SelectedEncryptedChild} {timestamp : String} {restartsLeft : Nat}
  {state after : SubmissionState} {outcome : SubmitCustomEncryptedScoresResult}

/-- How a pass ends. -/
theorem runProcessingPass_cases {result : Except PassStop Unit}
    (ran : runProcessingPass answers selectedChildren timestamp state = (result, after)) :
    result = .ok () ∧ answers.users.failure = none ∧
        PagesDone answers selectedChildren timestamp (usersOf answers.users.pages) after ∨
      result = .error .pendingEncryption ∧
        (∃ earlier users later, answers.users.pages = earlier ++ users :: later ∧
          (∃ user ∈ users.users, IsPending selectedChildren user) ∧
          PostedExactly answers selectedChildren timestamp (usersOf earlier) after.posts) ∨
      result = .error .cursorExpired ∧ answers.users.failure = some (.http 400) ∧
        answers.users.pages ≠ [] ∨
      ∃ failure, result = .error (.failed failure) := by
  have start : PagesDone answers selectedChildren timestamp (usersOf [])
      { state with
        pass := {}
        posts := [] } :=
    ⟨nofun, ⟨.nil, nofun⟩, rfl, rfl⟩
  rw [runProcessingPass] at ran
  rcases processPages_cases start ran with finished | pending | ⟨expired, failure⟩ | failed
  · exact Or.inl finished
  · exact Or.inr (Or.inl pending)
  · refine Or.inr (Or.inr (Or.inl ⟨expired, failure, ?_⟩))
    intro none
    rw [none, processPages, failure] at ran
    cases ran
    cases expired
  · exact Or.inr (Or.inr (Or.inr failed))

/-- The pass that an invocation starts with is its last one, or its cursor expires. -/
theorem submissionPasses_step
    (returned : submissionPasses passes selectedChildren timestamp restartsLeft state =
      (.ok outcome, after)) :
    runProcessingPass (passes (CURSOR_RESTART_LIMIT - restartsLeft)) selectedChildren timestamp
          state = (.ok (), after) ∧
        (∃ result, outcome = .submitted result ∧
          result.cursorRestarts = CURSOR_RESTART_LIMIT - restartsLeft ∧
          result.complete = after.pass.complete ∧ result.incomplete = after.pass.incomplete ∧
          result.scannedUsers = after.pass.scannedUsers ∧
          result.submitted = after.pass.submitted) ∨
      runProcessingPass (passes (CURSOR_RESTART_LIMIT - restartsLeft)) selectedChildren timestamp
          state = (.error .pendingEncryption, after) ∧
        (∃ result, outcome = .pendingEncryption result ∧
          result.cursorRestarts = CURSOR_RESTART_LIMIT - restartsLeft) ∨
      ∃ left middle, restartsLeft = left + 1 ∧
        runProcessingPass (passes (CURSOR_RESTART_LIMIT - restartsLeft)) selectedChildren timestamp
          state = (.error .cursorExpired, middle) ∧
        submissionPasses passes selectedChildren timestamp left middle = (.ok outcome, after) := by
  rw [submissionPasses] at returned
  split at returned
  · rename_i last ran
    cases returned
    exact Or.inl ⟨ran, _, rfl, rfl, rfl, rfl, rfl, rfl⟩
  · rename_i last ran
    cases returned
    exact Or.inr (Or.inl ⟨ran, _, rfl, rfl⟩)
  · rename_i middle ran
    cases restartsLeft with
    | zero => cases returned
    | succ left => exact Or.inr (Or.inr ⟨left, middle, rfl, ran, returned⟩)
  · cases returned

/-- What an invocation returns is what its last pass has done. -/
theorem submissionPasses_cases
    (returned : submissionPasses passes selectedChildren timestamp restartsLeft state =
      (.ok outcome, after)) :
    (∃ result, outcome = .submitted result ∧
        (passes result.cursorRestarts).users.failure = none ∧
        PagesDone (passes result.cursorRestarts) selectedChildren timestamp
          (usersOf (passes result.cursorRestarts).users.pages) after ∧
        result.complete = after.pass.complete ∧ result.incomplete = after.pass.incomplete ∧
        result.scannedUsers = after.pass.scannedUsers ∧
        result.submitted = after.pass.submitted) ∨
      ∃ result, outcome = .pendingEncryption result ∧
        ∃ earlier users later,
          (passes result.cursorRestarts).users.pages = earlier ++ users :: later ∧
          (∃ user ∈ users.users, IsPending selectedChildren user) ∧
          PostedExactly (passes result.cursorRestarts) selectedChildren timestamp
            (usersOf earlier) after.posts := by
  induction restartsLeft using Nat.strongRecOn generalizing state with
  | ind restartsLeft ih =>
      rcases submissionPasses_step returned with
        ⟨ran, result, same, restarts, counts⟩ | ⟨ran, result, same, restarts⟩ |
        ⟨left, middle, less, _, later⟩
      · left
        refine ⟨result, same, ?_⟩
        rw [restarts]
        rcases runProcessingPass_cases ran with
          ⟨_, finished, done⟩ | ⟨other, _⟩ | ⟨other, _⟩ | ⟨_, other⟩
        · exact ⟨finished, done, counts⟩
        · cases other
        · cases other
        · cases other
      · right
        refine ⟨result, same, ?_⟩
        rw [restarts]
        rcases runProcessingPass_cases ran with
          ⟨other, _⟩ | ⟨_, pending⟩ | ⟨other, _⟩ | ⟨_, other⟩
        · cases other
        · exact pending
        · cases other
        · cases other
      · exact ih left (less ▸ Nat.lt_succ_self left) later

/-- Where no cursor expires, a pass that does not fail ends without a pending user exactly if
all users are settled. -/
theorem submissionPasses_settled_iff
    (lasting : ¬ ((passes (CURSOR_RESTART_LIMIT - restartsLeft)).users.failure =
      some (.http 400) ∧ (passes (CURSOR_RESTART_LIMIT - restartsLeft)).users.pages ≠ []))
    (returned : submissionPasses passes selectedChildren timestamp restartsLeft state =
      (.ok outcome, after)) :
    (∀ result, outcome ≠ .pendingEncryption result) ↔
      (passes (CURSOR_RESTART_LIMIT - restartsLeft)).users.failure = none ∧
        Settled selectedChildren
          (usersOf (passes (CURSOR_RESTART_LIMIT - restartsLeft)).users.pages) := by
  rcases submissionPasses_step returned with
    ⟨ran, result, same, _⟩ | ⟨ran, result, same, _⟩ | ⟨_, _, _, ran, _⟩
  · rcases runProcessingPass_cases ran with
      ⟨_, finished, done⟩ | ⟨other, _⟩ | ⟨other, _⟩ | ⟨_, other⟩
    · refine iff_of_true (fun _ pending => ?_) ⟨finished, done.settled⟩
      rw [same] at pending
      cases pending
    · cases other
    · cases other
    · cases other
  · rcases runProcessingPass_cases ran with
      ⟨other, _⟩ | ⟨_, earlier, users, later, split, ⟨user, member, pending⟩, _⟩ | ⟨other, _⟩ |
      ⟨_, other⟩
    · cases other
    · refine iff_of_false (fun none => none result same) fun ⟨_, settled⟩ => ?_
      rw [split] at settled
      have listed : user ∈ usersOf (earlier ++ users :: later) := by
        simp [usersOf, member]
      rcases settled user listed with ⟨classification, own, notPending⟩
      have held := classifyEncryptedUser_pending.mpr pending
      exact notPending (Except.ok.inj (own.symm.trans held))
    · cases other
    · cases other
  · rcases runProcessingPass_cases ran with
      ⟨other, _⟩ | ⟨other, _⟩ | ⟨_, expired⟩ | ⟨_, other⟩
    · cases other
    · cases other
    · exact absurd expired lasting
    · cases other

end Passes

/-! ## Main result -/

section Activity

variable [JsNumber ν]

/-- The children that the inputs select. -/
def Selects (inputs : List (PresetInput ν)) (selectedChildren : List SelectedEncryptedChild) :
    Prop :=
  ∃ children, parseCustomScoreChildren inputs = .ok children ∧
    resolveSelectedEncryptedChildren children = .ok selectedChildren

theorem mapError_eq_ok {ε δ α : Type} {first : Except ε α} {convert : ε → δ} {value : α}
    (succeeded : first.mapError convert = .ok value) : first = .ok value := by
  cases first with
  | error failure => cases succeeded
  | ok result =>
      cases succeeded
      rfl

variable [Sub ν] [Mul ν] [Div ν] [NatCast ν] [DecidableEq ν]

theorem selects_of_prepared {definition : AlgorithmDefinition} {method : String}
    {input : SubmitCustomEncryptedScoresInput ν}
    {selectedChildren : List SelectedEncryptedChild}
    (prepared : prepareSubmission definition method input = .ok selectedChildren) :
    Selects input.algorithmPresetFrozen.inputs selectedChildren := by
  rw [prepareSubmission] at prepared
  split at prepared
  · cases prepared
  · rcases Result.bind_eq_ok.mp prepared with ⟨children, parsed, prepared⟩
    rcases Result.bind_eq_ok.mp prepared with ⟨selected, resolved, prepared⟩
    rcases Result.bind_eq_ok.mp prepared with ⟨_, _, prepared⟩
    rcases Result.bind_eq_ok.mp prepared with ⟨_, _, prepared⟩
    cases prepared
    exact ⟨children, mapError_eq_ok parsed, mapError_eq_ok resolved⟩

end Activity

private def votingField (status : String) (ciphertext : Json Rat) : Option (Json Rat) :=
  some (.obj [("seal-metadata", .str "/seal"), ("voting_engagement_encr",
    .obj [("status", .str status), ("ciphertext", ciphertext)])])

/-- A complete user, and a pending one on the next page. -/
private def twoPages : UserPages Rat where
  pages :=
    [⟨[("did:a", votingField "encrypted" (.str "c"))], none⟩,
      ⟨[("did:b", votingField "pending_encryption" .null)], none⟩]
  failure := none

/-- DeepID rejects every entry. -/
private def rejectingAnswers : PassAnswers Rat where
  users := twoPages
  getSealMetadata _ _ := .ok ⟨"key"⟩
  registerSealMetadata _ _ := .ok ()
  evaluateUser _ := .ok "score"
  postScores _ _ := .ok ⟨fun _ => some "Invalid ciphertext", none⟩

private def votingInput : SubmitCustomEncryptedScoresInput Rat where
  snapshotId := "s"
  algorithmPresetFrozen :=
    { key := "custom_score"
      version := "1.0.0"
      inputs := [⟨"sub_algorithms", some (.arr [.obj
        [("algorithm_key", .str "voting_engagement"), ("algorithm_version", .str "1.0.0"),
          ("weight", .num 1), ("inputs", .arr [])]])⟩] }
  observations := [("voting_engagement", ⟨"observed_min_max", 5, 5⟩)]
  timestamp := "2026-01-01T00:00:00Z"

private def combinedDefinition : AlgorithmDefinition where
  key := "custom_score"
  version := "1.0.0"
  kind := "combined"

end Reputo.CustomScore
