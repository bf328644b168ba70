import Mathlib.Algebra.Order.BigOperators.Group.List
import Reputo.Community.DiscordReads

/-!
# Runs of the Discord crawl

Wherever a crawl of a guild is interrupted and resumed, it has read the rows of the window when
an attempt ends, and every attempt that is not interrupted ends.
-/

namespace Reputo.Community

open Reputo.Library

namespace Discord

section Runs

variable {channelId : String} (collation : Collation)
  (cursorText : CursorText DiscordResourceCursor) (window : CommunityFetchWindow)

/-- An attempt from a cursor. -/
def attemptFrom (channelId : String) (fuel : Nat) (cursor : Option String) :
    DiscordCrawl (Except CommunityApiError CommunityResourceCoverage) :=
  iterateRecords collation cursorText fuel ⟨channelId, window, cursor⟩

abbrev GuildRun (channelId : String) :=
  CrawlRun (Guild channelId) DiscordRequest CommunityRecordBatch
    (Except CommunityApiError CommunityResourceCoverage) Unit

/-- One step of a crawl; the guild does not change. -/
def performGuild (channelId : String) (fuel : Nat) :
    GuildRun channelId → CrawlAction Empty → Option (GuildRun channelId) :=
  CrawlRun.perform (attemptFrom collation cursorText window channelId fuel) (·.cursor)
    Guild.answer (fun _ _ => none) (fun _ => ()) (fun _ _ _ => ())

/-- The crawls of a guild's channel, which may be interrupted and resumed anywhere. -/
def guildCrawl (fuel : Nat) (guild : Guild channelId) :
    System (GuildRun channelId) (CrawlAction Empty) :=
  CrawlRun.system (attemptFrom collation cursorText window channelId fuel) (·.cursor)
    Guild.answer (fun _ _ => none) (fun _ => ()) (fun _ _ _ => ()) guild

/-- The run ends complete when it is not interrupted, and a run that ended has read the window. -/
structure ReadsWindow (fuel : Nat) (guild : Guild channelId) (run : GuildRun channelId) :
    Prop where
  ends : ∃ steps, (System.performAll (performGuild collation cursorText window channelId fuel) run
    (List.replicate steps .proceed)).result = some (.ok (coverage channelId .complete none))
  complete : ∀ result, run.result = some result → result = .ok (coverage channelId .complete none)
  rows : ∀ result, run.result = some result →
    ∀ row, row ∈ keptRows run.yielded ↔ row ∈ guild.windowRows window

variable {collation cursorText window} {guild : Guild channelId}

theorem exists_enough (guild : Guild channelId) :
    ∃ enough, ∀ fuel ≥ enough, guild.Enough fuel := by
  refine ⟨(guild.places.map fun id => (guild.messages id).length).sum +
    guild.archivedThreads.length + 1, ?_⟩
  intro fuel more
  constructor
  · intro id place
    have listed : (guild.messages id).length ∈
        guild.places.map fun id => (guild.messages id).length :=
      List.mem_map.mpr ⟨id, place, rfl⟩
    have within := List.single_le_sum (fun _ _ => Nat.zero_le _) _ listed
    omega
  · omega

theorem archivedBefore_none : guild.archivedBefore none = guild.archivedThreads :=
  List.filter_eq_self.mpr fun _ _ => rfl

/-- From the beginning, all rows of the window are left. -/
theorem windowRows_subset :
    guild.windowRows window ⊆ (guild.ledger window cursorText).left none := by
  rintro row ⟨id, place, read⟩
  rcases List.mem_cons.mp place with rfl | thread
  · left
    change row ∈ guild.rowsBefore window id
      (snowflakeOf (snowflakeForTimestamp window.finish))
    rw [snowflakeOf_finish]
    exact guild.rowsOf_subset_rowsBefore id read
  · right
    refine ⟨id, ?_, read⟩
    change id ∈ guild.activePublic ++ (guild.archivedBefore none).map (·.id)
    rw [archivedBefore_none]
    exact thread

/-- A crawl is complete wherever it was interrupted and resumed. -/
theorem guildCrawl_readsWindow (collation : Collation)
    (cursorText : CursorText DiscordResourceCursor) (window : CommunityFetchWindow)
    (guild : Guild channelId) :
    ∃ enough, ∀ fuel ≥ enough, ∀ run : GuildRun channelId,
      (guildCrawl collation cursorText window fuel guild).Reachable (fun _ _ => True) run →
      ReadsWindow collation cursorText window fuel guild run := by
  rcases exists_enough guild with ⟨enough, bound⟩
  refine ⟨enough, fun fuel more run reachable => ?_⟩
  have reads := @Guild.readsLeft_iterateRecords channelId guild window cursorText fuel
    (bound fuel more) collation
  have still : ∀ event : Empty, (none : Option (Guild channelId)) = none := fun _ => rfl
  have settling := settling_of_reachable reads still reachable
  refine ⟨?_, ?_, ?_⟩
  · rcases proceeds_to_end (·.cursor) (fun _ => ()) (fun _ _ _ => ()) run with ⟨steps, ended⟩
    rcases settling.owed with ⟨_, _, left⟩
    refine ⟨steps, ended.trans (congrArg some ?_)⟩
    rw [settling.unchanged]
    exact left.ends
  · intro result ended
    exact (settling.read ended).1
  · intro result ended row
    rcases settling.read ended with ⟨_, all, fine⟩
    constructor
    · intro kept
      rcases List.mem_flatMap.mp kept with ⟨batch, member, read⟩
      rcases fine batch member with ⟨_, _, under⟩
      exact under.records row read
    · intro owed
      rcases all (windowRows_subset owed) with ⟨batch, member, read⟩
      exact List.mem_flatMap.mpr ⟨batch, member, read⟩

end Runs

/-! ## A small guild -/

/-- The sign and the digits of a time. -/
private def timeText : Option Int → List Char
  | none => []
  | some (.ofNat time) => '+' :: Nat.toDigits 10 time
  | some (.negSucc time) => '-' :: Nat.toDigits 10 time

private def timeOf : List Char → Option Int
  | '+' :: digits => some (.ofNat (Nat.ofDigitChars 10 digits 0))
  | '-' :: digits => some (.negSucc (Nat.ofDigitChars 10 digits 0))
  | _ => none

private theorem timeOf_timeText (time : Option Int) : timeOf (timeText time) = time := by
  rcases time with _ | time
  · rfl
  · cases time with
    | ofNat time => rw [timeText, timeOf, Nat.ofDigitChars_ten_toDigits]
    | negSucc time => rw [timeText, timeOf, Nat.ofDigitChars_ten_toDigits]

/-- An id behind as many marks as it has characters. -/
private def idText : Option String → List Char
  | none => ['_']
  | some id => List.replicate id.toList.length '.' ++ '>' :: id.toList

private def readId : List Char → Option String × List Char
  | '_' :: rest => (none, rest)
  | text =>
      let marks := (text.takeWhile (· == '.')).length
      let rest := text.drop (marks + 1)
      (some (String.ofList (rest.take marks)), rest.drop marks)

private theorem readId_idText (id : Option String) (rest : List Char) :
    readId (idText id ++ rest) = (id, rest) := by
  cases id with
  | none => rfl
  | some id =>
      have marks : ((idText (some id) ++ rest).takeWhile (· == '.')).length = id.toList.length := by
        simp [idText]
      have after : (idText (some id) ++ rest).drop (id.toList.length + 1) = id.toList ++ rest := by
        simp [idText, List.drop_append]
      have unblank : ∀ others, idText (some id) ++ rest ≠ '_' :: others := by
        intro others same
        cases characters : id.toList with
        | nil => simp [idText, characters] at same
        | cons first more => simp [idText, characters, List.replicate_succ] at same
      rw [readId]
      · simp [marks, after]
      · exact unblank

/-- Cursors as a letter for the phase, the id and the time. -/
private def phaseText : CursorText DiscordResourceCursor where
  stringify cursor := String.ofList
    ((match cursor.phase with
      | .messages => 'm'
      | .threads => 't') :: (idText cursor.before ++ timeText cursor.archivedBefore))
  parse text :=
    let rest (phase : DiscordCrawlPhase) (after : List Char) : DiscordResourceCursor :=
      ⟨phase, (readId after).1, timeOf (readId after).2⟩
    match text.toList with
    | 'm' :: after => some (rest .messages after)
    | 't' :: after => some (rest .threads after)
    | _ => none
  parse_stringify := by
    intro ⟨phase, before, archivedBefore⟩
    cases phase <;> simp [readId_idText, timeOf_timeText]

/-- A message of a member, some milliseconds after the first snowflake. -/
private def sentAfter (milliseconds : Nat) (userId : String) : GuildMessage where
  snowflake := milliseconds <<< 22
  raw := {
    id := some (toString (milliseconds <<< 22))
    type := some DiscordMessageType.default
    timestamp := some (snowflakeMs (milliseconds <<< 22))
    author := ⟨some userId, false⟩
    mentions := []
    reactions := []
    referenced_message := none }
  named := rfl
  dated := rfl

private def quietThread : ArchivedThread "general" where
  raw := ⟨some "old", some DiscordThreadType.publicThread, some "general",
    some ((discordEpochMs + 4) * 1000)⟩
  id := "old"
  archivedAt := (discordEpochMs + 4) * 1000
  crawlable := by decide

/-- A channel with two messages, one of them from before the window, an active thread and an
archived one. -/
private def smallGuild : Guild "general" where
  channel := ⟨some "general", some "guild", some 0⟩
  channelMeta := ⟨"guild", .text⟩
  supported := rfl
  messages id :=
    if id = "general" then [sentAfter 3 "a", sentAfter 0 "b"]
    else if id = "old" ∨ id = "new" then [sentAfter 2 "c"]
    else []
  newestFirst id := by
    split
    · decide
    · split
      · exact List.pairwise_singleton _ _
      · exact .nil
  activeThreads :=
    [⟨some "new", some DiscordThreadType.publicThread, some "general", none⟩]
  archivedThreads := [quietThread]
  lastArchivedFirst := List.pairwise_singleton _ _
  quiet := by decide
  forum kind := by cases kind

private def smallWindow : CommunityFetchWindow := ⟨discordEpochMs + 1, discordEpochMs + 5⟩

/-- A crawl that is interrupted after its first batch reads the window. -/
theorem smallGuild_readsWindow :
    ∃ fuel run, (guildCrawl .codepoint phaseText smallWindow fuel smallGuild).Reachable
        (fun _ _ => True) run ∧
      run.result = some (.ok (coverage "general" .complete none)) ∧
      ∀ row, row ∈ keptRows run.yielded ↔ row ∈ smallGuild.windowRows smallWindow := by
  rcases guildCrawl_readsWindow .codepoint phaseText smallWindow smallGuild with ⟨enough, reads⟩
  have begun : (guildCrawl .codepoint phaseText smallWindow enough smallGuild).Reachable
      (fun _ _ => True) (CrawlRun.continueAfter
        (attemptFrom .codepoint phaseText smallWindow "general" enough) (·.cursor) (fun _ => ())
        smallGuild []) :=
    .start rfl
  have along {actions : List (CrawlAction Empty)} {run : GuildRun "general"} :
      System.AllAlong (performGuild .codepoint phaseText smallWindow "general" enough)
        (fun _ _ => True ∧ True) run actions :=
    .of_always fun _ _ => ⟨trivial, trivial⟩
  have interrupted := System.reachable_performAll begun
    (@along (List.replicate 4 .proceed ++ [.resume 1]) _)
  rcases (reads enough le_rfl _ interrupted).ends with ⟨steps, ended⟩
  have after := System.reachable_performAll interrupted
    (@along (List.replicate steps .proceed) _)
  exact ⟨enough, _, after, ended, (reads enough le_rfl _ after).rows _ ended⟩

end Discord

end Reputo.Community
