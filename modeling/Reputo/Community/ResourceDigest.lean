import Mathlib.Data.Fintype.Option
import Reputo.Library.JsText
import Reputo.Library.Query

/-!
# The digest of a resource listing

A listing is hashed as one text, with a line for each of its resources in the order of their
identifiers.  The fields of a line are separated by colons and nothing is escaped, so that a name
can go on as the end of its line and the start of others.
-/

namespace Reputo.Community.ResourceDigest

open Reputo.Library

/-! ## Resources -/

inductive CommunityResourceKind where
  | text
  | announcement
  | forum
  | repository
  deriving DecidableEq, Repr

def CommunityResourceKind.toText : CommunityResourceKind → String
  | .text => "text"
  | .announcement => "announcement"
  | .forum => "forum"
  | .repository => "repository"

inductive CommunityResourceAccessIssue where
  | missingViewChannel
  | missingReadHistory
  | issuesDisabled
  | notMember
  deriving DecidableEq, Repr

instance : Fintype CommunityResourceAccessIssue where
  elems := {.missingViewChannel, .missingReadHistory, .issuesDisabled, .notMember}
  complete issue := by cases issue <;> decide

def CommunityResourceAccessIssue.toText : CommunityResourceAccessIssue → String
  | .missingViewChannel => "missing_view_channel"
  | .missingReadHistory => "missing_read_history"
  | .issuesDisabled => "issues_disabled"
  | .notMember => "not_member"

structure CommunityResource where
  id : String
  name : String
  kind : CommunityResourceKind
  readable : Bool
  accessIssue : Option CommunityResourceAccessIssue
  deriving DecidableEq, Repr

/-- A listing of resources with different identifiers. -/
structure Listing where
  resources : List CommunityResource
  idsDiffer : (resources.map (·.id)).Nodup

/-! ## The digest -/

def verdictOf (readable : Bool) (accessIssue : Option CommunityResourceAccessIssue) : String :=
  if readable then "1" else "0:" ++ (accessIssue.map (·.toText)).getD ""

namespace CommunityResource

variable (resource : CommunityResource)

def verdict : String := verdictOf resource.readable resource.accessIssue

/-- What a resource adds to the hashed text. -/
def line : String :=
  resource.id ++ ":" ++ resource.kind.toText ++ ":" ++ resource.name ++ ":" ++ resource.verdict ++
    "\n"

end CommunityResource

section Digest

variable {D : Type} (localeCompare : RowOrder String) (sha256 : String → D)

def sorted (resources : List CommunityResource) : List CommunityResource :=
  (localeCompare.comap (·.id)).orderBy resources

def digestCommunityResources (resources : List CommunityResource) : D :=
  sha256 (String.join ((sorted localeCompare resources).map (·.line)))

/-! ## Names chosen by users -/

/-- Listings of the same resources. -/
def SameResources (listing other : Listing) : Prop :=
  ∀ resource, resource ∈ listing.resources ↔ resource ∈ other.resources

def CommunityResource.named (names : String → String) (resource : CommunityResource) :
    CommunityResource :=
  { resource with name := names resource.id }

/-- A listing with other names. -/
def Listing.named (names : String → String) (listing : Listing) : Listing where
  resources := listing.resources.map (·.named names)
  idsDiffer := by
    rw [List.map_map]
    exact listing.idsDiffer

/-- Under all names, the digests are the same exactly where the resources are. -/
def SeesEveryChange (listing other : Listing) : Prop :=
  ∀ names names' : String → String,
    digestCommunityResources localeCompare sha256 (listing.named names).resources =
        digestCommunityResources localeCompare sha256 (other.named names').resources ↔
      SameResources (listing.named names) (other.named names')

/-! ## Conditions -/

/-- A resource without its name. -/
def CommunityResource.unnamed (resource : CommunityResource) : CommunityResource :=
  resource.named fun _ => ""

/-- Listings of the same resources up to names. -/
def SameUpToNames (listing other : Listing) : Prop :=
  (listing.resources.map (·.unnamed)).Perm (other.resources.map (·.unnamed))

/-- What is before the name of a resource. -/
def CommunityResource.mark (resource : CommunityResource) : List Char :=
  (resource.id ++ ":" ++ resource.kind.toText ++ ":").toList

/-- Listings of the same resources up to names have at most one resource; of others one is empty,
or none of their first resources begins as the other one does, or their last resources have
different verdicts. -/
structure ToldApart (listing other : Listing) : Prop where
  alike : SameUpToNames listing other → listing.resources.length ≤ 1
  apart : ¬SameUpToNames listing other →
    ∀ first ∈ (sorted localeCompare listing.resources).head?,
    ∀ opening ∈ (sorted localeCompare other.resources).head?,
    ∀ last ∈ (sorted localeCompare listing.resources).getLast?,
    ∀ closing ∈ (sorted localeCompare other.resources).getLast?,
      (¬first.mark <+: opening.mark ∧ ¬opening.mark <+: first.mark) ∨
        last.verdict ≠ closing.verdict

end Digest

/-! ## Lines -/

/-- What is after the name of a resource. -/
def CommunityResource.ending (resource : CommunityResource) : List Char :=
  (":" ++ resource.verdict ++ "\n").toList

/-- The text of resources in order, under names. -/
def spelled (names : String → String) (resources : List CommunityResource) : List Char :=
  resources.flatMap fun resource =>
    resource.mark ++ (names resource.id).toList ++ resource.ending

variable {names names' : String → String} {resource : CommunityResource}
variable {resources others : List CommunityResource}

@[simp] theorem spelled_nil : spelled names [] = [] := rfl

@[simp] theorem spelled_cons : spelled names (resource :: resources) =
    resource.mark ++ (names resource.id).toList ++ resource.ending ++ spelled names resources :=
  rfl

@[simp] theorem spelled_append :
    spelled names (resources ++ others) = spelled names resources ++ spelled names others :=
  List.flatMap_append

theorem spelled_congr (agree : ∀ resource ∈ resources, names resource.id = names' resource.id) :
    spelled names resources = spelled names' resources :=
  List.flatMap_congr fun resource member => by rw [agree resource member]

theorem toList_line : (resource.named names).line.toList =
    resource.mark ++ (names resource.id).toList ++ resource.ending := by
  simp only [CommunityResource.line, CommunityResource.named, CommunityResource.mark,
    CommunityResource.ending, CommunityResource.verdict, String.toList_append, List.append_assoc]

theorem toList_join_line (resources : List CommunityResource) :
    (String.join ((resources.map (·.named names)).map (·.line))).toList =
      spelled names resources := by
  rw [String.toList_join, List.map_map, List.flatMap_map, spelled]
  exact List.flatMap_congr fun resource _ => toList_line

theorem sorted_named (localeCompare : RowOrder String) (resources : List CommunityResource) :
    sorted localeCompare (resources.map (·.named names)) =
      (sorted localeCompare resources).map (·.named names) :=
  (RowOrder.map_orderBy (localeCompare.comap CommunityResource.id)
    (fun resource => resource.named names) (fun _ _ => rfl) resources).symm

/-- The digests are the same exactly where the texts of the sorted resources are. -/
theorem digest_eq_iff {D : Type} (localeCompare : RowOrder String) {sha256 : String → D}
    (injective : Function.Injective sha256) (listing other : Listing) :
    digestCommunityResources localeCompare sha256 (listing.named names).resources =
        digestCommunityResources localeCompare sha256 (other.named names').resources ↔
      spelled names (sorted localeCompare listing.resources) =
        spelled names' (sorted localeCompare other.resources) := by
  rw [digestCommunityResources, digestCommunityResources, injective.eq_iff, ← String.toList_inj,
    Listing.named, Listing.named, sorted_named, sorted_named, toList_join_line, toList_join_line]

theorem mark_ne_nil : resource.mark ≠ [] := by
  simp [CommunityResource.mark]

theorem spelled_eq_nil : spelled names resources = [] ↔ resources = [] := by
  cases resources with
  | nil => simp
  | cons resource rest => simp [mark_ne_nil]

/-- What is after a name tells the verdict. -/
theorem verdict_of_ending_suffix {one other : CommunityResource}
    (suffix : one.ending <:+ other.ending) : one.verdict = other.verdict := by
  have all : ∀ readable readable' issue issue',
      (":" ++ verdictOf readable issue ++ "\n").toList <:+
        (":" ++ verdictOf readable' issue' ++ "\n").toList →
      verdictOf readable issue = verdictOf readable' issue' := by decide +kernel
  exact all _ _ _ _ suffix

theorem verdict_of_append {one other : CommunityResource} {front front' : List Char}
    (same : front ++ one.ending = front' ++ other.ending) : one.verdict = other.verdict := by
  have first : one.ending <:+ front' ++ other.ending := ⟨front, same⟩
  rcases List.suffix_or_suffix_of_suffix first ⟨front', rfl⟩ with suffix | suffix
  · exact verdict_of_ending_suffix suffix
  · exact (verdict_of_ending_suffix suffix).symm

theorem ending_eq_iff {one other : CommunityResource} :
    one.ending = other.ending ↔ one.verdict = other.verdict := by
  constructor
  · intro same
    exact verdict_of_ending_suffix (same ▸ List.suffix_refl _)
  · intro same
    rw [CommunityResource.ending, CommunityResource.ending, same]

/-! ## Listings that are told apart -/

theorem eq_append_getLast {last : CommunityResource} (found : last ∈ resources.getLast?) :
    ∃ front, resources = front ++ [last] :=
  List.getLast?_eq_some_iff.mp found

/-- Texts of two listings differ where their first marks or their last verdicts tell them apart. -/
theorem spelled_ne {first opening last closing : CommunityResource}
    (isFirst : first ∈ resources.head?) (isOpening : opening ∈ others.head?)
    (isLast : last ∈ resources.getLast?) (isClosing : closing ∈ others.getLast?)
    (apart : (¬first.mark <+: opening.mark ∧ ¬opening.mark <+: first.mark) ∨
      last.verdict ≠ closing.verdict) :
    spelled names resources ≠ spelled names' others := by
  intro same
  rcases apart with ⟨notBefore, notAfter⟩ | verdicts
  · rcases List.head?_eq_some_iff.mp isFirst with ⟨rest, rfl⟩
    rcases List.head?_eq_some_iff.mp isOpening with ⟨rest', rfl⟩
    simp only [spelled_cons, List.append_assoc] at same
    rcases List.prefix_or_prefix_of_prefix ⟨_, same⟩ (List.prefix_append opening.mark _) with
      before | after
    · exact notBefore before
    · exact notAfter after
  · rcases eq_append_getLast isLast with ⟨front, rfl⟩
    rcases eq_append_getLast isClosing with ⟨front', rfl⟩
    simp only [spelled_append, spelled_cons, spelled_nil, List.append_nil,
      ← List.append_assoc] at same
    exact verdicts (verdict_of_append same)

/-! ## Resources up to names -/

theorem Listing.nodup (listing : Listing) : listing.resources.Nodup :=
  listing.idsDiffer.of_map _

theorem sameResources_iff_perm {listing other : Listing} :
    SameResources listing other ↔ listing.resources.Perm other.resources :=
  (List.perm_ext_iff_of_nodup listing.nodup other.nodup).symm

theorem map_unnamed_named (names : String → String) (resources : List CommunityResource) :
    (resources.map (·.named names)).map (·.unnamed) = resources.map (·.unnamed) := by
  rw [List.map_map]
  rfl

theorem map_named_unnamed (resources : List CommunityResource) :
    (resources.map (·.unnamed)).map (·.named names) = resources.map (·.named names) := by
  rw [List.map_map]
  rfl

theorem sameUpToNames_of_same {listing other : Listing}
    (same : SameResources (listing.named names) (other.named names')) :
    SameUpToNames listing other := by
  have perm := (sameResources_iff_perm.mp same).map CommunityResource.unnamed
  have first := map_unnamed_named names listing.resources
  have second := map_unnamed_named names' other.resources
  rwa [Listing.named, Listing.named, first, second] at perm

/-- Resources that are the same up to names are the same under one naming. -/
theorem same_of_sameUpToNames {listing other : Listing} (same : SameUpToNames listing other)
    (names : String → String) : SameResources (listing.named names) (other.named names) := by
  rw [sameResources_iff_perm]
  have perm := same.map fun resource => resource.named names
  rwa [map_named_unnamed, map_named_unnamed] at perm

theorem perm_sorted (localeCompare : RowOrder String) (resources : List CommunityResource) :
    (sorted localeCompare resources).Perm resources :=
  RowOrder.perm_orderBy _ resources

theorem sorted_ids_nodup (localeCompare : RowOrder String) (listing : Listing) :
    ((sorted localeCompare listing.resources).map (·.id)).Nodup :=
  ((perm_sorted localeCompare listing.resources).map _).nodup_iff.mpr listing.idsDiffer

theorem sorted_sameUpToNames (localeCompare : RowOrder String) {listing other : Listing}
    (same : SameUpToNames listing other) :
    ((sorted localeCompare listing.resources).map (·.unnamed)).Perm
      ((sorted localeCompare other.resources).map (·.unnamed)) :=
  (((perm_sorted localeCompare _).map _).trans same).trans
    ((perm_sorted localeCompare _).map _).symm

theorem unnamed_parts {one other : CommunityResource} (same : one.unnamed = other.unnamed) :
    one.id = other.id ∧ one.mark = other.mark ∧ one.ending = other.ending := by
  have ids : one.unnamed.id = other.unnamed.id := by rw [same]
  have marks : one.unnamed.mark = other.unnamed.mark := by rw [same]
  have endings : one.unnamed.ending = other.unnamed.ending := by rw [same]
  exact ⟨ids, marks, endings⟩

theorem named_eq_iff {one other : CommunityResource} (alike : one.unnamed = other.unnamed) :
    one.named names = other.named names' ↔ names one.id = names' other.id := by
  constructor
  · intro same
    exact congrArg (fun resource : CommunityResource => resource.name) same
  · intro same
    have left : one.named names = { one.unnamed with name := names one.id } := rfl
    have right : other.named names' = { other.unnamed with name := names' other.id } := rfl
    rw [left, right, alike, same]

/-- Texts of at most one resource are the same exactly where the resources are. -/
theorem same_text_iff_of_length_le_one {localeCompare : RowOrder String} {listing other : Listing}
    (alike : SameUpToNames listing other) (short : listing.resources.length ≤ 1) :
    spelled names (sorted localeCompare listing.resources) =
        spelled names' (sorted localeCompare other.resources) ↔
      (listing.named names).resources.Perm (other.named names').resources := by
  rcases listing with ⟨resources, differ⟩
  rcases other with ⟨others, differ'⟩
  rw [SameUpToNames] at alike
  cases resources with
  | nil =>
      cases List.map_eq_nil_iff.mp alike.nil_eq.symm
      exact iff_of_true rfl (List.Perm.refl _)
  | cons first rest =>
      cases List.length_eq_zero_iff.mp (Nat.le_zero.mp (Nat.le_of_succ_le_succ short))
      rw [List.map_singleton, List.singleton_perm] at alike
      rcases List.map_eq_singleton_iff.mp alike.symm with ⟨opening, parts, same⟩
      cases parts
      have sortedFirst : sorted localeCompare [first] = [first] := rfl
      have sortedOpening : sorted localeCompare [opening] = [opening] := rfl
      rcases unnamed_parts same.symm with ⟨_, marks, endings⟩
      have named : (Listing.named names ⟨[first], differ⟩).resources = [first.named names] := rfl
      have named' : (Listing.named names' ⟨[opening], differ'⟩).resources =
          [opening.named names'] := rfl
      rw [sortedFirst, sortedOpening, named, named', List.singleton_perm_singleton,
        named_eq_iff same.symm, spelled_cons, spelled_cons, spelled_nil, spelled_nil, marks,
        endings]
      simp [String.toList_inj]

/-! ## Listings with their own names -/

/-- A listing has the names of its resources. -/
theorem exists_named (listing : Listing) : ∃ names, listing.named names = listing := by
  rcases listing with ⟨resources, differ⟩
  refine ⟨fun id => ((resources.find? fun resource => resource.id = id).map (·.name)).getD "", ?_⟩
  suffices same : resources.map (·.named fun id =>
      ((resources.find? fun resource => resource.id = id).map (·.name)).getD "") = resources by
    simp only [Listing.named, same]
  refine (List.map_congr_left fun resource member => ?_).trans (List.map_id _)
  cases found : resources.find? fun other => other.id = resource.id with
  | none => exact absurd (decide_eq_true rfl) (List.find?_eq_none.mp found resource member)
  | some other =>
      have ids : other.id = resource.id := by simpa using List.find?_some found
      have same := List.inj_on_of_nodup_map differ (List.mem_of_find?_eq_some found) member ids
      rw [CommunityResource.named, found, same]
      rfl

/-- Under all names, and for all listings as they are named, the same is said. -/
theorem forall_seesEveryChange_iff {D : Type} (localeCompare : RowOrder String)
    (sha256 : String → D) :
    (∀ listing other, SeesEveryChange localeCompare sha256 listing other) ↔
      ∀ listing other : Listing,
        digestCommunityResources localeCompare sha256 listing.resources =
            digestCommunityResources localeCompare sha256 other.resources ↔
          SameResources listing other := by
  constructor
  · intro sees listing other
    rcases exists_named listing with ⟨names, own⟩
    rcases exists_named other with ⟨names', own'⟩
    have named := sees listing other names names'
    rwa [own, own'] at named
  · exact fun sees listing other names names' => sees _ _

/-! ## Names that imitate other resources -/

/-- One resource has a name, and the others none. -/
def only (id : String) (name : List Char) : String → String := fun other =>
  if other = id then String.ofList name else ""

@[simp] theorem only_self (id : String) (name : List Char) : (only id name id).toList = name := by
  rw [only, if_pos rfl, String.toList_ofList]

theorem spelled_only_of_not_mem {id : String} {name : List Char}
    (absent : id ∉ resources.map (·.id)) : spelled (only id name) resources =
      spelled (fun _ => "") resources := by
  apply spelled_congr
  intro resource member
  rw [only, if_neg]
  exact fun same => absent (List.mem_map.mpr ⟨resource, member, same⟩)

/-- A text of resources without names ends as its last resource, also after the first mark. -/
theorem spelled_tail (first : CommunityResource) (rest : List CommunityResource)
    {last : CommunityResource} (isLast : last ∈ (first :: rest).getLast?) :
    ∃ middle, first.ending ++ spelled (fun _ => "") rest = middle ++ last.ending := by
  rcases List.eq_nil_or_concat' rest with empty | ⟨front, final, parts⟩
  · subst empty
    cases Option.mem_some_iff.mp isLast
    exact ⟨[], by simp⟩
  · subst parts
    rw [← List.cons_append, List.getLast?_append_of_ne_nil _ (List.cons_ne_nil _ _)] at isLast
    cases Option.mem_some_iff.mp isLast
    refine ⟨first.ending ++ spelled (fun _ => "") front ++ final.mark, ?_⟩
    simp

/-- The name of the first resource spells the other listing, and the name of the last one of the
other listing what is left of this one. -/
theorem exists_collision {first last : CommunityResource} {rest front : List CommunityResource}
    {final : CommunityResource} (differ : ((first :: rest).map (·.id)).Nodup)
    (differ' : ((front ++ [last]).map (·.id)).Nodup)
    (isFinal : final ∈ (first :: rest).getLast?) (endings : final.ending = last.ending)
    {name : List Char} (begins : spelled (fun _ => "") front ++ last.mark = first.mark ++ name) :
    ∃ other, spelled (only first.id name) (first :: rest) =
      spelled (only last.id other) (front ++ [last]) := by
  rcases spelled_tail first rest isFinal with ⟨middle, parts⟩
  refine ⟨middle, ?_⟩
  have absent : first.id ∉ rest.map (·.id) := (List.nodup_cons.mp differ).1
  have absent' : last.id ∉ front.map (·.id) := by
    rw [List.map_append, List.nodup_append] at differ'
    exact fun member => differ'.2.2 _ member _ (List.mem_singleton.mpr rfl) rfl
  calc spelled (only first.id name) (first :: rest)
      = first.mark ++ name ++ (first.ending ++ spelled (fun _ => "") rest) := by
        simp [spelled_only_of_not_mem absent]
    _ = spelled (fun _ => "") front ++ last.mark ++ middle ++ last.ending := by
        rw [parts, endings, begins]
        simp
    _ = spelled (only last.id middle) (front ++ [last]) := by
        simp [spelled_only_of_not_mem absent']

theorem mark_begins {front : List CommunityResource} {opening last : CommunityResource}
    (isOpening : opening ∈ (front ++ [last]).head?) :
    opening.mark <+: spelled names front ++ last.mark := by
  cases front with
  | nil =>
      cases Option.mem_some_iff.mp isOpening
      exact List.prefix_refl _
  | cons first rest =>
      cases Option.mem_some_iff.mp isOpening
      rw [spelled_cons, List.append_assoc, List.append_assoc, List.append_assoc]
      exact List.prefix_append _ _

/-- Listings collide under some names where the first marks and the last verdicts allow it. -/
theorem exists_same_text {first opening final last : CommunityResource}
    (differ : (resources.map (·.id)).Nodup) (differ' : (others.map (·.id)).Nodup)
    (isFirst : first ∈ resources.head?) (isOpening : opening ∈ others.head?)
    (isFinal : final ∈ resources.getLast?) (isLast : last ∈ others.getLast?)
    (begins : first.mark <+: opening.mark) (verdicts : final.verdict = last.verdict) :
    ∃ names names', spelled names resources = spelled names' others := by
  rcases List.head?_eq_some_iff.mp isFirst with ⟨rest, rfl⟩
  rcases eq_append_getLast isLast with ⟨front, rfl⟩
  rcases begins.trans (mark_begins isOpening) with ⟨name, parts⟩
  rcases exists_collision differ differ' isFinal (ending_eq_iff.mpr verdicts) parts.symm with
    ⟨other, same⟩
  exact ⟨_, _, same⟩

/-- Of several resources the first one can be given a name that spells the others. -/
theorem exists_imitation (differ : (resources.map (·.id)).Nodup)
    (differ' : (others.map (·.id)).Nodup)
    (ordered : resources.map (·.unnamed) = others.map (·.unnamed)) (long : 1 < resources.length) :
    ∃ first last : CommunityResource, ∃ name name' : List Char, first ∈ resources ∧
      last.id ≠ first.id ∧ name ≠ [] ∧
        spelled (only first.id name) resources = spelled (only last.id name') others := by
  cases resources with
  | nil => cases long
  | cons first rest =>
      rcases List.eq_nil_or_concat' others with empty | ⟨front, last, parts⟩
      · rw [empty] at ordered
        cases ordered
      subst parts
      cases front with
      | nil =>
          have lengths := congrArg List.length ordered
          rw [List.length_map, List.length_map] at lengths
          exact absurd (lengths ▸ long) (lt_irrefl 1)
      | cons opening more =>
          rcases unnamed_parts (List.cons_eq_cons.mp ordered).1 with ⟨ids, marks, _⟩
          have apart : last.id ≠ first.id := by
            intro same
            refine (List.nodup_cons.mp differ').1 (List.mem_map.mpr ⟨last, ?_, same.trans ids⟩)
            exact List.mem_append_right _ (List.mem_singleton.mpr rfl)
          have final := List.getLast?_eq_some_getLast (List.cons_ne_nil first rest)
          have endings : ((first :: rest).getLast (List.cons_ne_nil first rest)).ending =
              last.ending := by
            have lasts := congrArg List.getLast? ordered
            rw [List.getLast?_map, final, List.getLast?_map,
              List.getLast?_append_of_ne_nil _ (List.cons_ne_nil _ _)] at lasts
            exact (unnamed_parts (Option.some.inj lasts)).2.2
          have begins : spelled (fun _ => "") (opening :: more) ++ last.mark = first.mark ++
              (opening.ending ++ spelled (fun _ => "") more ++ last.mark) := by
            simp [marks]
          rcases exists_collision differ differ' final endings begins with ⟨imitated, same⟩
          exact ⟨first, last, _, imitated, List.mem_cons_self, apart,
            by simp [CommunityResource.ending], same⟩

/-! ## Ties -/

theorem not_prefix_of_spelled {first opening : CommunityResource}
    {rest rest' : List CommunityResource} (apart : first.id ≠ opening.id)
    (same : ∀ names, spelled names (first :: rest) = spelled names (opening :: rest')) :
    ¬first.mark <+: opening.mark := by
  rintro ⟨more, parts⟩
  -- Any character can be put after the mark of the first resource.
  have next : ∀ character, (more ++ opening.ending).head? = some character := by
    intro character
    have texts := same (only first.id [character])
    have none_ : (only first.id [character] opening.id).toList = [] := by
      rw [only, if_neg apart.symm]
      rfl
    rw [spelled_cons, spelled_cons, only_self, none_, ← parts] at texts
    simp only [List.append_assoc, List.nil_append, List.append_cancel_left_eq] at texts
    have heads := congrArg List.head? texts
    rw [← List.append_assoc more, List.head?_append_of_ne_nil _
      (List.append_ne_nil_of_right_ne_nil _ (by simp [CommunityResource.ending]))] at heads
    exact heads.symm
  have both := (next 'x').symm.trans (next 'y')
  exact absurd both (by decide)

/-- Permuted resources that have one text under all names are in one order. -/
theorem unnamed_eq_of_spelled (differ : (resources.map (·.id)).Nodup)
    (perm : (resources.map (·.unnamed)).Perm (others.map (·.unnamed)))
    (same : ∀ names, spelled names resources = spelled names others) :
    resources.map (·.unnamed) = others.map (·.unnamed) := by
  induction resources generalizing others with
  | nil => exact perm.nil_eq
  | cons first rest ih =>
      cases others with
      | nil => exact perm.symm.nil_eq.symm
      | cons opening rest' =>
          have ids : first.id = opening.id := by
            by_contra apart
            have texts := same fun _ => ""
            rw [spelled_cons, spelled_cons, List.append_assoc, List.append_assoc,
              List.append_assoc, List.append_assoc] at texts
            rcases List.prefix_or_prefix_of_prefix ⟨_, texts⟩ (List.prefix_append opening.mark _)
              with before | after
            · exact not_prefix_of_spelled apart same before
            · exact not_prefix_of_spelled (Ne.symm apart) (fun names => (same names).symm) after
          have listed : opening.unnamed ∈ (first :: rest).map (·.unnamed) :=
            perm.mem_iff.mpr List.mem_cons_self
          have unnamed : first.unnamed = opening.unnamed := by
            rcases List.mem_map.mp listed with ⟨resource, member, alike⟩
            have one := List.inj_on_of_nodup_map differ member List.mem_cons_self
              ((unnamed_parts alike).1.trans ids.symm)
            rw [← alike, one]
          rcases unnamed_parts unnamed with ⟨_, marks, endings⟩
          have others : rest.map (·.unnamed) = rest'.map (·.unnamed) := by
            apply ih (List.nodup_cons.mp differ).2
            · rw [List.map_cons, List.map_cons, unnamed] at perm
              exact perm.cons_inv
            · intro names
              have texts := same names
              rw [spelled_cons, spelled_cons, marks, endings, ids] at texts
              exact List.append_cancel_left texts
          rw [List.map_cons, List.map_cons, unnamed, others]

/-- A name that is given to the first resource only is not the first one's of other resources. -/
theorem not_same_of_only {listing other : Listing} {first last : CommunityResource}
    {name name' : List Char} (member : first ∈ listing.resources) (apart : last.id ≠ first.id)
    (nonempty : name ≠ []) :
    ¬SameResources (listing.named (only first.id name)) (other.named (only last.id name')) := by
  intro same
  have listed := (same (first.named (only first.id name))).mp
    (List.mem_map.mpr ⟨first, member, rfl⟩)
  rcases List.mem_map.mp listed with ⟨resource, _, alike⟩
  have ids := congrArg CommunityResource.id alike
  have names := congrArg CommunityResource.name alike
  change resource.id = first.id at ids
  change only last.id name' resource.id = only first.id name first.id at names
  rw [ids, only, if_neg apart.symm] at names
  have characters := congrArg String.toList names
  rw [only_self] at characters
  exact nonempty characters.symm

/-! ## When all changes are seen -/

section Main

variable {D : Type} {localeCompare : RowOrder String} {sha256 : String → D}
variable {listing other : Listing}

theorem SeesEveryChange.symm (sees : SeesEveryChange localeCompare sha256 listing other) :
    SeesEveryChange localeCompare sha256 other listing := by
  intro names names'
  have back := sees names' names
  rw [eq_comm, back]
  exact forall_congr' fun _ => Iff.comm

variable (injective : Function.Injective sha256)
include injective

/-- Where first marks and last verdicts allow it, a collision is not seen. -/
theorem apart_of_sees (sees : SeesEveryChange localeCompare sha256 listing other)
    (different : ¬SameUpToNames listing other) {first opening last closing : CommunityResource}
    (isFirst : first ∈ (sorted localeCompare listing.resources).head?)
    (isOpening : opening ∈ (sorted localeCompare other.resources).head?)
    (isLast : last ∈ (sorted localeCompare listing.resources).getLast?)
    (isClosing : closing ∈ (sorted localeCompare other.resources).getLast?)
    (verdicts : last.verdict = closing.verdict) : ¬first.mark <+: opening.mark := by
  intro begins
  rcases exists_same_text (sorted_ids_nodup _ listing) (sorted_ids_nodup _ other) isFirst isOpening
    isLast isClosing begins verdicts with ⟨names, names', same⟩
  have digests := (digest_eq_iff localeCompare injective listing other).mpr same
  exact different (sameUpToNames_of_same ((sees names names').mp digests))

/-- Two resources are enough for a name that spells the line of one of them. -/
theorem alike_of_sees (sees : SeesEveryChange localeCompare sha256 listing other)
    (alike : SameUpToNames listing other) : listing.resources.length ≤ 1 := by
  have texts : ∀ names, spelled names (sorted localeCompare listing.resources) =
      spelled names (sorted localeCompare other.resources) := fun names =>
    (digest_eq_iff localeCompare injective listing other).mp
      ((sees names names).mpr (same_of_sameUpToNames alike names))
  have ordered := unnamed_eq_of_spelled (sorted_ids_nodup localeCompare listing)
    (sorted_sameUpToNames localeCompare alike) texts
  rw [← (perm_sorted localeCompare listing.resources).length_eq]
  by_contra long
  rcases exists_imitation (sorted_ids_nodup localeCompare listing)
    (sorted_ids_nodup localeCompare other) ordered (Nat.lt_of_not_le long) with
    ⟨first, last, name, name', member, apart, nonempty, same⟩
  rw [← digest_eq_iff localeCompare injective listing other] at same
  exact not_same_of_only ((perm_sorted localeCompare listing.resources).mem_iff.mp member) apart
    nonempty ((sees _ _).mp same)

/-- A listing is told apart from another one under all names. -/
theorem sees_of_toldApart (told : ToldApart localeCompare listing other) :
    SeesEveryChange localeCompare sha256 listing other := by
  intro names names'
  rw [digest_eq_iff localeCompare injective]
  by_cases alike : SameUpToNames listing other
  · rw [sameResources_iff_perm]
    exact same_text_iff_of_length_le_one alike (told.alike alike)
  · have different : ¬SameResources (listing.named names) (other.named names') :=
      fun same => alike (sameUpToNames_of_same same)
    refine iff_of_false ?_ different
    have left := perm_sorted localeCompare listing.resources
    have right := perm_sorted localeCompare other.resources
    rcases List.eq_nil_or_concat' (sorted localeCompare listing.resources) with
      empty | ⟨front, last, parts⟩
    · intro same
      rw [empty, spelled_nil, eq_comm, spelled_eq_nil] at same
      rw [empty] at left
      rw [same] at right
      rw [SameUpToNames, ← left.nil_eq, ← right.nil_eq] at alike
      exact alike (List.Perm.refl _)
    rcases List.eq_nil_or_concat' (sorted localeCompare other.resources) with
      empty | ⟨front', closing, parts'⟩
    · intro same
      rw [empty, spelled_nil, spelled_eq_nil, parts] at same
      exact absurd same (List.append_ne_nil_of_right_ne_nil _ (List.cons_ne_nil _ _))
    have isLast : last ∈ (sorted localeCompare listing.resources).getLast? := by simp [parts]
    have isClosing : closing ∈ (sorted localeCompare other.resources).getLast? := by simp [parts']
    have isFirst := List.head?_eq_some_head (List.ne_nil_of_mem (List.mem_of_getLast? isLast))
    have isOpening := List.head?_eq_some_head (List.ne_nil_of_mem (List.mem_of_getLast? isClosing))
    exact spelled_ne isFirst isOpening isLast isClosing
      (told.apart alike _ isFirst _ isOpening _ isLast _ isClosing)

end Main

/-- The digest sees every change of two listings, whatever the names, exactly where they are told
apart by more than names. -/
theorem seesEveryChange_iff {D : Type} (localeCompare : RowOrder String) (sha256 : String → D)
    (injective : Function.Injective sha256) (listing other : Listing) :
    SeesEveryChange localeCompare sha256 listing other ↔ ToldApart localeCompare listing other := by
  constructor
  · intro sees
    refine ⟨alike_of_sees injective sees, ?_⟩
    intro different first isFirst opening isOpening last isLast closing isClosing
    by_cases verdicts : last.verdict = closing.verdict
    · left
      constructor
      · exact apart_of_sees injective sees different isFirst isOpening isLast isClosing verdicts
      · exact apart_of_sees injective sees.symm (fun same => different same.symm) isOpening isFirst
          isClosing isLast verdicts.symm
    · exact .inr verdicts
  · exact sees_of_toldApart injective

/-- Listings of two resources each, of which only names differ. -/
def lobby : CommunityResource := ⟨"1", "lobby", .text, true, none⟩

def general : CommunityResource := ⟨"2", "general", .text, true, none⟩

def channels : Listing := ⟨[lobby, general], by decide⟩

theorem channels_not_told_apart : 
    ¬SeesEveryChange Collation.codepoint.toRowOrder id channels channels := by
  intro sees
  have told := (seesEveryChange_iff _ id Function.injective_id channels channels).mp sees
  exact absurd (told.alike (List.Perm.refl _)) (by decide)

/-- A channel whose name goes on with the line of another one. -/
def imitation : Listing := ⟨[⟨"1", "lobby:1\n2:text:general", .text, true, none⟩], by decide⟩

theorem imitation_collides :
    digestCommunityResources Collation.codepoint.toRowOrder id channels.resources =
        digestCommunityResources Collation.codepoint.toRowOrder id imitation.resources ∧
      ¬SameResources channels imitation := by
  refine ⟨by decide +kernel, ?_⟩
  intro same
  have listed := (same general).mp (List.mem_cons_of_mem _ List.mem_cons_self)
  exact absurd listed (by decide)

/-! ## Plain names -/

/-- No line breaks, no colon in the identifier, and no issue of a readable resource. -/
structure CommunityResource.Plain (resource : CommunityResource) : Prop where
  noColon : ':' ∉ resource.id.toList
  oneLine : '\n' ∉ resource.id.toList ∧ '\n' ∉ resource.name.toList
  noIssue : resource.readable = true → resource.accessIssue = none

theorem verdict_inj {one other : CommunityResource} (plain : one.Plain) (plain' : other.Plain)
    (same : one.verdict = other.verdict) :
    one.readable = other.readable ∧ one.accessIssue = other.accessIssue := by
  have issues : ∀ issue issue', verdictOf false issue = verdictOf false issue' →
      issue = issue' := by decide +kernel
  have apart : ∀ issue issue', verdictOf true issue ≠ verdictOf false issue' := by decide +kernel
  rw [CommunityResource.verdict, CommunityResource.verdict] at same
  cases left : one.readable <;> cases right : other.readable
  · rw [left, right] at same
    exact ⟨rfl, issues _ _ same⟩
  · rw [left, right] at same
    exact absurd same.symm (apart _ _)
  · rw [left, right] at same
    exact absurd same (apart _ _)
  · exact ⟨rfl, (plain.noIssue left).trans (plain'.noIssue right).symm⟩

theorem kind_toText_inj {kind other : CommunityResourceKind} (same : kind.toText = other.toText) :
    kind = other := by
  cases kind <;> cases other <;> first | rfl | exact absurd same (by decide)

theorem not_mem_kind {sign : Char} (outside : sign = ':' ∨ sign = '\n')
    (kind : CommunityResourceKind) : sign ∉ kind.toText.toList := by
  rcases outside with rfl | rfl <;> cases kind <;> decide

theorem newline_not_mem_verdict (readable : Bool)
    (accessIssue : Option CommunityResourceAccessIssue) :
    '\n' ∉ (verdictOf readable accessIssue).toList := by
  revert readable accessIssue
  decide +kernel

/-- The line of a plain resource tells the resource. -/
theorem resource_of_line {one other : CommunityResource} (plain : one.Plain)
    (plain' : other.Plain) (same : one.line = other.line) : one = other := by
  have characters := congrArg String.toList same
  have colon : ":".toList = [':'] := rfl
  simp only [CommunityResource.line, String.toList_append, colon, List.append_assoc,
    List.cons_append, List.nil_append] at characters
  rcases JsText.append_cons_inj plain.noColon plain'.noColon characters with ⟨ids, afterId⟩
  rcases JsText.append_cons_inj (not_mem_kind (.inl rfl) _) (not_mem_kind (.inl rfl) _) afterId with
    ⟨kinds, afterKind⟩
  have endings : one.name.toList ++ one.ending = other.name.toList ++ other.ending := by
    simpa only [CommunityResource.ending, String.toList_append, colon, List.append_assoc,
      List.cons_append, List.nil_append] using afterKind
  have verdicts := verdict_of_append endings
  rw [ending_eq_iff.mpr verdicts] at endings
  have names := String.toList_inj.mp (List.append_cancel_right endings)
  rcases verdict_inj plain plain' verdicts with ⟨readable, accessIssue⟩
  rcases one with ⟨id, name, kind, _, _⟩
  rcases other with ⟨id', name', kind', _, _⟩
  cases String.toList_inj.mp ids
  cases kind_toText_inj (String.toList_inj.mp kinds)
  cases names
  cases readable
  cases accessIssue
  rfl

theorem newline_not_mem_content {resource : CommunityResource} (plain : resource.Plain) :
    '\n' ∉ (resource.id ++ ":" ++ resource.kind.toText ++ ":" ++ resource.name ++ ":" ++
      resource.verdict).toList := by
  have colon : '\n' ∉ ":".toList := by decide
  simp only [String.toList_append, List.mem_append, not_or]
  exact ⟨⟨⟨⟨⟨⟨plain.oneLine.1, colon⟩, not_mem_kind (.inr rfl) _⟩, colon⟩, plain.oneLine.2⟩, colon⟩,
    newline_not_mem_verdict _ _⟩

/-- Plain resources are told by their text, line by line. -/
theorem resources_of_text (plain : ∀ resource ∈ resources, resource.Plain)
    (plain' : ∀ resource ∈ others, resource.Plain)
    (same : resources.flatMap (·.line.toList) = others.flatMap (·.line.toList)) :
    resources = others := by
  have nonempty : ∀ resource : CommunityResource, resource.line.toList ≠ [] := by
    intro resource
    simp [CommunityResource.line]
  induction resources generalizing others with
  | nil =>
      cases others with
      | nil => rfl
      | cons opening rest' =>
          rw [List.flatMap_cons, List.flatMap_nil, eq_comm, List.append_eq_nil_iff] at same
          exact absurd same.1 (nonempty opening)
  | cons first rest ih =>
      cases others with
      | nil =>
          rw [List.flatMap_cons, List.flatMap_nil, List.append_eq_nil_iff] at same
          exact absurd same.1 (nonempty first)
      | cons opening rest' =>
          rcases List.forall_mem_cons.mp plain with ⟨firstPlain, restPlain⟩
          rcases List.forall_mem_cons.mp plain' with ⟨openingPlain, restPlain'⟩
          have newline : "\n".toList = ['\n'] := rfl
          rw [List.flatMap_cons, List.flatMap_cons, CommunityResource.line, CommunityResource.line,
            String.toList_append, String.toList_append (t := "\n"), newline, List.append_assoc,
            List.append_assoc, List.singleton_append, List.singleton_append] at same
          rcases JsText.append_cons_inj (newline_not_mem_content firstPlain)
            (newline_not_mem_content openingPlain) same with ⟨contents, others⟩
          have lines : first.line = opening.line :=
            congrArg (· ++ "\n") (String.toList_inj.mp contents)
          rw [resource_of_line firstPlain openingPlain lines, ih restPlain restPlain' others]

/-- The digest sees every change of plain listings, where different identifiers are never tied. -/
theorem digest_eq_iff_of_plain {D : Type} (localeCompare : Collation) {sha256 : String → D}
    (injective : Function.Injective sha256) {listing other : Listing}
    (plain : ∀ resource ∈ listing.resources, resource.Plain)
    (plain' : ∀ resource ∈ other.resources, resource.Plain) :
    digestCommunityResources localeCompare.toRowOrder sha256 listing.resources =
        digestCommunityResources localeCompare.toRowOrder sha256 other.resources ↔
      SameResources listing other := by
  have left := perm_sorted localeCompare.toRowOrder listing.resources
  have right := perm_sorted localeCompare.toRowOrder other.resources
  rw [digestCommunityResources, digestCommunityResources, injective.eq_iff, ← String.toList_inj,
    String.toList_join, String.toList_join, List.flatMap_map, List.flatMap_map,
    sameResources_iff_perm]
  constructor
  · intro same
    have lists := resources_of_text (fun resource member => plain resource (left.mem_iff.mp member))
      (fun resource member => plain' resource (right.mem_iff.mp member)) same
    exact (left.symm.trans (List.Perm.of_eq lists)).trans right
  · intro perm
    have same : sorted localeCompare.toRowOrder listing.resources =
        sorted localeCompare.toRowOrder other.resources :=
      RowOrder.orderBy_of_perm _ (fun one member another member' before after =>
        List.inj_on_of_nodup_map listing.idsDiffer member member'
          (localeCompare.antisymm before after)) perm
    rw [same]

end Reputo.Community.ResourceDigest
