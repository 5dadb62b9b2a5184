import PyKMIP.OperationPolicy
import Mathlib.Data.List.TakeWhile
import Mathlib.Tactic.Common

/-!
# Owners that share an availability zone

The shards of a zone may act on the objects of each other.  The host name of a
shard is matched by a pattern whose digits are those of all scripts, whose end
anchor allows a last line feed and whose region has no line feed, so the pattern
and the form of host names that it stands for are not the same.
-/

namespace PyKMIP

section HostNames

def lineFeed : Char := .ofNat 0x0a

/-- The host name of a shard of a vCenter. -/
def shardName (letter : Char) (shard region : String) : String :=
  "vc-" ++ String.singleton letter ++ "-" ++ shard ++ ".cc." ++ region ++
    ".cloud.sap"

/-- The host name has the form of a shard, up to what ends it. -/
def Shard (digit : Char → Prop) (ending : String) (letter : Char)
    (region hostname : String) : Prop :=
  'a' ≤ letter ∧ letter ≤ 'z' ∧ region ≠ "" ∧
    ∃ shard, shard ≠ "" ∧ (∀ char ∈ shard.toList, digit char) ∧
      hostname = shardName letter shard region ++ ending

/-- From its first to its last character, with ASCII digits. -/
def IsShard (letter : Char) (region hostname : String) : Prop :=
  Shard (fun char => '0' ≤ char ∧ char ≤ '9') "" letter region hostname

/-- With decimal digits of any script, and perhaps a line feed at the end. -/
def LooksLikeShard (letter : Char) (region hostname : String) : Prop :=
  Shard (fun char => isDecimalDigit char = true) "" letter region hostname ∨
    Shard (fun char => isDecimalDigit char = true) (String.singleton lineFeed)
      letter region hostname

variable {letter : Char} {region hostname : String}

theorem isDecimalDigit_of_ascii
    {char : Char} (ascii : '0' ≤ char ∧ char ≤ '9') :
    isDecimalDigit char = true := by
  have lower : 0x30 ≤ char.toNat := ascii.1
  have upper : char.toNat ≤ 0x39 := ascii.2
  unfold isDecimalDigit
  rw [List.any_eq_true]
  refine ⟨0x30, by decide, ?_⟩
  simp only [Bool.and_eq_true, decide_eq_true_eq]
  omega

theorem looksLikeShard_of_isShard
    (shard : IsShard letter region hostname) :
    LooksLikeShard letter region hostname := by
  obtain ⟨lower, upper, nonempty, digits, some, ascii, named⟩ := shard
  exact .inl ⟨lower, upper, nonempty, digits, some,
    fun char member => isDecimalDigit_of_ascii (ascii char member), named⟩

end HostNames

section Matching

theorem stripPrefix_eq_some_iff
    {expected chars rest : List Char} :
    stripPrefix expected chars = some rest ↔ chars = expected ++ rest := by
  unfold stripPrefix
  split
  · rename_i isPrefix
    obtain ⟨tail, rfl⟩ := List.isPrefixOf_iff_prefix.mp isPrefix
    simp
  · rename_i notPrefix
    constructor
    · exact fun stripped => by cases stripped
    · rintro rfl
      exact absurd (List.isPrefixOf_iff_prefix.mpr ⟨rest, rfl⟩) notPrefix

theorem stripSuffix_eq_some_iff
    {expected chars rest : List Char} :
    stripSuffix expected chars = some rest ↔ chars = rest ++ expected := by
  unfold stripSuffix
  split
  · rename_i isSuffix
    obtain ⟨initial, rfl⟩ := List.isSuffixOf_iff_suffix.mp isSuffix
    simp
  · rename_i notSuffix
    constructor
    · exact fun stripped => by cases stripped
    · rintro rfl
      exact absurd (List.isSuffixOf_iff_suffix.mpr ⟨rest, rfl⟩) notSuffix

/-- The suffix of a host name, and what may follow it. -/
def endings : List (List Char) := [[], [lineFeed]]

theorem region_unique
    {first second firstEnding secondEnding : List Char}
    (firstEnds : firstEnding ∈ endings) (secondEnds : secondEnding ∈ endings)
    (same : first ++ (".cloud.sap".toList ++ firstEnding) =
      second ++ (".cloud.sap".toList ++ secondEnding)) :
    first = second ∧ firstEnding = secondEnding := by
  have last := congrArg List.getLast? same
  simp only [endings, List.mem_cons, List.not_mem_nil, or_false] at firstEnds
  simp only [endings, List.mem_cons, List.not_mem_nil, or_false] at secondEnds
  rcases firstEnds with rfl | rfl <;> rcases secondEnds with rfl | rfl
  · exact ⟨List.append_cancel_right same, rfl⟩
  · simp [lineFeed] at last
  · simp [lineFeed] at last
  · exact ⟨List.append_cancel_right same, rfl⟩

theorem guard_bind_eq_some_iff
    {condition : Prop} [Decidable condition] {rest : Option α} {value : α} :
    ((guard condition : Option Unit) >>= fun _ => rest) = some value ↔
      condition ∧ rest = some value := by
  by_cases holds : condition <;> simp [guard, holds]

theorem matchRegion_eq_some_iff
    {chars region : List Char} :
    matchRegion chars = some region ↔
      region ≠ [] ∧ lineFeed ∉ region ∧
        ∃ ending ∈ endings, chars = region ++ (".cloud.sap".toList ++ ending) := by
  have stripped : (stripSuffix ".cloud.sap".toList chars <|>
        stripSuffix (".cloud.sap".toList ++ [lineFeed]) chars) = some region ↔
      ∃ ending ∈ endings,
        chars = region ++ (".cloud.sap".toList ++ ending) := by
    cases ended : stripSuffix ".cloud.sap".toList chars with
    | none =>
        have other : chars ≠ region ++ ".cloud.sap".toList := by
          intro same
          rw [stripSuffix_eq_some_iff.mpr same] at ended
          cases ended
        rw [Option.orElse_eq_orElse, Option.orElse_none,
          stripSuffix_eq_some_iff]
        constructor
        · exact fun same => ⟨[lineFeed], by decide, same⟩
        · rintro ⟨ending, ends, same⟩
          rcases List.mem_cons.mp ends with rfl | ends
          · rw [List.append_nil] at same
            exact absurd same other
          · rw [List.mem_singleton.mp ends] at same
            exact same
    | some found =>
        rw [stripSuffix_eq_some_iff] at ended
        constructor
        · intro same
          cases same
          exact ⟨[], by decide, by simpa using ended⟩
        · rintro ⟨ending, ends, same⟩
          rw [ended] at same
          have unique := @region_unique _ _ [] _ (by decide) ends
            (by simpa using same)
          rw [unique.1]
          rfl
  unfold matchRegion
  rw [Option.bind_eq_bind, Option.bind_eq_some_iff]
  constructor
  · rintro ⟨found, isStripped, matched⟩
    obtain ⟨⟨nonempty, oneLine⟩, same⟩ := guard_bind_eq_some_iff.mp matched
    cases same
    exact ⟨nonempty, oneLine, stripped.mp isStripped⟩
  · rintro ⟨nonempty, oneLine, ends⟩
    exact ⟨region, stripped.mpr ends,
      guard_bind_eq_some_iff.mpr ⟨⟨nonempty, oneLine⟩, rfl⟩⟩

/-- A shard number ends where its digits do. -/
theorem span_digits
    {digits rest : List Char}
    (decimal : ∀ char ∈ digits, isDecimalDigit char = true) :
    (digits ++ (".cc.".toList ++ rest)).dropWhile isDecimalDigit =
      ".cc.".toList ++ rest := by
  induction digits with
  | nil => rfl
  | cons first others ih =>
      rw [List.cons_append, List.dropWhile_cons, if_pos (decimal first (.head _))]
      exact ih fun char member => decimal char (.tail _ member)

theorem looksLikeShard_iff
    {letter : Char} {region hostname : String} :
    LooksLikeShard letter region hostname ↔
      'a' ≤ letter ∧ letter ≤ 'z' ∧ region ≠ "" ∧
        ∃ digits : List Char, digits ≠ [] ∧
          (∀ char ∈ digits, isDecimalDigit char = true) ∧
          ∃ ending ∈ endings, hostname.toList =
            "vc-".toList ++ letter :: ("-".toList ++ (digits ++
              (".cc.".toList ++ (region.toList ++
                (".cloud.sap".toList ++ ending))))) := by
  have named : ∀ shard ending : String,
      (shardName letter shard region ++ ending).toList =
        "vc-".toList ++ letter :: ("-".toList ++ (shard.toList ++
          (".cc.".toList ++ (region.toList ++
            (".cloud.sap".toList ++ ending.toList))))) := by
    intro shard ending
    simp [shardName, String.toList_append]
  constructor
  · rintro (looks | looks)
    all_goals
      obtain ⟨lower, upper, nonempty, shard, some, decimal, rfl⟩ := looks
      refine ⟨lower, upper, nonempty, shard.toList, ?_, decimal, ?_⟩
      · exact fun empty => some (String.toList_eq_nil_iff.mp empty)
    · exact ⟨[], by decide, named shard ""⟩
    · refine ⟨[lineFeed], by decide, (named shard _).trans ?_⟩
      rw [String.toList_singleton]
  · rintro ⟨lower, upper, nonempty, digits, some, decimal, ending, ends, same⟩
    have shardNonempty : String.ofList digits ≠ "" := by
      intro empty
      apply some
      rw [← String.toList_ofList (l := digits), empty]
      rfl
    have allDecimal : ∀ char ∈ (String.ofList digits).toList,
        isDecimalDigit char = true := by
      rw [String.toList_ofList]
      exact decimal
    have isName : hostname = shardName letter (.ofList digits) region ++
        String.ofList ending := by
      apply String.toList_injective
      rw [same, named, String.toList_ofList (l := digits),
        String.toList_ofList (l := ending)]
    rcases List.mem_cons.mp ends with rfl | ends
    · exact .inl ⟨lower, upper, nonempty, _, shardNonempty, allDecimal, isName⟩
    · rw [List.mem_singleton.mp ends] at isName
      exact .inr ⟨lower, upper, nonempty, _, shardNonempty, allDecimal, isName⟩

/-- What the pattern matches, character by character. -/
theorem matchVcenter_eq_some_iff
    {letter : Char} {region hostname : String} :
    matchVcenter hostname = some (letter, region) ↔
      LooksLikeShard letter region hostname ∧
        lineFeed ∉ region.toList := by
  rw [looksLikeShard_iff]
  unfold matchVcenter
  rw [Option.bind_eq_bind, Option.bind_eq_some_iff]
  constructor
  · rintro ⟨afterPrefix, isPrefix, matched⟩
    obtain ⟨first, isFirst, matched⟩ := Option.bind_eq_some_iff.mp matched
    obtain ⟨inZone, matched⟩ := guard_bind_eq_some_iff.mp matched
    obtain ⟨digits, isDigits, matched⟩ := Option.bind_eq_some_iff.mp matched
    obtain ⟨decimal, matched⟩ := guard_bind_eq_some_iff.mp matched
    obtain ⟨rest, isRest, matched⟩ := Option.bind_eq_some_iff.mp matched
    obtain ⟨chars, isRegion, matched⟩ := Option.bind_eq_some_iff.mp matched
    cases matched
    rw [stripPrefix_eq_some_iff] at isPrefix isDigits isRest
    obtain ⟨nonempty, oneLine, ending, ends, isEnd⟩ :=
      matchRegion_eq_some_iff.mp isRegion
    cases afterPrefix with
    | nil => cases isFirst
    | cons letter tail =>
        cases isFirst
        rw [List.tail_cons] at isDigits
        refine ⟨⟨inZone.1, inZone.2, ?_, digits.takeWhile isDecimalDigit, ?_,
          fun char member => List.mem_takeWhile_imp member, ending, ends, ?_⟩, ?_⟩
        · intro empty
          apply nonempty
          rw [← String.toList_ofList (l := chars), empty]
          rfl
        · cases digits with
          | nil => cases decimal
          | cons digit others =>
              have isDigit : isDecimalDigit digit = true :=
                Option.some.inj decimal
              simp [isDigit]
        · rw [isPrefix, isDigits, String.toList_ofList (l := chars), ← isEnd,
            ← isRest, List.takeWhile_append_dropWhile]
        · rw [String.toList_ofList]
          exact oneLine
  · rintro ⟨⟨lower, upper, nonempty, digits, some, decimal, ending, ends, same⟩,
      oneLine⟩
    refine ⟨_, stripPrefix_eq_some_iff.mpr same, ?_⟩
    refine Option.bind_eq_some_iff.mpr ⟨letter, rfl, ?_⟩
    refine guard_bind_eq_some_iff.mpr ⟨⟨lower, upper⟩, ?_⟩
    refine Option.bind_eq_some_iff.mpr
      ⟨_, stripPrefix_eq_some_iff.mpr List.tail_cons, ?_⟩
    refine guard_bind_eq_some_iff.mpr ⟨?_, ?_⟩
    · cases digits with
      | nil => exact absurd rfl some
      | cons digit others => exact congrArg Option.some (decimal digit (.head _))
    · rw [span_digits decimal]
      refine Option.bind_eq_some_iff.mpr
        ⟨_, stripPrefix_eq_some_iff.mpr rfl, ?_⟩
      refine Option.bind_eq_some_iff.mpr
        ⟨_, matchRegion_eq_some_iff.mpr ⟨?_, oneLine, ending, ends, rfl⟩, ?_⟩
      · exact fun empty => nonempty (String.toList_eq_nil_iff.mp empty)
      · rw [String.ofList_toList]
        rfl

/-- A host name is the shard of one zone at most. -/
theorem looksLikeShard_unique
    {first second : Char} {firstRegion secondRegion hostname : String}
    (firstLooks : LooksLikeShard first firstRegion hostname)
    (secondLooks : LooksLikeShard second secondRegion hostname) :
    first = second ∧ firstRegion = secondRegion := by
  obtain ⟨_, _, _, firstDigits, _, firstDecimal, _, firstEnds, firstSame⟩ :=
    looksLikeShard_iff.mp firstLooks
  obtain ⟨_, _, _, secondDigits, _, secondDecimal, _, secondEnds, secondSame⟩ :=
    looksLikeShard_iff.mp secondLooks
  rw [firstSame] at secondSame
  have afterPrefix := List.append_cancel_left secondSame
  obtain ⟨letters, tails⟩ := List.cons_eq_cons.mp afterPrefix
  have digits := List.append_cancel_left tails
  have rest := congrArg (List.dropWhile isDecimalDigit) digits
  rw [span_digits firstDecimal, span_digits secondDecimal] at rest
  have regions := List.append_cancel_left rest
  exact ⟨letters, String.toList_injective
    (region_unique firstEnds secondEnds regions).1⟩

end Matching

section Sharing

/-- The identities are equal, or both name shards of one zone. -/
def SharesZone (sessionUser objectOwner : Option String) : Prop :=
  sessionUser = objectOwner ∨
    ∃ letter region,
      (∃ hostname ∈ sessionUser, IsShard letter region hostname) ∧
        ∃ hostname ∈ objectOwner, IsShard letter region hostname

/-- Host names that look like shards of one zone are exactly that, unless the
region has a line feed, in which case they are not. -/
def WellFormedZones (sessionUser objectOwner : Option String) : Prop :=
  sessionUser = objectOwner ∨
    ∀ letter region, ∀ user ∈ sessionUser, ∀ owner ∈ objectOwner,
      LooksLikeShard letter region user → LooksLikeShard letter region owner →
      (lineFeed ∉ region.toList ↔
        IsShard letter region user ∧ IsShard letter region owner)

theorem extractVcenterAz_eq_iff
    {sessionUser objectOwner : Option String}
    (different : sessionUser ≠ objectOwner) :
    extractVcenterAz sessionUser = extractVcenterAz objectOwner ↔
      ∃ letter region, ∃ user ∈ sessionUser, ∃ owner ∈ objectOwner,
        matchVcenter user = some (letter, region) ∧
          matchVcenter owner = some (letter, region) := by
  unfold extractVcenterAz
  constructor
  · intro same
    split at same
    · rename_i letter region userMatches
      split at same
      · rename_i ownerMatches
        cases same
        obtain ⟨user, isUser, userZone⟩ := Option.bind_eq_some_iff.mp userMatches
        obtain ⟨owner, isOwner, ownerZone⟩ :=
          Option.bind_eq_some_iff.mp ownerMatches
        exact ⟨letter, region, user, isUser, owner, isOwner, userZone, ownerZone⟩
      · cases same
    · split at same
      · cases same
      · cases same
        exact absurd rfl different
  · rintro ⟨letter, region, user, isUser, owner, isOwner, userZone, ownerZone⟩
    have userMatches := Option.bind_eq_some_iff.mpr ⟨user, isUser, userZone⟩
    have ownerMatches := Option.bind_eq_some_iff.mpr ⟨owner, isOwner, ownerZone⟩
    rw [userMatches, ownerMatches]

theorem matchOwner_iff
    {sessionUser objectOwner : Option String} :
    matchOwner sessionUser objectOwner = true ↔
      extractVcenterAz sessionUser = extractVcenterAz objectOwner := by
  unfold matchOwner
  exact decide_eq_true_iff

theorem matchOwner_shares_iff
    (sessionUser objectOwner : Option String) :
    (matchOwner sessionUser objectOwner = true ↔
        SharesZone sessionUser objectOwner) ↔
      WellFormedZones sessionUser objectOwner := by
  rw [matchOwner_iff]
  by_cases equal : sessionUser = objectOwner
  · subst equal
    simp [SharesZone, WellFormedZones]
  · rw [extractVcenterAz_eq_iff equal]
    constructor
    · intro agrees
      refine .inr fun letter region user isUser owner isOwner userLooks
        ownerLooks => ⟨fun oneLine => ?_, ?_⟩
      · have matched := agrees.mp ⟨letter, region, user, isUser, owner, isOwner,
          matchVcenter_eq_some_iff.mpr ⟨userLooks, oneLine⟩,
          matchVcenter_eq_some_iff.mpr ⟨ownerLooks, oneLine⟩⟩
        rcases matched with same | ⟨zone, place, userShard, ownerShard⟩
        · exact absurd same equal
        · obtain ⟨_, alsoUser, userShard⟩ := userShard
          obtain ⟨_, alsoOwner, ownerShard⟩ := ownerShard
          cases Option.mem_unique isUser alsoUser
          cases Option.mem_unique isOwner alsoOwner
          obtain ⟨rfl, rfl⟩ := looksLikeShard_unique userLooks
            (looksLikeShard_of_isShard userShard)
          exact ⟨userShard, ownerShard⟩
      · rintro ⟨userShard, ownerShard⟩
        obtain ⟨zone, place, _, alsoUser, _, _, userMatches, _⟩ :=
          agrees.mpr (.inr ⟨letter, region, ⟨user, isUser, userShard⟩,
            ⟨owner, isOwner, ownerShard⟩⟩)
        cases Option.mem_unique isUser alsoUser
        obtain ⟨matchedLooks, oneLine⟩ :=
          matchVcenter_eq_some_iff.mp userMatches
        obtain ⟨_, rfl⟩ := looksLikeShard_unique userLooks matchedLooks
        exact oneLine
    · rintro (same | wellFormed)
      · exact absurd same equal
      · constructor
        · rintro ⟨letter, region, user, isUser, owner, isOwner, userMatches,
            ownerMatches⟩
          obtain ⟨userLooks, oneLine⟩ := matchVcenter_eq_some_iff.mp userMatches
          obtain ⟨ownerLooks, _⟩ := matchVcenter_eq_some_iff.mp ownerMatches
          obtain ⟨userShard, ownerShard⟩ := (wellFormed letter region user isUser
            owner isOwner userLooks ownerLooks).mp oneLine
          exact .inr ⟨letter, region, ⟨user, isUser, userShard⟩,
            ⟨owner, isOwner, ownerShard⟩⟩
        · rintro (same | ⟨letter, region, ⟨user, isUser, userShard⟩,
            ⟨owner, isOwner, ownerShard⟩⟩)
          · exact absurd same equal
          · have userLooks := looksLikeShard_of_isShard userShard
            have ownerLooks := looksLikeShard_of_isShard ownerShard
            have oneLine := (wellFormed letter region user isUser owner isOwner
              userLooks ownerLooks).mpr ⟨userShard, ownerShard⟩
            exact ⟨letter, region, user, isUser, owner, isOwner,
              matchVcenter_eq_some_iff.mpr ⟨userLooks, oneLine⟩,
              matchVcenter_eq_some_iff.mpr ⟨ownerLooks, oneLine⟩⟩

/-- The policy leaves the operation on objects of the type to their owner. -/
def SaysAllowOwner (operationPolicies : OperationPolicies)
    (policyName group : Option String) (objectType : ObjectType)
    (operation : Operation) : Prop :=
  ∃ policySection ∈
      getRelevantPolicySection operationPolicies policyName group,
    (List.lookup objectType policySection).bind (List.lookup operation ·) =
      some .allowOwner

theorem isAllowed_of_saysAllowOwner
    {operationPolicies : OperationPolicies} {policyName group : Option String}
    {objectType : ObjectType} {operation : Operation}
    (leaves : SaysAllowOwner operationPolicies policyName group objectType
      operation) (sessionUser objectOwner : Option String) :
    isAllowed operationPolicies policyName sessionUser group objectOwner
      objectType operation = matchOwner sessionUser objectOwner := by
  obtain ⟨policySection, relevant, entry⟩ := leaves
  unfold isAllowed
  rw [Option.mem_def.mp relevant]
  simp only [entry]

/-- An operation that is left to owners is allowed to the zone of the owner, for
well-formed host names and no others; allowing it makes identities equivalent. -/
theorem owner_sharing_covers_zones_iff
    {operationPolicies : OperationPolicies} {policyName group : Option String}
    {objectType : ObjectType} {operation : Operation}
    (leaves : SaysAllowOwner operationPolicies policyName group objectType
      operation) :
    (∀ sessionUser objectOwner : Option String,
      (isAllowed operationPolicies policyName sessionUser group objectOwner
            objectType operation = true ↔
          SharesZone sessionUser objectOwner) ↔
        WellFormedZones sessionUser objectOwner) ∧
      Equivalence fun sessionUser objectOwner : Option String =>
        isAllowed operationPolicies policyName sessionUser group objectOwner
          objectType operation = true := by
  constructor
  · intro sessionUser objectOwner
    rw [isAllowed_of_saysAllowOwner leaves]
    exact matchOwner_shares_iff sessionUser objectOwner
  · constructor
    · intro identity
      rw [isAllowed_of_saysAllowOwner leaves, matchOwner_iff]
    · intro first second allowed
      rw [isAllowed_of_saysAllowOwner leaves, matchOwner_iff] at allowed ⊢
      exact allowed.symm
    · intro first second third firstAllowed secondAllowed
      rw [isAllowed_of_saysAllowOwner leaves, matchOwner_iff] at *
      exact firstAllowed.trans secondAllowed

end Sharing

section Samples

/-- A policy that leaves keys to their owners. -/
def ownersOnly : OperationPolicies :=
  [("default",
    { preset := some [(.symmetricKey, [(.get, .allowOwner)])] })]

theorem ownersOnly_saysAllowOwner :
    SaysAllowOwner ownersOnly (some "default") none .symmetricKey .get :=
  ⟨_, rfl, rfl⟩

theorem isShard_shardName
    (shard : String) (nonempty : shard ≠ "")
    (digits : shard.toList.all fun char => '0' ≤ char ∧ char ≤ '9') :
    IsShard 'a' "qa-de-1" (shardName 'a' shard "qa-de-1") :=
  ⟨by decide, by decide, by decide, shard, nonempty,
    fun char member => of_decide_eq_true (List.all_eq_true.mp digits char member),
    String.append_empty.symm⟩

/-- A shard may read the key of another one in its zone. -/
theorem owner_sharing_covers_zones_ownersOnly :
    isAllowed ownersOnly (some "default") (some (shardName 'a' "0" "qa-de-1"))
      none (some (shardName 'a' "12" "qa-de-1")) .symmetricKey .get = true := by
  have first := isShard_shardName "0" (by decide) (by decide)
  have second := isShard_shardName "12" (by decide) (by decide)
  have shares : SharesZone (some (shardName 'a' "0" "qa-de-1"))
      (some (shardName 'a' "12" "qa-de-1")) :=
    .inr ⟨'a', "qa-de-1", ⟨_, rfl, first⟩, _, rfl, second⟩
  refine (((owner_sharing_covers_zones_iff ownersOnly_saysAllowOwner).1 _
    _).mpr (.inr ?_)).mpr shares
  rintro letter region user ⟨⟩ owner ⟨⟩ looks -
  obtain ⟨rfl, rfl⟩ := looksLikeShard_unique looks
    (looksLikeShard_of_isShard first)
  exact iff_of_true (by decide) ⟨first, second⟩

/-- A shard name with a line feed after it passes for the shard. -/
theorem owner_sharing_covers_more :
    ¬∀ sessionUser objectOwner : Option String,
      isAllowed ownersOnly (some "default") sessionUser none objectOwner
          .symmetricKey .get = true ↔
        SharesZone sessionUser objectOwner := by
  intro covers
  let shard := shardName 'a' "0" "qa-de-1"
  have allowed : isAllowed ownersOnly (some "default")
      (some (shard ++ String.singleton lineFeed)) none (some shard)
      .symmetricKey .get = true := by
    decide +kernel
  rcases (covers _ _).mp allowed with same | ⟨letter, region, user, _⟩
  · exact absurd same (by decide +kernel)
  · obtain ⟨hostname, isUser, _, _, _, digits, _, _, named⟩ := user
    cases isUser
    have last := congrArg (fun name => name.toList.getLast?) named
    rw [String.append_empty, shardName, String.toList_append (t := ".cloud.sap"),
      List.getLast?_append] at last
    change (shard ++ String.singleton lineFeed).toList.getLast? = some 'p' at last
    exact absurd last (by decide +kernel)

end Samples

end PyKMIP
