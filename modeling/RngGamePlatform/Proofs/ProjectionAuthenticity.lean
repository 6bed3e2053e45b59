/-
Module: RngGamePlatform.Proofs.ProjectionAuthenticity
Purpose: What a reader takes from a Redis that answers anything: rows that one rebuild has
  signed for this board, at their places, or nothing.
Trusted boundary: none
Main exports: Signing, Signing.messages, Shows, Recomputed, Unforged, GenerationsApart,
  validatedGeneration_authentic, projectedPage_authentic, projectedPlayerRank_authentic,
  Authentic, projection_authentic
-/
import RngGamePlatform.Projections.Pages
import RngGamePlatform.Proofs.ProjectionSigning

namespace RngGamePlatform

open Encoding

/-! ### What was signed -/

/-- The texts of a contract's scope are basic. -/
structure BasicScope (contract : ProjectionGeneration) : Prop where
  gameKey : Basic contract.gameKey
  periodStart : Basic contract.periodStart
  generation : Basic contract.generation

/-- What one rebuild has signed: with which secret, for which contract, and which members
in the order of their ranks. -/
structure Signing (crypto : Crypto) where
  secret : Bytes
  contract : ProjectionGeneration
  members : List MemberFields
  keyId : contract.keyId = projectionKeyId crypto secret
  version : contract.encodingVersion = projectionEncodingVersion
  scope : BasicScope contract
  canonical : ∀ fields ∈ members, CanonicalFields fields
  ranks : ∀ (index : Nat) (fields : MemberFields), members[index]? = some fields →
    fields.rank = index + 1
  count : contract.count = members.length

section Signings

variable {crypto : Crypto}

/-- The key of a signing. -/
def Signing.integrity (signing : Signing crypto) : ProjectionIntegrity := ⟨signing.secret, none⟩

theorem BasicScope.scalar {contract : ProjectionGeneration} (scope : BasicScope contract)
    (version : contract.encodingVersion = projectionEncodingVersion) : ScalarScope contract where
  gameKey := fun c member => (scope.gameKey c member).2
  periodStart := fun c member => (scope.periodStart c member).2
  generation := fun c member => (scope.generation c member).2
  encodingVersion := version ▸ fun c member => (basic_py "v2" (by decide) c member).2

theorem Signing.scalar (signing : Signing crypto) : ScalarScope signing.contract :=
  signing.scope.scalar signing.version

/-- The messages that a rebuild has signed. -/
def Signing.messages (signing : Signing crypto) : List Bytes :=
  canonicalPayload (jsonOfDict (metadataFields crypto signing.integrity signing.contract)) ::
    signing.members.map fun fields => canonicalPayload (memberPayload signing.contract fields)

/-- Each rebuild has a generation of its own. -/
def GenerationsApart (signings : List (Signing crypto)) : Prop :=
  ∀ one ∈ signings, ∀ other ∈ signings,
    one.contract.generation = other.contract.generation → one = other

/-- A text is part of what Redis answers. -/
def Shows (reads : ProjectionReads) (text : PyStr) : Prop :=
  (∃ key fields, reads.hgetall key = some fields ∧ ∃ field ∈ fields, text <:+: field.2) ∨
    (∃ key start stop rows, reads.zrange key start stop = some rows ∧
      ∃ row ∈ rows, text <:+: row.1) ∨
    ∃ key field member, reads.hget key field = some (some member) ∧ text <:+: member

/-- Redis answers with a member. -/
def ShowsMember (reads : ProjectionReads) (member : PyStr) : Prop :=
  (∃ key start stop rows, reads.zrange key start stop = some rows ∧
    ∃ row ∈ rows, row.1 = member) ∨
  ∃ key field, reads.hget key field = some (some member)

theorem ShowsMember.shows {reads : ProjectionReads} {member text : PyStr}
    (shown : ShowsMember reads member) (isPart : text <:+: member) : Shows reads text := by
  rcases shown with ⟨key, start, stop, rows, answered, row, inRows, rfl⟩ | ⟨key, field, answered⟩
  · exact Or.inr (Or.inl ⟨key, start, stop, rows, answered, row, inRows, isPart⟩)
  · exact Or.inr (Or.inr ⟨key, field, member, answered, isPart⟩)

/-- The payloads whose signatures a reader recomputes: those of the metadata that Redis
answers, and those of its members beside a contract that was signed. -/
inductive Recomputed (unicode : UnicodeDigits) (reads : ProjectionReads)
    (integrity : ProjectionIntegrity) (signings : List (Signing crypto)) : Json → Prop
  | metadata {key : PyStr} {fields : TextDict} (answered : reads.hgetall key = some fields) :
      Recomputed unicode reads integrity signings
        (jsonOfDict (fields.filter fun field => field.1 ≠ py "signature"))
  | member {signing : Signing crypto} {member signature : PyStr} {score : PyFloat}
      {fields : MemberFields} {secret : Bytes} (known : signing ∈ signings)
      (shown : ShowsMember reads member)
      (read : readMember crypto unicode integrity signing.contract member score =
        some (fields, signature, secret)) :
      Recomputed unicode reads integrity signings (memberPayload signing.contract fields)

/-- Where Redis shows the signature of a recomputed payload under a secret of the reader, a
rebuild has made it. -/
def Unforged (unicode : UnicodeDigits) (reads : ProjectionReads)
    (integrity : ProjectionIntegrity) (signings : List (Signing crypto)) : Prop :=
  ∀ secret ∈ integrity.secrets, ∀ payload, Recomputed unicode reads integrity signings payload →
    Shows reads (projectionDigest crypto secret payload) →
      ∃ signing ∈ signings, signing.secret = secret ∧ canonicalPayload payload ∈ signing.messages

end Signings

/-! ### Signed texts -/

section Payloads

/-- The value of a name in a dict of distinct names. -/
theorem get?_jsonOfDict {fields : TextDict} (distinct : (fields.map Prod.fst).Nodup)
    (name : PyStr) : (jsonOfDict fields).get? name = (fields.lookup name).map Json.str := by
  rw [jsonOfDict, Json.get?_object, ← List.map_reverse, List.find?_map]
  induction fields with
  | nil => rfl
  | cons field rest ih =>
      obtain ⟨key, value⟩ := field
      obtain ⟨notInRest, distinct⟩ := List.nodup_cons.mp distinct
      rw [List.reverse_cons, List.find?_append, List.lookup_cons]
      by_cases isName : name = key
      · have absent : rest.reverse.find? ((fun field : PyStr × Json => decide (field.1 = name)) ∘
            fun field : PyStr × PyStr => (field.1, Json.str field.2)) = none := by
          rw [List.find?_eq_none]
          intro other member isKey
          have sameKey : other.1 = name := by simpa using isKey
          exact notInRest (List.mem_map.mpr
            ⟨other, List.mem_reverse.mp member, sameKey.trans isName⟩)
        rw [absent]
        simp [isName]
      · have other : (name == key) = false := by simpa using isName
        rw [other, ← ih distinct]
        simp [Ne.symm isName]

variable {crypto : Crypto} {contract : ProjectionGeneration} {fields : MemberFields}

theorem basic_decimal (i : Int) : Basic (decimal i) := by
  apply basic_of_ascii
  exact fun c member => (line_decimal i c member).1

theorem basic_zeroPadded {width : Nat} {i : Int} : Basic (zeroPadded width i) := by
  apply basic_of_ascii
  intro c member
  have isNumeral := zeroPadded_char member
  simp only [numeral, decide_eq_true_eq] at isNumeral
  omega

theorem basic_periodKeyOf (periodStart : Int) : Basic (periodKeyOf periodStart) := by
  intro c member
  simp only [periodKeyOf, List.mem_append] at member
  rcases member with ((((((year | month) | day) | letter) | hour) | minute) | second) | letter
  · exact basic_zeroPadded c year
  · exact basic_zeroPadded c month
  · exact basic_zeroPadded c day
  · exact basic_py "T" (by decide) c letter
  · exact basic_zeroPadded c hour
  · exact basic_zeroPadded c minute
  · exact basic_zeroPadded c second
  · exact basic_py "Z" (by decide) c letter

theorem basic_keyId (secret : Bytes) : Basic (projectionKeyId crypto secret) := by
  apply basic_of_ascii
  intro c member
  exact (line_hex (isHex_hexOfBytes _) c (List.mem_of_mem_take member)).1

theorem basic_metadataFields (scope : BasicScope contract)
    (version : contract.encodingVersion = projectionEncodingVersion)
    (signer : ProjectionIntegrity) :
    (jsonOfDict (metadataFields crypto signer contract)).IsBasic := by
  apply Json.isBasic_object
  intro field member
  obtain ⟨entry, inFields, rfl⟩ := List.mem_map.mp member
  simp only [metadataFields, List.mem_cons, List.not_mem_nil, or_false] at inFields
  rcases inFields with rfl | rfl | rfl | rfl | rfl | rfl | rfl
  · exact ⟨basic_py "game_key" (by decide), scope.gameKey⟩
  · exact ⟨basic_py "period_start" (by decide), scope.periodStart⟩
  · exact ⟨basic_py "generation" (by decide), scope.generation⟩
  · exact ⟨basic_py "revision" (by decide), basic_decimal _⟩
  · exact ⟨basic_py "count" (by decide), basic_decimal _⟩
  · exact ⟨basic_py "encoding_version" (by decide), version ▸ basic_py "v2" (by decide)⟩
  · exact ⟨basic_py "key_id" (by decide), basic_keyId _⟩

theorem basic_memberPayload (scope : BasicScope contract)
    (version : contract.encodingVersion = projectionEncodingVersion)
    (canonical : CanonicalFields fields) : (memberPayload contract fields).IsBasic := by
  obtain ⟨⟨session, isSession⟩, ⟨score, isScore⟩, ⟨player, isPlayer⟩, -⟩ := canonical
  rw [show memberPayload contract fields = Json.object (payloadFields contract fields) from rfl]
  apply Json.isBasic_object
  simp only [payloadFields, List.forall_mem_cons, List.not_mem_nil, false_implies,
    implies_true, and_true, isSession, isScore, isPlayer, version]
  exact ⟨⟨basic_py "encoding_version" (by decide), basic_py "v2" (by decide)⟩,
    ⟨basic_py "game_key" (by decide), scope.gameKey⟩,
    ⟨basic_py "period_start" (by decide), scope.periodStart⟩,
    ⟨basic_py "generation" (by decide), scope.generation⟩,
    ⟨basic_py "completed_at_us" (by decide), trivial⟩,
    ⟨basic_py "session_id" (by decide), basic_uuidStr session⟩,
    ⟨basic_py "score_id" (by decide), basic_uuidStr score⟩,
    ⟨basic_py "player_id" (by decide), basic_uuidStr player⟩,
    ⟨basic_py "final_score" (by decide), trivial⟩, ⟨basic_py "rank" (by decide), trivial⟩⟩

/-- A basic value is told apart from every other by its payload. -/
theorem canonicalPayload_injective {one other : Json} (basic : one.IsBasic)
    (same : canonicalPayload one = canonicalPayload other) : one = other :=
  Json.dumps_injective basic
    (encodeAscii_injective (fun _ => ascii_dumps _) (fun _ => ascii_dumps _) same)

theorem mem_of_lookup_text {texts : TextDict} {name text : PyStr}
    (found : texts.lookup name = some text) : (name, text) ∈ texts := by
  obtain ⟨before, after, whole, -⟩ := List.lookup_eq_some_iff.mp found
  rw [whole]
  exact List.mem_append_right _ List.mem_cons_self

/-- A dict of texts has no number in it. -/
theorem jsonOfDict_ne_memberPayload {texts : TextDict} (distinct : (texts.map Prod.fst).Nodup) :
    jsonOfDict texts ≠ memberPayload contract fields := by
  intro same
  have noNumber := get?_jsonOfDict distinct (py "rank")
  rw [same, show memberPayload contract fields =
    Json.object (payloadFields contract fields) from rfl, Json.get?_object] at noNumber
  have number : ((payloadFields contract fields).reverse.find? fun field =>
      field.1 = py "rank").map Prod.snd = some (.int fields.rank) := rfl
  rw [number] at noNumber
  cases found : texts.lookup (py "rank") with
  | none =>
      rw [found] at noNumber
      cases noNumber
  | some text =>
      rw [found] at noNumber
      cases noNumber

end Payloads

/-! ### Metadata -/

section Metadata

variable {crypto : Crypto} {unicode : UnicodeDigits} {integrity : ProjectionIntegrity}
  {contract : ProjectionGeneration} {fields : TextDict}

/-- What a dict of texts says of a generation. -/
structure DescribesContract (unicode : UnicodeDigits) (fields : TextDict)
    (contract : ProjectionGeneration) : Prop where
  gameKey : fields.lookup (py "game_key") = some contract.gameKey
  periodStart : fields.lookup (py "period_start") = some contract.periodStart
  generation : fields.lookup (py "generation") = some contract.generation
  revision : (fields.lookup (py "revision")).bind (pyInt unicode 10) = some contract.revision
  count : (fields.lookup (py "count")).bind (pyInt unicode 10) = some contract.count
  encodingVersion : fields.lookup (py "encoding_version") = some contract.encodingVersion
  keyId : fields.lookup (py "key_id") = some contract.keyId

/-- A dict of texts describes one generation. -/
theorem DescribesContract.unique {other : ProjectionGeneration}
    (describes : DescribesContract unicode fields contract)
    (describesOther : DescribesContract unicode fields other) : contract = other := by
  have gameKey := describes.gameKey.symm.trans describesOther.gameKey
  have periodStart := describes.periodStart.symm.trans describesOther.periodStart
  have generation := describes.generation.symm.trans describesOther.generation
  have revision := describes.revision.symm.trans describesOther.revision
  have count := describes.count.symm.trans describesOther.count
  have encodingVersion := describes.encodingVersion.symm.trans describesOther.encodingVersion
  have keyId := describes.keyId.symm.trans describesOther.keyId
  cases contract
  cases other
  simp_all

/-- Dicts of the same JSON describe the same. -/
theorem DescribesContract.of_same {others : TextDict}
    (describes : DescribesContract unicode fields contract)
    (distinct : (fields.map Prod.fst).Nodup) (distinctOthers : (others.map Prod.fst).Nodup)
    (same : jsonOfDict fields = jsonOfDict others) : DescribesContract unicode others contract := by
  have lookups : ∀ name, fields.lookup name = others.lookup name := by
    intro name
    apply Option.map_injective fun _ _ sameText => Json.str.inj sameText
    rw [← get?_jsonOfDict distinct, ← get?_jsonOfDict distinctOthers, same]
  obtain ⟨gameKey, periodStart, generation, revision, count, encodingVersion, keyId⟩ := describes
  rw [lookups] at gameKey periodStart generation revision count encodingVersion keyId
  exact ⟨gameKey, periodStart, generation, revision, count, encodingVersion, keyId⟩

theorem metadataFields_names (signer : ProjectionIntegrity) :
    ((metadataFields crypto signer contract).map Prod.fst).Nodup := by
  have names : (metadataFields crypto signer contract).map Prod.fst =
      ["game_key", "period_start", "generation", "revision", "count", "encoding_version",
        "key_id"].map py := rfl
  rw [names]
  exact List.Nodup.map (fun _ _ => py_inj.mp) (by decide +kernel)

/-- The metadata of a signing describes its contract. -/
theorem Signing.describes (unicode : UnicodeDigits) (signing : Signing crypto) :
    DescribesContract unicode (metadataFields crypto signing.integrity signing.contract)
      signing.contract where
  gameKey := rfl
  periodStart := rfl
  generation := rfl
  revision := pyInt_decimal unicode _
  count := pyInt_decimal unicode _
  encodingVersion := rfl
  keyId := by rw [signing.keyId]; rfl

/-- What is read of metadata is in its fields. -/
theorem readMetadata_eq_some {signature : PyStr} {secret : Bytes}
    (read : readMetadata crypto unicode integrity fields = some (signature, secret, contract)) :
    fields.lookup (py "signature") = some signature ∧
      DescribesContract unicode (fields.filter fun field => field.1 ≠ py "signature") contract ∧
      secret ∈ integrity.secrets ∧ projectionKeyId crypto secret = contract.keyId := by
  unfold readMetadata at read
  simp only [Option.bind_eq_bind, Option.bind_eq_some_iff, Option.pure_def] at read
  obtain ⟨readSignature, isSignature, ⟨keyText, isKeyText, key, isKey, gameKey, isGameKey,
    periodStart, isPeriodStart, generation, isGeneration, revisionText, isRevisionText, revision,
    isRevision, countText, isCountText, count, isCount, encodingVersion, isEncodingVersion, keyId,
    isKeyId, built⟩⟩ := read
  cases built
  have sameKeyId : keyText = keyId := Option.some.inj (isKeyText.symm.trans isKeyId)
  obtain ⟨inSecrets, identifies⟩ := verificationKey_mem isKey
  refine ⟨isSignature, ?_, inSecrets, identifies.trans sameKeyId⟩
  constructor
  case revision => rw [isRevisionText]; exact isRevision
  case count => rw [isCountText]; exact isCount
  case gameKey => exact isGameKey
  case periodStart => exact isPeriodStart
  case generation => exact isGeneration
  case encodingVersion => exact isEncodingVersion
  case keyId => exact isKeyId

/-- Accepted metadata describes what is expected, under the signature of a secret of the
reader. -/
theorem verifyMetadata_eq_some {gameKey periodStart generation : PyStr} {revision count : Int}
    (accepted : verifyMetadata crypto unicode integrity fields gameKey periodStart generation
      revision count = .ok (some contract)) :
    Expected contract gameKey periodStart generation revision count ∧
      DescribesContract unicode (fields.filter fun field => field.1 ≠ py "signature") contract ∧
      ∃ secret ∈ integrity.secrets, projectionKeyId crypto secret = contract.keyId ∧
        fields.lookup (py "signature") = some (projectionDigest crypto secret
          (jsonOfDict (fields.filter fun field => field.1 ≠ py "signature"))) := by
  unfold verifyMetadata at accepted
  cases read : readMetadata crypto unicode integrity fields with
  | none =>
      rw [read] at accepted
      cases accepted
  | some answer =>
      obtain ⟨signature, secret, described⟩ := answer
      rw [read] at accepted
      by_cases complete : (fields.map Prod.fst).all (· ∈ metadataNames) = true ∧
          metadataNames.all (· ∈ fields.map Prod.fst) = true
      · simp only [complete, not_true_eq_false, if_false, and_self, bind_eq_ok] at accepted
        obtain ⟨same, compared, accepted⟩ := accepted
        cases same with
        | false => cases accepted
        | true =>
            have signed := compareDigest_eq_true compared
            simp only [Bool.not_true, Bool.false_eq_true, if_false] at accepted
            split_ifs at accepted with differs
            · cases accepted
            · cases accepted
              simp only [ne_eq, not_or, not_not] at differs
              obtain ⟨gameKey, periodStart, generation, revision, count, version⟩ := differs
              obtain ⟨isSignature, describes, inSecrets, keyId⟩ := readMetadata_eq_some read
              exact ⟨⟨gameKey, periodStart, generation, revision, count, version⟩, describes,
                secret, inSecrets, keyId, signed ▸ isSignature⟩
      · simp only [complete, not_false_eq_true, if_true] at accepted
        cases accepted

end Metadata

/-! ### What a reader takes -/

/-- The results of calls that all give one. -/
theorem mapM_eq_some_iff {α β : Type} {f : α → Option β} {list : List α} {results : List β} :
    list.mapM f = some results ↔ List.Forall₂ (fun a b => f a = some b) list results := by
  induction list generalizing results with
  | nil =>
      rw [List.mapM_nil, List.forall₂_nil_left_iff]
      exact ⟨fun same => (Option.some.inj same).symm, fun same => same ▸ rfl⟩
  | cons a rest ih =>
      rw [List.mapM_cons, List.forall₂_cons_left_iff]
      simp only [Option.bind_eq_bind, Option.bind_eq_some_iff, Option.pure_def, ih]
      constructor
      · rintro ⟨b, isFirst, others, areOthers, same⟩
        exact ⟨b, others, isFirst, areOthers, (Option.some.inj same).symm⟩
      · rintro ⟨b, others, isFirst, areOthers, rfl⟩
        exact ⟨b, isFirst, others, areOthers, rfl⟩

section Taken

variable {reader : ProjectionReader} {reads : ProjectionReads}
  {integrity : ProjectionIntegrity} {contract : ProjectionGeneration} {keys : ProjectionKeys}
  {gameKey periodStart : PyStr} {count revision : Nat}
  {signings : List (Signing reader.crypto)}

/-- A validated generation has metadata in Redis that is accepted. -/
theorem validatedGeneration_eq_some
    (read : validatedGeneration reader reads integrity gameKey periodStart count revision =
      some (contract, keys)) :
    ∃ key fields generation, reads.hgetall key = some fields ∧
      verifyMetadata reader.crypto reader.unicode integrity fields gameKey periodStart generation
        revision count = .ok (some contract) := by
  unfold validatedGeneration at read
  simp only [Option.bind_eq_bind, Option.bind_eq_some_iff] at read
  obtain ⟨pointer, -, text, -, generation, -, fields, found, cardinality, -, answer, verified,
    described, isDescribed, read⟩ := read
  split_ifs at read with complete
  · cases read
    refine ⟨_, fields, uuidStr generation, found, ?_⟩
    cases verify : verifyMetadata reader.crypto reader.unicode integrity fields gameKey
        periodStart (uuidStr generation) revision count with
    | error error =>
        rw [verify] at verified
        cases verified
    | ok checked =>
        rw [verify] at verified
        cases verified
        rw [isDescribed]

/-- A validated generation is one that was signed for what is expected. -/
theorem validatedGeneration_authentic (unforged : Unforged reader.unicode reads integrity signings)
    (read : validatedGeneration reader reads integrity gameKey periodStart count revision =
      some (contract, keys)) :
    ∃ signing ∈ signings, contract = signing.contract ∧ contract.gameKey = gameKey ∧
      contract.periodStart = periodStart ∧ contract.revision = revision ∧
        contract.count = count := by
  obtain ⟨key, fields, generation, found, verified⟩ := validatedGeneration_eq_some read
  obtain ⟨expected, describes, secret, own, isKeyId, isSignature⟩ := verifyMetadata_eq_some verified
  have distinct : ((fields.filter fun field => field.1 ≠ py "signature").map Prod.fst).Nodup :=
    (reads.names key fields found).sublist (List.filter_sublist.map _)
  have shown : Shows reads (projectionDigest reader.crypto secret
      (jsonOfDict (fields.filter fun field => field.1 ≠ py "signature"))) := by
    left
    exact ⟨key, fields, found, _, mem_of_lookup_text isSignature, List.infix_rfl⟩
  obtain ⟨signing, known, -, signed⟩ := unforged secret own _ (.metadata found) shown
  refine ⟨signing, known, ?_, expected.gameKey, expected.periodStart, expected.revision,
    expected.count⟩
  rcases List.mem_cons.mp signed with metadata | member
  · have same := canonicalPayload_injective
      (basic_metadataFields signing.scope signing.version signing.integrity) metadata.symm
    exact (describes.of_same distinct (metadataFields_names _) same.symm).unique
      (signing.describes reader.unicode)
  · obtain ⟨signed, inMembers, samePayload⟩ := List.mem_map.mp member
    have same := canonicalPayload_injective (basic_memberPayload signing.scope signing.version
      (signing.canonical signed inMembers)) samePayload
    exact absurd same.symm (jsonOfDict_ne_memberPayload distinct)

/-- An authentic member has the rank it is asked for. -/
theorem memberAt_eq_some {member : PyStr} {score : PyFloat} {rank : Int} {fields : MemberFields}
    (read : memberAt reader integrity contract member score rank = some fields) :
    fields.rank = rank ∧ parseMember reader.crypto reader.unicode integrity contract member
      score = .ok (some fields) := by
  unfold memberAt at read
  simp only [Option.bind_eq_bind, Option.bind_eq_some_iff] at read
  obtain ⟨answer, parsed, parsedFields, isFields, read⟩ := read
  split_ifs at read with atRank
  cases read
  refine ⟨atRank, ?_⟩
  cases parse : parseMember reader.crypto reader.unicode integrity contract member score with
  | error error =>
      rw [parse] at parsed
      cases parsed
  | ok checked =>
      rw [parse] at parsed
      cases parsed
      rw [isFields]

/-- The fields of an authentic member are the ones that are read of it. -/
theorem readMember_of_parsed {crypto : Crypto} {unicode : UnicodeDigits} {member : PyStr}
    {score : PyFloat} {fields : MemberFields}
    (parsed : parseMember crypto unicode integrity contract member score = .ok (some fields)) :
    ∃ signature secret, readMember crypto unicode integrity contract member score =
      some (fields, signature, secret) := by
  unfold parseMember at parsed
  cases read : readMember crypto unicode integrity contract member score with
  | none =>
      rw [read] at parsed
      cases parsed
  | some found =>
      obtain ⟨found, signature, secret⟩ := found
      rw [read] at parsed
      obtain ⟨same, -, answer⟩ := bind_eq_ok.mp parsed
      cases same with
      | false => cases answer
      | true =>
          cases answer
          exact ⟨signature, secret, rfl⟩

/-- A member shows its signature. -/
theorem signature_part {unicode : UnicodeDigits} {member : PyStr} {signer : ProjectionIntegrity}
    {crypto : Crypto} {contract : ProjectionGeneration} {fields : MemberFields}
    (canonical : CanonicalFields fields)
    (respelled : Respelled unicode member (encodeMember crypto signer contract fields)) :
    projectionDigest crypto signer.current (memberPayload contract fields) <:+: member := by
  obtain ⟨completedAtUs, session, score, player, rank, signature, spelledSession, spelledScore,
    spelledPlayer, -, -, -, rfl, isEncoded⟩ := respelled
  obtain ⟨⟨ownSession, isSession⟩, ⟨ownScore, isScore⟩, ⟨ownPlayer, isPlayer⟩, -⟩ := canonical
  have pieces := congrArg (splitAt (codePoint ':') 5) isEncoded
  rw [encodeMember_text, isSession, isScore, isPlayer, splitAt_memberText, splitAt_memberText]
    at pieces
  have isSignature : projectionDigest crypto signer.current (memberPayload contract fields) =
      signature := by
    simp only [List.cons.injEq, and_true] at pieces
    exact pieces.2.2.2.2.2
  rw [isSignature]
  apply List.IsSuffix.isInfix
  refine ⟨zeroPadded 20 completedAtUs ++ codePoint ':' :: (spelledSession ++ codePoint ':' ::
    (spelledScore ++ codePoint ':' :: (spelledPlayer ++ codePoint ':' ::
      (zeroPadded 20 rank ++ [codePoint ':'])))), ?_⟩
  simp only [memberText, List.append_assoc, List.cons_append, List.nil_append]

/-- An authentic member is one of those signed with its generation, at its rank. -/
theorem memberAt_authentic (unforged : Unforged reader.unicode reads integrity signings)
    (apart : GenerationsApart signings) {signing : Signing reader.crypto}
    (known : signing ∈ signings) {member : PyStr} {score : PyFloat} {rank : Int}
    {fields : MemberFields}
    (shown : ShowsMember reads member)
    (read : memberAt reader integrity signing.contract member score rank = some fields) :
    ∃ index : Nat, rank = index + 1 ∧ signing.members[index]? = some fields := by
  obtain ⟨atRank, parsed⟩ := memberAt_eq_some read
  obtain ⟨canonical, -, secret, own, -, respelled⟩ := parseMember_eq_some parsed
  obtain ⟨signature, found, isRead⟩ := readMember_of_parsed parsed
  obtain ⟨signer, signerKnown, -, signed⟩ := unforged secret own _ (.member known shown isRead)
    (shown.shows (signature_part canonical respelled))
  rcases List.mem_cons.mp signed with metadata | isMember
  · have same := canonicalPayload_injective
      (basic_memberPayload signing.scope signing.version canonical) metadata
    exact absurd same.symm (jsonOfDict_ne_memberPayload (metadataFields_names _))
  · obtain ⟨signedFields, inMembers, samePayload⟩ := List.mem_map.mp isMember
    obtain ⟨sameScope, sameFields⟩ := memberPayload_injective signer.scalar signing.scalar
      (signer.canonical signedFields inMembers) canonical samePayload
    have isSigning := apart signer signerKnown signing known sameScope.generation
    subst isSigning sameFields
    obtain ⟨index, inRange, isAt⟩ := List.mem_iff_getElem.mp inMembers
    have found : signer.members[index]? = some signedFields := by
      rw [List.getElem?_eq_getElem inRange, isAt]
    exact ⟨index, atRank ▸ signer.ranks index signedFields found, found⟩

/-- A page that a reader takes is the slice of what was signed for this board. -/
theorem projectedPage_authentic (unforged : Unforged reader.unicode reads integrity signings)
    (apart : GenerationsApart signings) {offset limit : Nat} {rows : List MemberFields}
    (read : projectedPage reader reads integrity gameKey periodStart offset limit count
      revision = some rows) :
    ∃ signing ∈ signings, signing.contract.gameKey = gameKey ∧
      signing.contract.periodStart = periodStart ∧ signing.contract.revision = revision ∧
        signing.members.length = count ∧
          rows = (signing.members.drop offset).take limit := by
  unfold projectedPage at read
  simp only [Option.bind_eq_bind, Option.bind_eq_some_iff] at read
  obtain ⟨⟨contract, keys⟩, validated, answers, ranged, read⟩ := read
  split_ifs at read with complete
  obtain ⟨signing, known, rfl, isGame, isPeriod, isRevision, isCount⟩ :=
    validatedGeneration_authentic unforged validated
  have size : signing.members.length = count := by
    have counted := signing.count
    omega
  refine ⟨signing, known, isGame, isPeriod, isRevision, size, ?_⟩
  have rowAt := mapM_eq_some_iff.mp read
  have lengths : rows.length = min limit (signing.members.length - offset) := by
    rw [← rowAt.length_eq, List.length_zipIdx, complete, size]
  apply List.ext_getElem
  · rw [lengths, List.length_take, List.length_drop]
  · intro index inRows inSlice
    have inAnswers : index < answers.length := by
      rw [← rowAt.length_eq, List.length_zipIdx] at inRows
      exact inRows
    have isAt := rowAt.get (by rw [List.length_zipIdx]; exact inAnswers) inRows
    simp only [List.get_eq_getElem, List.getElem_zipIdx] at isAt
    have shown : ShowsMember reads answers[index].1 := by
      left
      exact ⟨_, _, _, answers, ranged, answers[index], List.getElem_mem inAnswers, rfl⟩
    obtain ⟨place, atPlace, isEntry⟩ := memberAt_authentic unforged apart known shown isAt
    have isPlace : place = offset + index := by
      push_cast at atPlace
      omega
    rw [List.getElem_take, List.getElem_drop]
    obtain ⟨inMembers, isMember⟩ := List.getElem?_eq_some_iff.mp isEntry
    subst isPlace
    exact isMember.symm

/-- A rank that a reader takes is that of a member of the player that was signed for this
board. -/
theorem projectedPlayerRank_authentic (unforged : Unforged reader.unicode reads integrity signings)
    (apart : GenerationsApart signings) {playerId : PyStr} {fields : MemberFields}
    (read : projectedPlayerRank reader reads integrity gameKey periodStart playerId count
      revision = some fields) :
    ∃ signing ∈ signings, signing.contract.gameKey = gameKey ∧
      signing.contract.periodStart = periodStart ∧ signing.contract.revision = revision ∧
        signing.members.length = count ∧ fields.playerId = playerId ∧
          ∃ index : Nat, fields.rank = index + 1 ∧ signing.members[index]? = some fields := by
  unfold projectedPlayerRank at read
  simp only [Option.bind_eq_bind, Option.bind_eq_some_iff] at read
  obtain ⟨⟨contract, keys⟩, validated, answer, found, member, isMember, scoreAnswer, scored, score,
    isScore, rankAnswer, ranked, rank, isRank, parsed, isAt, read⟩ := read
  split_ifs at read with ofPlayer
  cases read
  obtain ⟨signing, known, rfl, isGame, isPeriod, isRevision, isCount⟩ :=
    validatedGeneration_authentic unforged validated
  have size : signing.members.length = count := by
    have counted := signing.count
    omega
  have shown : ShowsMember reads member := Or.inr ⟨_, _, isMember ▸ found⟩
  obtain ⟨index, atIndex, isEntry⟩ := memberAt_authentic unforged apart known shown isAt
  exact ⟨signing, known, isGame, isPeriod, isRevision, size, ofPlayer, index,
    (memberAt_eq_some isAt).1.trans atIndex, isEntry⟩

end Taken

/-- What a reader of a Redis that answers anything takes of it. -/
structure Authentic (reader : ProjectionReader) (reads : ProjectionReads)
    (integrity : ProjectionIntegrity) (signings : List (Signing reader.crypto)) : Prop where
  /-- A page is the slice of what one rebuild has signed for the board, of the revision and
  the count that are expected. -/
  page : ∀ gameKey periodStart offset limit count revision rows,
    projectedPage reader reads integrity gameKey periodStart offset limit count revision =
      some rows →
    ∃ signing ∈ signings, signing.contract.gameKey = gameKey ∧
      signing.contract.periodStart = periodStart ∧ signing.contract.revision = (revision : Int) ∧
        signing.members.length = count ∧ rows = (signing.members.drop offset).take limit
  /-- A rank is that of a member of the player in it. -/
  rank : ∀ gameKey periodStart playerId count revision fields,
    projectedPlayerRank reader reads integrity gameKey periodStart playerId count revision =
      some fields →
    ∃ signing ∈ signings, signing.contract.gameKey = gameKey ∧
      signing.contract.periodStart = periodStart ∧ signing.contract.revision = (revision : Int) ∧
        signing.members.length = count ∧ fields.playerId = playerId ∧
          ∃ index : Nat, fields.rank = index + 1 ∧ signing.members[index]? = some fields

/-- Whatever Redis answers, as long as it shows no forged signature, a reader takes pages
and ranks of what one rebuild has signed for this board and these facts, and nothing else:
no row is missing, doubled, moved or from another board. -/
theorem projection_authentic {reader : ProjectionReader} {reads : ProjectionReads}
    {integrity : ProjectionIntegrity} {signings : List (Signing reader.crypto)}
    (unforged : Unforged reader.unicode reads integrity signings)
    (apart : GenerationsApart signings) :
    Authentic reader reads integrity signings where
  page := fun _ _ _ _ _ _ _ read => projectedPage_authentic unforged apart read
  rank := fun _ _ _ _ _ _ read => projectedPlayerRank_authentic unforged apart read

namespace Sample

/-- The contract and the member of the one entry of the board. -/
def spinContract : ProjectionGeneration where
  gameKey := py "daily_spin"
  periodStart := periodKeyOf (-259200000000)
  generation := uuidStr 9
  revision := 1
  count := 1
  keyId := (digestOf 0).hex.take 16

def spinFields : MemberFields := ⟨3000, uuidStr 32, uuidStr 45, uuidStr 1, 10, 1⟩

/-- The metadata before its signature. -/
def spinMetadata : TextDict :=
  [(py "game_key", py "daily_spin"), (py "period_start", periodKeyOf (-259200000000)),
    (py "generation", uuidStr 9), (py "revision", decimal 1), (py "count", decimal 1),
    (py "encoding_version", py "v2"), (py "key_id", (digestOf 0).hex.take 16)]

/-- What is signed of the board with the one entry. -/
def spinMessages : List Bytes :=
  [canonicalPayload (jsonOfDict spinMetadata),
    canonicalPayload (memberPayload spinContract spinFields)]

/-- Hash functions of which only the signed messages have digests that Redis shows. -/
def signedOnly : Crypto where
  sha256 := fun _ => digestOf 0
  hmacSha256 := fun _ message => digestOf (spinMessages.idxOf message + 1)

def shownMetadata : TextDict := spinMetadata ++ [(py "signature", (digestOf 1).hex)]

theorem shownMetadata_names : (shownMetadata.map Prod.fst).Nodup := by decide +kernel

def shownMember : PyStr :=
  memberText 3000 (uuidStr 32) (uuidStr 45) (uuidStr 1) 1 (digestOf 2).hex

def spinReads : ProjectionReads where
  get := fun _ => some (some (uuidStr 9))
  hgetall := fun _ => some shownMetadata
  zcard := fun _ => some 1
  zrange := fun _ start _ => if start = 0 then some [(shownMember, .finite (-10))] else some []
  hget := fun _ _ => some (some shownMember)
  zscore := fun _ _ => some (some (.finite (-10)))
  zrank := fun _ _ => some (some 0)
  names := by
    intro key fields answered
    cases answered
    exact shownMetadata_names

def spinReader : ProjectionReader where
  crypto := signedOnly
  unicode := id
  redisKeyNamespace := []
  client := some spinReads
  integrity := some writer


/-- The texts that Redis shows. -/
def shownTexts : List PyStr := shownMember :: shownMetadata.map Prod.snd

theorem shown_texts {text : PyStr} (shows : Shows spinReads text) :
    ∃ shown ∈ shownTexts, text <:+: shown := by
  rcases shows with ⟨key, fields, answered, field, member, isPart⟩ |
    ⟨key, start, stop, rows, answered, row, member, isPart⟩ | ⟨key, field, shown, answered, isPart⟩
  · cases answered
    exact ⟨field.2, List.mem_cons_of_mem _ (List.mem_map_of_mem member), isPart⟩
  · simp only [spinReads] at answered
    split at answered
    · cases answered
      cases List.mem_singleton.mp member
      exact ⟨shownMember, List.mem_cons_self, isPart⟩
    · cases answered
      cases member
  · cases answered
    exact ⟨shownMember, List.mem_cons_self, isPart⟩

theorem unsigned_not_shown :
    ∀ shown ∈ shownTexts, ¬(digestOf (spinMessages.length + 1)).hex <:+: shown := by
  decide +kernel

/-- Redis shows no digest of a message that was not signed. -/
theorem signed_of_shown {secret message : Bytes}
    (shows : Shows spinReads (signedOnly.hmacSha256 secret message).hex) :
    message ∈ spinMessages := by
  by_contra unsigned
  obtain ⟨shown, member, isPart⟩ := shown_texts shows
  have isDigest : signedOnly.hmacSha256 secret message =
      digestOf (spinMessages.length + 1) := by
    simp only [signedOnly, List.idxOf_eq_length unsigned]
  exact unsigned_not_shown shown member (isDigest ▸ isPart)

theorem spin_page : spinReader.page (py "daily_spin") (-259200000000) 0 (1 + 1) 1 1 =
    some [spinFields] := by decide +kernel

theorem spin_rank : spinReader.rank (py "daily_spin") (-259200000000) 1 1 1 =
    some spinFields := by decide +kernel

def spinSigning : Signing signedOnly where
  secret := writer.current
  contract := spinContract
  members := [spinFields]
  keyId := rfl
  version := rfl
  scope :=
    { gameKey := basic_py "daily_spin" (by decide)
      periodStart := basic_periodKeyOf _
      generation := basic_uuidStr 9 }
  canonical := by
    intro fields member
    cases List.mem_singleton.mp member
    exact ⟨⟨32, rfl⟩, ⟨45, rfl⟩, ⟨1, rfl⟩, by decide⟩
  ranks := by
    intro index fields found
    cases index with
    | zero =>
        cases found
        rfl
    | succ index => cases found
  count := rfl

theorem spinSigning_messages : spinSigning.messages = spinMessages := by decide +kernel

theorem spin_unforged : Unforged id spinReads writer [spinSigning] := by
  intro secret isSecret payload _ shows
  refine ⟨spinSigning, List.mem_singleton.mpr rfl, ?_, ?_⟩
  · exact (List.mem_singleton.mp isSecret).symm
  · exact spinSigning_messages ▸ signed_of_shown shows

end Sample

/-- A Redis with one signed member gives it. -/
theorem projection_authentic_spin :
    projectedPage Sample.spinReader Sample.spinReads Sample.writer (py "daily_spin")
        (periodKeyOf (-259200000000)) 0 2 1 1 = some [Sample.spinFields] ∧
      ∃ signing ∈ [Sample.spinSigning], signing.members.take 2 = [Sample.spinFields] := by
  have authentic : Authentic Sample.spinReader Sample.spinReads Sample.writer
      [Sample.spinSigning] := by
    apply projection_authentic Sample.spin_unforged
    intro one isOne other isOther _
    rw [List.mem_singleton.mp isOne, List.mem_singleton.mp isOther]
  have page : projectedPage Sample.spinReader Sample.spinReads Sample.writer (py "daily_spin")
      (periodKeyOf (-259200000000)) 0 2 1 1 = some [Sample.spinFields] := by decide +kernel
  obtain ⟨signing, known, -, -, -, -, isRows⟩ := authentic.page _ _ _ _ _ _ _ page
  exact ⟨page, signing, known, isRows.symm⟩

end RngGamePlatform
