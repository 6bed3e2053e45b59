/-
Module: RngGamePlatform.Proofs.ProjectionSigning
Purpose: What a reader of a projection accepts, across key rotations: what a key of its
  own signed, in its own scope, and nothing else.
Trusted boundary: none
Main exports: secrets, KeyIdsApart, HmacApart, verifyMetadata_metadata,
  parseMember_encodeMember, parseMember_eq_some, ProjectionSigning, projection_signing
-/
import RngGamePlatform.Projections.Integrity
import RngGamePlatform.Proofs.Lifecycle
import RngGamePlatform.Encoding.Bytes

namespace RngGamePlatform

open Encoding

/-- The secrets of a reader or a writer. -/
def ProjectionIntegrity.secrets (integrity : ProjectionIntegrity) : List Bytes :=
  integrity.previous.toList ++ [integrity.current]

/-- Distinct secrets have distinct key identifiers. -/
def KeyIdsApart (crypto : Crypto) (secrets : List Bytes) : Prop :=
  ∀ one ∈ secrets, ∀ other ∈ secrets,
    projectionKeyId crypto one = projectionKeyId crypto other → one = other

instance (crypto : Crypto) (secrets : List Bytes) : Decidable (KeyIdsApart crypto secrets) :=
  List.decidableBAll _ _

/-- The digests of different keys or messages are different. -/
def HmacApart (crypto : Crypto) (inputs : List (Bytes × Bytes)) : Prop :=
  ∀ one ∈ inputs, ∀ other ∈ inputs,
    crypto.hmacSha256 one.1 one.2 = crypto.hmacSha256 other.1 other.2 → one = other

instance (crypto : Crypto) (inputs : List (Bytes × Bytes)) :
    Decidable (HmacApart crypto inputs) :=
  List.decidableBAll _ _

section Keys

variable {crypto : Crypto} {reader : ProjectionIntegrity} {secret : Bytes}

/-- A reader finds a secret of its own by the identifier. -/
theorem lookup_own (apart : KeyIdsApart crypto (secret :: reader.secrets))
    (own : secret ∈ reader.secrets) :
    (verificationKeys crypto reader).lookup (projectionKeyId crypto secret) = some secret := by
  have found : ∀ list : List Bytes, list ⊆ reader.secrets → secret ∈ list →
      (list.map fun other => (projectionKeyId crypto other, other)).lookup
        (projectionKeyId crypto secret) = some secret := by
    intro list within member
    induction list with
    | nil => cases member
    | cons other rest ih =>
      rw [List.map_cons, List.lookup_cons]
      cases same : projectionKeyId crypto secret == projectionKeyId crypto other with
      | true =>
        have isSecret := apart secret List.mem_cons_self other
          (List.mem_cons_of_mem _ (within List.mem_cons_self)) (eq_of_beq same)
        rw [isSecret]
      | false =>
        have inRest : secret ∈ rest := by
          cases List.mem_cons.mp member with
          | inl isOther =>
            rw [isOther, beq_self_eq_true] at same
            cases same
          | inr inRest => exact inRest
        exact ih (fun _ later => within (List.mem_cons_of_mem _ later)) inRest
  exact found _ (List.Subset.refl _) own

/-- A reader finds no secret by the identifier of another one's. -/
theorem lookup_foreign (apart : KeyIdsApart crypto (secret :: reader.secrets))
    (foreign : secret ∉ reader.secrets) :
    (verificationKeys crypto reader).lookup (projectionKeyId crypto secret) = none := by
  rw [verificationKeys, List.lookup_eq_none_iff]
  intro entry member
  obtain ⟨other, inSecrets, rfl⟩ := List.mem_map.mp member
  rw [bne_iff_ne]
  intro same
  have isOther := apart secret List.mem_cons_self other
    (List.mem_cons_of_mem _ inSecrets) same
  exact foreign (isOther ▸ inSecrets)

/-- What a reader finds by an identifier is a secret of its own. -/
theorem verificationKey_mem {keyId : PyStr}
    (found : (verificationKeys crypto reader).lookup keyId = some secret) :
    secret ∈ reader.secrets ∧ projectionKeyId crypto secret = keyId := by
  rw [verificationKeys, List.lookup_eq_some_iff] at found
  obtain ⟨before, after, whole, -⟩ := found
  have member : (keyId, secret) ∈ (reader.previous.toList ++ [reader.current]).map
      fun secret => (projectionKeyId crypto secret, secret) := by
    rw [whole]
    exact List.mem_append_right _ List.mem_cons_self
  obtain ⟨other, inSecrets, same⟩ := List.mem_map.mp member
  obtain ⟨isKeyId, rfl⟩ := Prod.mk.inj same
  exact ⟨inSecrets, isKeyId⟩

/-- Digests are compared as their hexadecimal texts are. -/
theorem compareDigest_hex (one other : Digest) :
    compareDigest one.hex other.hex = .ok (decide (one = other)) := by
  rw [compareDigest_ascii one.isAscii_hex other.isAscii_hex]
  congr 1
  rw [decide_eq_decide]
  constructor
  · intro same
    exact Subtype.ext (hexOfBytes_injective same)
  · intro same
    rw [same]

end Keys

/-! Metadata. -/

section Metadata

variable {crypto : Crypto} {unicode : UnicodeDigits} {signer reader : ProjectionIntegrity}
  {contract : ProjectionGeneration}

/-- The contract with the identifier of the key that signs it. -/
def signedBy (crypto : Crypto) (signer : ProjectionIntegrity)
    (contract : ProjectionGeneration) : ProjectionGeneration :=
  { contract with keyId := currentKeyId crypto signer }

/-- The facts that a reader expects of the metadata. -/
structure Expected (contract : ProjectionGeneration) (gameKey periodStart generation : PyStr)
    (revision count : Int) : Prop where
  gameKey : contract.gameKey = gameKey
  periodStart : contract.periodStart = periodStart
  generation : contract.generation = generation
  revision : contract.revision = revision
  count : contract.count = count
  encodingVersion : contract.encodingVersion = projectionEncodingVersion

theorem unsigned_metadata : (metadata crypto signer contract).filter
    (fun field => field.1 ≠ py "signature") = metadataFields crypto signer contract := by
  simp only [metadata, metadataFields]
  rfl

theorem readMetadata_metadata : readMetadata crypto unicode reader
    (metadata crypto signer contract) =
      ((verificationKeys crypto reader).lookup (currentKeyId crypto signer)).map fun secret =>
        (projectionDigest crypto signer.current
          (jsonOfDict (metadataFields crypto signer contract)), secret,
            signedBy crypto signer contract) := by
  unfold readMetadata
  rw [unsigned_metadata]
  have signature : (metadata crypto signer contract).lookup (py "signature") =
      some (projectionDigest crypto signer.current
        (jsonOfDict (metadataFields crypto signer contract))) := rfl
  have keyId : (metadataFields crypto signer contract).lookup (py "key_id") =
      some (currentKeyId crypto signer) := rfl
  have gameKey : (metadataFields crypto signer contract).lookup (py "game_key") =
      some contract.gameKey := rfl
  have periodStart : (metadataFields crypto signer contract).lookup (py "period_start") =
      some contract.periodStart := rfl
  have generation : (metadataFields crypto signer contract).lookup (py "generation") =
      some contract.generation := rfl
  have revision : (metadataFields crypto signer contract).lookup (py "revision") =
      some (decimal contract.revision) := rfl
  have count : (metadataFields crypto signer contract).lookup (py "count") =
      some (decimal contract.count) := rfl
  have encodingVersion : (metadataFields crypto signer contract).lookup
      (py "encoding_version") = some contract.encodingVersion := rfl
  simp only [signature, keyId, gameKey, periodStart, generation, revision, count,
    encodingVersion, pyInt_decimal, Option.bind_eq_bind, Option.bind_some, Option.pure_def]
  cases (verificationKeys crypto reader).lookup (currentKeyId crypto signer) with
  | none => rfl
  | some secret => rfl

/-- Metadata is read back by its reader, as the contract of the key that has signed it,
if the reader has that key and expects its facts. -/
theorem verifyMetadata_metadata (apart : KeyIdsApart crypto (signer.current :: reader.secrets))
    (gameKey periodStart generation : PyStr) (revision count : Int) :
    ∃ answer, verifyMetadata crypto unicode reader (metadata crypto signer contract) gameKey
        periodStart generation revision count = .ok answer ∧
      (signer.current ∈ reader.secrets →
        (answer = some (signedBy crypto signer contract) ↔
          Expected contract gameKey periodStart generation revision count) ∧
        (¬Expected contract gameKey periodStart generation revision count →
          answer = none)) ∧
      (signer.current ∉ reader.secrets → answer = none) := by
  unfold verifyMetadata
  rw [readMetadata_metadata, unsigned_metadata]
  by_cases own : signer.current ∈ reader.secrets
  · have found : (verificationKeys crypto reader).lookup (currentKeyId crypto signer) =
        some signer.current := lookup_own apart own
    have names : (metadata crypto signer contract).map Prod.fst = metadataNames := rfl
    have complete : metadataNames.all (· ∈ metadataNames) = true := by decide +kernel
    rw [found, names]
    simp only [Option.map_some, complete, projectionDigest, compareDigest_hex, and_self,
      not_true_eq_false, if_false, decide_true, bind, Except.bind, Bool.not_true,
      Bool.false_eq_true]
    by_cases expected : Expected contract gameKey periodStart generation revision count
    · have agrees : ¬((signedBy crypto signer contract).gameKey ≠ gameKey ∨
          (signedBy crypto signer contract).periodStart ≠ periodStart ∨
          (signedBy crypto signer contract).generation ≠ generation ∨
          (signedBy crypto signer contract).revision ≠ revision ∨
          (signedBy crypto signer contract).count ≠ count ∨
          (signedBy crypto signer contract).encodingVersion ≠ projectionEncodingVersion) := by
        rintro (differs | differs | differs | differs | differs | differs)
        · exact differs expected.gameKey
        · exact differs expected.periodStart
        · exact differs expected.generation
        · exact differs expected.revision
        · exact differs expected.count
        · exact differs expected.encodingVersion
      rw [if_neg agrees]
      exact ⟨some (signedBy crypto signer contract), rfl,
        fun _ => ⟨⟨fun _ => expected, fun _ => rfl⟩, fun unexpected => absurd expected unexpected⟩,
        fun foreign => absurd own foreign⟩
    · have differs : (signedBy crypto signer contract).gameKey ≠ gameKey ∨
          (signedBy crypto signer contract).periodStart ≠ periodStart ∨
          (signedBy crypto signer contract).generation ≠ generation ∨
          (signedBy crypto signer contract).revision ≠ revision ∨
          (signedBy crypto signer contract).count ≠ count ∨
          (signedBy crypto signer contract).encodingVersion ≠ projectionEncodingVersion := by
        by_contra agrees
        simp only [ne_eq, not_or, not_not] at agrees
        obtain ⟨game, period, generation, revision, count, version⟩ := agrees
        exact expected ⟨game, period, generation, revision, count, version⟩
      rw [if_pos differs]
      refine ⟨none, rfl, fun _ => ⟨⟨nofun, fun isExpected => absurd isExpected expected⟩,
        fun _ => rfl⟩, fun foreign => absurd own foreign⟩
  · have notFound : (verificationKeys crypto reader).lookup (currentKeyId crypto signer) =
        none := lookup_foreign apart own
    rw [notFound]
    exact ⟨none, rfl, fun isOwn => absurd isOwn own, fun _ => rfl⟩

end Metadata

/-! Members. -/

section Splitting

theorem splitAt_cons {separator : CodePoint} {limit : Nat} {first rest : PyStr}
    (absent : separator ∉ first) :
    splitAt separator (limit + 1) (first ++ separator :: rest) =
      first :: splitAt separator limit rest := by
  have other : ∀ c ∈ first, decide (c ≠ separator) = true := by
    intro c member
    rw [decide_eq_true_eq]
    rintro rfl
    exact absent member
  have taken : (first ++ separator :: rest).takeWhile (· ≠ separator) = first := by
    rw [List.takeWhile_append_of_pos other]
    simp
  have dropped : (first ++ separator :: rest).dropWhile (· ≠ separator) =
      separator :: rest := by
    rw [List.dropWhile_append_of_pos other]
    simp
  simp only [splitAt, taken, dropped]

/-- The text of a member with the given texts of its identifiers. -/
def memberText (completedAtUs : Int) (sessionId scoreId playerId : PyStr) (rank : Int)
    (signature : PyStr) : PyStr :=
  zeroPadded 20 completedAtUs ++ codePoint ':' :: (sessionId ++ codePoint ':' ::
    (scoreId ++ codePoint ':' :: (playerId ++ codePoint ':' ::
      (zeroPadded 20 rank ++ codePoint ':' :: signature))))

theorem colon_not_padded (i : Int) : codePoint ':' ∉ zeroPadded 20 i := by
  intro member
  have isNumeral := zeroPadded_char member
  revert isNumeral
  decide

theorem colon_not_uuid (id : Uuid) : codePoint ':' ∉ uuidStr id := by
  intro member
  cases uuidStr_char member with
  | inl isHyphen => exact absurd isHyphen (by decide)
  | inr isDigit => exact absurd isDigit (by decide)

theorem splitAt_memberText {completedAtUs rank : Int} {session score player : Uuid}
    {signature : PyStr} : splitAt (codePoint ':') 5 (memberText completedAtUs
      (uuidStr session) (uuidStr score) (uuidStr player) rank signature) =
        [zeroPadded 20 completedAtUs, uuidStr session, uuidStr score, uuidStr player,
          zeroPadded 20 rank, signature] := by
  rw [memberText, splitAt_cons (colon_not_padded _), splitAt_cons (colon_not_uuid _),
    splitAt_cons (colon_not_uuid _), splitAt_cons (colon_not_uuid _),
    splitAt_cons (colon_not_padded _), splitAt]

/-- The pieces of a text give it back. -/
theorem join_splitAt {separator : CodePoint} {limit : Nat} {text : PyStr} :
    List.intercalate [separator] (splitAt separator limit text) = text := by
  induction limit generalizing text with
  | zero => rw [splitAt, List.intercalate_singleton]
  | succ limit ih =>
    simp only [splitAt]
    have whole := List.takeWhile_append_dropWhile (p := (· ≠ separator)) (l := text)
    split
    case h_1 nothing =>
      rw [nothing, List.append_nil] at whole
      rw [List.intercalate_singleton, whole]
    case h_2 c rest isRest =>
      have isSeparator : c = separator := by
        have head := List.head?_dropWhile_not (fun c => decide (c ≠ separator)) text
        rw [isRest] at head
        simpa using head
      have notEmpty : splitAt separator limit rest ≠ [] := by
        cases limit with
        | zero => simp [splitAt]
        | succ limit =>
          simp only [splitAt]
          split
          · simp
          · simp
      rw [isRest, isSeparator] at whole
      rw [List.intercalate_cons_of_ne_nil notEmpty, ih, List.append_assoc]
      exact whole

end Splitting

section Members

variable {crypto : Crypto} {unicode : UnicodeDigits} {signer reader : ProjectionIntegrity}
  {contract : ProjectionGeneration} {fields : MemberFields}

/-- The fields of a member with canonical identifiers and a rank from one. -/
structure CanonicalFields (fields : MemberFields) : Prop where
  session : ∃ id, fields.sessionId = uuidStr id
  score : ∃ id, fields.scoreId = uuidStr id
  player : ∃ id, fields.playerId = uuidStr id
  rank : 1 ≤ fields.rank

theorem encodeMember_text : encodeMember crypto signer contract fields =
    memberText fields.completedAtUs fields.sessionId fields.scoreId fields.playerId fields.rank
      (projectionDigest crypto signer.current (memberPayload contract fields)) := by
  have colon : ∀ text : PyStr, py ":" ++ text = codePoint ':' :: text := fun _ => rfl
  simp only [encodeMember, memberText, List.append_assoc, List.cons_append, colon]

/-- A member is read back, with the score that Redis gives. -/
theorem readMember_memberText {signature : PyStr} {redisScore : PyFloat}
    (canonical : CanonicalFields fields) :
    readMember crypto unicode reader contract
        (memberText fields.completedAtUs fields.sessionId fields.scoreId fields.playerId
          fields.rank signature) redisScore =
      redisScore.integer?.bind fun negated =>
        ((verificationKeys crypto reader).lookup contract.keyId).map fun secret =>
          ({ fields with finalScore := -negated }, signature, secret) := by
  obtain ⟨completedAtUs, sessionId, scoreId, playerId, finalScore, rank⟩ := fields
  obtain ⟨⟨session, rfl⟩, ⟨score, rfl⟩, ⟨player, rfl⟩, fromOne⟩ := canonical
  have notLower : ¬rank < 1 := not_lt.mpr fromOne
  simp only [readMember, splitAt_memberText, pyInt_zeroPadded, uuidOf_uuidStr,
    Option.bind_eq_bind, Option.bind_some, Option.pure_def, ne_eq, not_true_eq_false,
    if_false, notLower, or_self]
  cases redisScore.integer? with
  | none => rfl
  | some negated =>
    cases (verificationKeys crypto reader).lookup contract.keyId with
    | none => rfl
    | some secret => rfl

/-- The answer to a member of a text that the digest of its fields would sign. -/
theorem parseMember_memberText {digest : Digest} {redisScore : PyFloat}
    (canonical : CanonicalFields fields) :
    parseMember crypto unicode reader contract
        (memberText fields.completedAtUs fields.sessionId fields.scoreId fields.playerId
          fields.rank digest.hex) redisScore =
      .ok ((redisScore.integer?.bind fun negated =>
        ((verificationKeys crypto reader).lookup contract.keyId).bind fun secret =>
          let read := { fields with finalScore := -negated }
          if digest = crypto.hmacSha256 secret (canonicalPayload (memberPayload contract read))
          then some read else none)) := by
  unfold parseMember
  rw [readMember_memberText canonical]
  cases redisScore.integer? with
  | none => rfl
  | some negated =>
    cases (verificationKeys crypto reader).lookup contract.keyId with
    | none => rfl
    | some secret =>
      simp only [Option.bind_some, Option.map_some, projectionDigest, compareDigest_hex, bind,
        Except.bind, decide_eq_true_eq]
      split_ifs with same
      · rfl
      · rfl

theorem integer_of_int (i : Int) : (PyFloat.finite i).integer? = some i := by
  simp [PyFloat.integer?]

/-- A member is parsed back by a reader that has its key. -/
theorem parseMember_encodeMember
    (apart : KeyIdsApart crypto (signer.current :: reader.secrets))
    (own : signer.current ∈ reader.secrets) (canonical : CanonicalFields fields) :
    parseMember crypto unicode reader (signedBy crypto signer contract)
      (encodeMember crypto signer contract fields) (.finite (-fields.finalScore : Int)) =
        .ok (some fields) := by
  have found : (verificationKeys crypto reader).lookup
      (signedBy crypto signer contract).keyId = some signer.current := lookup_own apart own
  have read : { fields with finalScore := - -fields.finalScore } = fields := by
    rw [neg_neg]
  rw [encodeMember_text, projectionDigest, parseMember_memberText canonical, integer_of_int,
    found]
  have payload : memberPayload (signedBy crypto signer contract) fields =
      memberPayload contract fields := rfl
  simp only [Option.bind_some, read]
  rw [payload, if_pos rfl]

/-- The texts of a contract's scope have no surrogates. -/
structure ScalarScope (contract : ProjectionGeneration) : Prop where
  gameKey : Scalar contract.gameKey
  periodStart : Scalar contract.periodStart
  generation : Scalar contract.generation
  encodingVersion : Scalar contract.encodingVersion

/-- Two contracts have the same scope. -/
structure SameScope (one other : ProjectionGeneration) : Prop where
  gameKey : one.gameKey = other.gameKey
  periodStart : one.periodStart = other.periodStart
  generation : one.generation = other.generation
  encodingVersion : one.encodingVersion = other.encodingVersion

/-- The fields of the signed payload. -/
def payloadFields (contract : ProjectionGeneration) (fields : MemberFields) :
    List (PyStr × Json) :=
  [(py "encoding_version", .str contract.encodingVersion),
    (py "game_key", .str contract.gameKey),
    (py "period_start", .str contract.periodStart),
    (py "generation", .str contract.generation),
    (py "completed_at_us", .int fields.completedAtUs),
    (py "session_id", .str fields.sessionId),
    (py "score_id", .str fields.scoreId),
    (py "player_id", .str fields.playerId),
    (py "final_score", .int fields.finalScore),
    (py "rank", .int fields.rank)]

theorem scalar_memberPayload (scope : ScalarScope contract)
    (canonical : CanonicalFields fields) : (memberPayload contract fields).All Scalar := by
  obtain ⟨⟨session, isSession⟩, ⟨score, isScore⟩, ⟨player, isPlayer⟩, -⟩ := canonical
  have key : ∀ literal : String, (literal.toList.all fun c =>
      decide (c.toNat < 128) && decide (c.toNat ≠ 10)) = true → Scalar (py literal) :=
    fun literal isPlain => (line_py literal isPlain).scalar
  have id : ∀ id, Scalar (uuidStr id) := fun id => (line_uuidStr id).scalar
  rw [show memberPayload contract fields = Json.object (payloadFields contract fields) from rfl]
  apply Json.all_object
  simp only [payloadFields, List.forall_mem_cons, List.not_mem_nil, false_implies,
    implies_true, and_true, isSession, isScore, isPlayer]
  exact ⟨⟨key "encoding_version" rfl, scope.encodingVersion⟩, ⟨key "game_key" rfl, scope.gameKey⟩,
    ⟨key "period_start" rfl, scope.periodStart⟩, ⟨key "generation" rfl, scope.generation⟩,
    ⟨key "completed_at_us" rfl, trivial⟩, ⟨key "session_id" rfl, id session⟩,
    ⟨key "score_id" rfl, id score⟩, ⟨key "player_id" rfl, id player⟩,
    ⟨key "final_score" rfl, trivial⟩, ⟨key "rank" rfl, trivial⟩⟩

/-- The signed payload binds the scope and the fields. -/
theorem memberPayload_injective {contract' : ProjectionGeneration} {fields' : MemberFields}
    (scope : ScalarScope contract) (scope' : ScalarScope contract')
    (canonical : CanonicalFields fields) (canonical' : CanonicalFields fields')
    (same : canonicalPayload (memberPayload contract fields) =
      canonicalPayload (memberPayload contract' fields')) :
    SameScope contract contract' ∧ fields = fields' := by
  have texts := encodeAscii_injective (fun _ => ascii_dumps _) (fun _ => ascii_dumps _) same
  have whole := Json.dumps_scalar_injective (scalar_memberPayload scope canonical)
    (scalar_memberPayload scope' canonical') texts
  have names : ∀ contract fields, (payloadFields contract fields).map Prod.fst =
      ["encoding_version", "game_key", "period_start", "generation", "completed_at_us",
        "session_id", "score_id", "player_id", "final_score", "rank"].map py := fun _ _ => rfl
  have distinct : ((payloadFields contract fields).map Prod.fst).Nodup := by
    rw [names]
    exact List.Nodup.map (fun _ _ => py_inj.mp) (by decide +kernel)
  have parts := Json.object_injective ((names contract fields).trans (names _ _).symm)
    distinct whole
  simp only [payloadFields, List.cons.injEq, Prod.mk.injEq, Json.str.injEq, Json.int.injEq,
    true_and, and_true] at parts
  obtain ⟨version, game, period, generation, completed, session, score, player, final, rank⟩ :=
    parts
  constructor
  · exact ⟨game, period, generation, version⟩
  · cases fields
    cases fields'
    simp_all

/-- A member is refused by every reader without its key, in every other scope and with
every other score. -/
theorem parseMember_refused {contract' : ProjectionGeneration} {redisScore : PyFloat}
    (canonical : CanonicalFields fields) (scope : ScalarScope contract)
    (scope' : ScalarScope contract')
    (apart : HmacApart crypto
      ((signer.current, canonicalPayload (memberPayload contract fields)) ::
        redisScore.integer?.toList.flatMap fun negated => reader.secrets.map fun secret =>
          (secret, canonicalPayload
            (memberPayload contract' { fields with finalScore := -negated }))))
    (other : signer.current ∉ reader.secrets ∨ ¬SameScope contract contract' ∨
      redisScore ≠ .finite (-fields.finalScore : Int)) :
    parseMember crypto unicode reader contract' (encodeMember crypto signer contract fields)
      redisScore = .ok none := by
  rw [encodeMember_text, projectionDigest, parseMember_memberText canonical]
  congr 1
  cases isInteger : redisScore.integer? with
  | none => rfl
  | some negated =>
    cases found : (verificationKeys crypto reader).lookup contract'.keyId with
    | none => rfl
    | some secret =>
      simp only [Option.bind_some]
      rw [if_neg]
      intro same
      obtain ⟨inSecrets, -⟩ := verificationKey_mem found
      have checked : (secret, canonicalPayload
          (memberPayload contract' { fields with finalScore := -negated })) ∈
          (signer.current, canonicalPayload (memberPayload contract fields)) ::
            redisScore.integer?.toList.flatMap fun negated => reader.secrets.map fun secret =>
              (secret, canonicalPayload
                (memberPayload contract' { fields with finalScore := -negated })) := by
        rw [isInteger]
        simp [inSecrets]
      obtain ⟨isSecret, samePayload⟩ :=
        Prod.mk.inj (apart _ List.mem_cons_self _ checked same)
      have canonical' : CanonicalFields { fields with finalScore := -negated } :=
        ⟨canonical.session, canonical.score, canonical.player, canonical.rank⟩
      obtain ⟨sameScope, sameFields⟩ :=
        memberPayload_injective scope scope' canonical canonical' samePayload
      rcases other with foreign | otherScope | otherScore
      · exact foreign (isSecret ▸ inSecrets)
      · exact otherScope sameScope
      · apply otherScore
        have isScore : fields.finalScore = -negated :=
          congrArg MemberFields.finalScore sameFields
        cases redisScore with
        | finite value =>
          simp only [PyFloat.integer?] at isInteger
          split_ifs at isInteger with whole
          rw [isScore, neg_neg, ← Option.some.inj isInteger]
          exact congrArg PyFloat.finite ((Rat.den_eq_one_iff value).mp whole).symm
        | infinite => cases isInteger
        | nan => cases isInteger

/-- A member with other spellings of its identifiers. -/
def Respelled (unicode : UnicodeDigits) (one other : PyStr) : Prop :=
  ∃ completedAtUs session score player rank signature spelledSession spelledScore
      spelledPlayer,
    uuidOf unicode spelledSession = some session ∧ uuidOf unicode spelledScore = some score ∧
      uuidOf unicode spelledPlayer = some player ∧
      one = memberText completedAtUs spelledSession spelledScore spelledPlayer rank signature ∧
      other = memberText completedAtUs (uuidStr session) (uuidStr score) (uuidStr player) rank
        signature

/-- What is read of a member is in its text. -/
theorem readMember_eq_some {member signature : PyStr} {redisScore : PyFloat} {secret : Bytes}
    (read : readMember crypto unicode reader contract member redisScore =
      some (fields, signature, secret)) :
    CanonicalFields fields ∧ redisScore = .finite (-fields.finalScore : Int) ∧
      (verificationKeys crypto reader).lookup contract.keyId = some secret ∧
      Respelled unicode member (memberText fields.completedAtUs fields.sessionId fields.scoreId
        fields.playerId fields.rank signature) := by
  unfold readMember at read
  split at read
  case h_2 => cases read
  case h_1 completedText sessionText scoreText playerText rankText signatureText pieces =>
    have joined := @join_splitAt (codePoint ':') 5 member
    rw [pieces] at joined
    obtain ⟨completedAtUs, -, read⟩ := Option.bind_eq_some_iff.mp read
    split_ifs at read with completedPadded
    · cases read
    · obtain ⟨rank, -, read⟩ := Option.bind_eq_some_iff.mp read
      split_ifs at read with rankPadded
      · cases read
      · obtain ⟨session, isSession, read⟩ := Option.bind_eq_some_iff.mp read
        obtain ⟨score, isScore, read⟩ := Option.bind_eq_some_iff.mp read
        obtain ⟨player, isPlayer, read⟩ := Option.bind_eq_some_iff.mp read
        obtain ⟨negated, isInteger, read⟩ := Option.bind_eq_some_iff.mp read
        obtain ⟨key, found, read⟩ := Option.bind_eq_some_iff.mp read
        cases read
        obtain ⟨notLower, samePadding⟩ := not_or.mp rankPadded
        refine ⟨⟨⟨session, rfl⟩, ⟨score, rfl⟩, ⟨player, rfl⟩, not_lt.mp notLower⟩, ?_, found,
          completedAtUs, session, score, player, rank, signature, sessionText, scoreText,
          playerText, isSession, isScore, isPlayer, ?_, rfl⟩
        · cases redisScore with
          | finite value =>
            simp only [PyFloat.integer?] at isInteger
            split_ifs at isInteger with whole
            rw [neg_neg, ← Option.some.inj isInteger]
            exact congrArg PyFloat.finite ((Rat.den_eq_one_iff value).mp whole).symm
          | infinite => cases isInteger
          | nan => cases isInteger
        · rw [← joined, not_not.mp completedPadded, not_not.mp samePadding]
          simp only [List.intercalate_cons_cons, List.intercalate_singleton, memberText,
            List.append_assoc, List.cons_append, List.nil_append]

/-- An accepted member is an encoded one, up to the spelling of its identifiers. -/
theorem parseMember_eq_some {member : PyStr} {redisScore : PyFloat}
    (accepted : parseMember crypto unicode reader contract member redisScore =
      .ok (some fields)) :
    CanonicalFields fields ∧ redisScore = .finite (-fields.finalScore : Int) ∧
      ∃ secret ∈ reader.secrets, projectionKeyId crypto secret = contract.keyId ∧
        Respelled unicode member (encodeMember crypto ⟨secret, none⟩ contract fields) := by
  unfold parseMember at accepted
  cases read : readMember crypto unicode reader contract member redisScore with
  | none =>
    rw [read] at accepted
    cases accepted
  | some answer =>
    obtain ⟨readFields, signature, secret⟩ := answer
    rw [read] at accepted
    simp only [bind_eq_ok] at accepted
    obtain ⟨same, compared, accepted⟩ := accepted
    cases same with
    | false => cases accepted
    | true =>
      cases accepted
      obtain ⟨canonical, isScore, found, respelled⟩ := readMember_eq_some read
      obtain ⟨inSecrets, isKeyId⟩ := verificationKey_mem found
      have isSignature := compareDigest_eq_true compared
      refine ⟨canonical, isScore, secret, inSecrets, isKeyId, ?_⟩
      rw [encodeMember_text]
      rw [isSignature] at respelled
      exact respelled

end Members

/-! ### Signing as a whole -/

/-- What a reader does with what a writer has signed.  The contract that comes back, and
with which members are read, has the identifier of the key that signed. -/
structure ProjectionSigning (crypto : Crypto) (unicode : UnicodeDigits)
    (signer reader : ProjectionIntegrity) : Prop where
  /-- Metadata is read back as the contract exactly when its facts are expected. -/
  metadata : ∀ contract gameKey periodStart generation revision count,
    ∃ answer, verifyMetadata crypto unicode reader (metadata crypto signer contract) gameKey
        periodStart generation revision count = .ok answer ∧
      (signer.current ∈ reader.secrets →
        (answer = some (signedBy crypto signer contract) ↔
          Expected contract gameKey periodStart generation revision count) ∧
        (¬Expected contract gameKey periodStart generation revision count →
          answer = none)) ∧
      (signer.current ∉ reader.secrets → answer = none)
  /-- A member is read back. -/
  member : ∀ contract fields, CanonicalFields fields → signer.current ∈ reader.secrets →
    parseMember crypto unicode reader (signedBy crypto signer contract)
      (encodeMember crypto signer contract fields) (.finite (-fields.finalScore : Int)) =
        .ok (some fields)
  /-- It is refused without the key, in another scope and with another score. -/
  refused : ∀ contract contract' fields redisScore, CanonicalFields fields →
    ScalarScope contract → ScalarScope contract' →
    HmacApart crypto
      ((signer.current, canonicalPayload (memberPayload contract fields)) ::
        redisScore.integer?.toList.flatMap fun negated => reader.secrets.map fun secret =>
          (secret, canonicalPayload
            (memberPayload contract' { fields with finalScore := -negated }))) →
    (signer.current ∉ reader.secrets ∨ ¬SameScope contract contract' ∨
      redisScore ≠ .finite (-fields.finalScore : Int)) →
    parseMember crypto unicode reader contract' (encodeMember crypto signer contract fields)
      redisScore = .ok none
  /-- What is accepted is an encoded member, up to the spelling of its UUIDs. -/
  accepted : ∀ contract member redisScore fields,
    parseMember crypto unicode reader contract member redisScore = .ok (some fields) →
    CanonicalFields fields ∧ redisScore = .finite (-fields.finalScore : Int) ∧
      ∃ secret ∈ reader.secrets, projectionKeyId crypto secret = contract.keyId ∧
        Respelled unicode member (encodeMember crypto ⟨secret, none⟩ contract fields)

namespace Sample

def boardContract : ProjectionGeneration where
  gameKey := py "skill_check"
  periodStart := py "20260720T000000Z"
  generation := uuidStr 9
  revision := 3
  count := 2

def bestFields : MemberFields :=
  ⟨123, uuidStr 5, uuidStr 6, uuidStr 7, 99, 1⟩

/-- The writer's key is the previous one of the reader. -/
def writer : ProjectionIntegrity := ⟨List.replicate 32 1, none⟩

def rotated : ProjectionIntegrity := ⟨List.replicate 32 2, some (List.replicate 32 1)⟩

/-- One game key as a character, and as the two surrogates of its UTF-16 form. -/
def characterScope : ProjectionGeneration :=
  { boardContract with gameKey := [0x1F600], keyId := currentKeyId crypto writer }

def surrogateScope : ProjectionGeneration :=
  { boardContract with gameKey := [0xD83D, 0xDE00], keyId := currentKeyId crypto writer }

end Sample

/-- A contract without the identifier of its key does not come back, and its members are
refused; and scopes that differ in the surrogates of a character share their members. -/
theorem signing_depends_on_contract :
    KeyIdsApart Sample.crypto (Sample.writer.current :: Sample.rotated.secrets) ∧
      verifyMetadata Sample.crypto id Sample.rotated
          (metadata Sample.crypto Sample.writer Sample.boardContract) (py "skill_check")
          (py "20260720T000000Z") (uuidStr 9) 3 2 ≠ .ok (some Sample.boardContract) ∧
      parseMember Sample.crypto id Sample.rotated Sample.boardContract
          (encodeMember Sample.crypto Sample.writer Sample.boardContract Sample.bestFields)
          (.finite (-99 : Int)) = .ok none ∧
      Sample.characterScope.gameKey ≠ Sample.surrogateScope.gameKey ∧
      parseMember Sample.crypto id Sample.rotated Sample.surrogateScope
          (encodeMember Sample.crypto Sample.writer Sample.characterScope Sample.bestFields)
          (.finite (-99 : Int)) = .ok (some Sample.bestFields) := by
  decide +kernel

/-- Across key rotations a reader of a projection accepts what a key of its own signed,
in its own scope, and nothing else. -/
theorem projection_signing {crypto : Crypto} (unicode : UnicodeDigits)
    {signer reader : ProjectionIntegrity}
    (apart : KeyIdsApart crypto (signer.current :: reader.secrets)) :
    ProjectionSigning crypto unicode signer reader where
  metadata := fun _ => verifyMetadata_metadata apart
  member := fun _ _ canonical own => parseMember_encodeMember apart own canonical
  refused := fun _ _ _ _ canonical scope scope' hmac other =>
    parseMember_refused canonical scope scope' hmac other
  accepted := fun _ _ _ _ accepted => parseMember_eq_some accepted

/-- A reader with the writer's key as its previous one reads a member back, and refuses it
with another score. -/
theorem projection_signing_rotated :
    parseMember Sample.crypto id Sample.rotated
        (signedBy Sample.crypto Sample.writer Sample.boardContract)
        (encodeMember Sample.crypto Sample.writer Sample.boardContract Sample.bestFields)
        (.finite (-99 : Int)) = .ok (some Sample.bestFields) ∧
      parseMember Sample.crypto id Sample.rotated
        (signedBy Sample.crypto Sample.writer Sample.boardContract)
        (encodeMember Sample.crypto Sample.writer Sample.boardContract Sample.bestFields)
        (.finite (-100 : Int)) = .ok none := by
  have signing : ProjectionSigning Sample.crypto id Sample.writer Sample.rotated :=
    projection_signing id (by decide +kernel)
  have canonical : CanonicalFields Sample.bestFields :=
    ⟨⟨5, rfl⟩, ⟨6, rfl⟩, ⟨7, rfl⟩, by decide⟩
  have own : Sample.writer.current ∈ Sample.rotated.secrets := by decide
  have scope : ScalarScope Sample.boardContract :=
    ⟨by decide +kernel, by decide +kernel, by decide +kernel, by decide +kernel⟩
  constructor
  · exact signing.member _ _ canonical own
  · exact signing.refused _ _ _ _ canonical scope
      ⟨scope.gameKey, scope.periodStart, scope.generation, scope.encodingVersion⟩
      (by decide +kernel) (.inr (.inr (by decide)))

end RngGamePlatform
