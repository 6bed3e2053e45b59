/-
Module: RngGamePlatform.Proofs.ServedProjection
Purpose: While the pointer names a rebuild that has not taken its generation back, readers
  of the projection get its whole board, in every run of rebuilds next to each other.
Trusted boundary: none
Main exports: Holds, validatedGeneration_holds, projectedPage_holds,
  projectedPlayerRank_holds, Serving, serving_after, holds_of_pointer, Served, projection_served
-/
import RngGamePlatform.Proofs.ProjectionAuthenticity
import RngGamePlatform.Proofs.StaleGenerations

namespace RngGamePlatform

open Encoding Stores

/-! ### A cache that holds a board -/

section Holding

variable {settings : RebuildSettings} {generation : Uuid} {revision : Nat}
  {scores : List FinalScore} {cache : Cache}

/-- The pointer names the generation, and its keys are as they were published. -/
structure Holds (settings : RebuildSettings) (generation : Uuid) (revision : Nat)
    (scores : List FinalScore) (cache : Cache) : Prop where
  pointer : cache (pointerKey settings) = some ⟨.text (uuidStr generation), false⟩
  keys : ∀ key ∈ (generationKeys settings (uuidStr generation)).all, cache key =
    publishGeneration settings (uuidStr generation) revision scores Redis.empty key

/-- The contract of a board. -/
def boardContractOf (settings : RebuildSettings) (generation : Uuid) (revision : Nat)
    (scores : List FinalScore) : ProjectionGeneration :=
  contractOf settings (uuidStr generation) revision scores.length

/-- The fields of the members of a board, in its order. -/
def boardFields (settings : RebuildSettings) (scores : List FinalScore) : List MemberFields :=
  (scores.zipIdx 1).map fun numbered => fieldsOf settings numbered.1 numbered.2

/-- A reader of the store with the keys. -/
def readerOf (settings : RebuildSettings) (unicode : UnicodeDigits) (cache : Cache)
    (integrity : ProjectionIntegrity) : ProjectionReader where
  crypto := settings.crypto
  unicode := unicode
  redisKeyNamespace := settings.redisKeyNamespace
  client := some (storeReads cache)
  integrity := some integrity

theorem Holds.at_metadata (holds : Holds settings generation revision scores cache) :
    cache (generationKeys settings (uuidStr generation)).metadata =
      some ⟨.hash (metadata settings.crypto settings.integrity
        (boardContractOf settings generation revision scores)), false⟩ := by
  have inKeys : (generationKeys settings (uuidStr generation)).metadata ∈
      (generationKeys settings (uuidStr generation)).all :=
    List.mem_cons_of_mem _ List.mem_cons_self
  have apart := @generationKeys_apart settings (uuidStr generation)
  simp only [ProjectionKeys.all, List.nodup_cons, List.mem_cons, List.not_mem_nil, or_false,
    not_or, not_false_eq_true, List.nodup_nil, and_true] at apart
  obtain ⟨⟨notMetadata, notPlayers⟩, notPlayers'⟩ := apart
  rw [holds.keys _ inKeys]
  simp only [publishGeneration]
  rw [Redis.set_other (ne_pointer_of_key inKeys).symm, Redis.hset_fresh, Redis.put_same]
  · rfl
  · split_ifs
    · rfl
    · rw [Redis.zadd_other (Ne.symm notMetadata)]
      rfl
    · rw [Redis.hset_other notPlayers']
      rfl
    · rw [Redis.hset_other notPlayers', Redis.zadd_other (Ne.symm notMetadata)]
      rfl

theorem Holds.at_members (holds : Holds settings generation revision scores cache)
    (board : CanonicalBoard settings scores) :
    cache (generationKeys settings (uuidStr generation)).members =
      if scores = [] then none
      else some ⟨.sortedSet (SortedSet.empty.addAll
        (expectedProjection settings (uuidStr generation) revision scores)), false⟩ := by
  rw [holds.keys _ List.mem_cons_self]
  exact (publishGeneration_entries board fun _ _ => rfl).1

theorem Holds.at_players (holds : Holds settings generation revision scores cache)
    (board : CanonicalBoard settings scores) :
    cache (generationKeys settings (uuidStr generation)).players =
      if scores = [] then none
      else some ⟨.hash (expectedPlayers settings (uuidStr generation) revision scores),
        false⟩ := by
  rw [holds.keys _ (List.mem_cons_of_mem _ (List.mem_cons_of_mem _ List.mem_cons_self))]
  exact (publishGeneration_entries board fun _ _ => rfl).2

end Holding

/-! ### What a reader gets -/

section Getting

variable {settings : RebuildSettings} {generation : Uuid} {revision : Nat}
  {scores : List FinalScore} {cache : Cache} {unicode : UnicodeDigits}
  {integrity : ProjectionIntegrity}

/-- The keys of a reader include the one that has signed, and it finds it. -/
structure ReadsKey (settings : RebuildSettings) (integrity : ProjectionIntegrity) : Prop where
  own : settings.integrity.current ∈ integrity.secrets
  apart : KeyIdsApart settings.crypto (settings.integrity.current :: integrity.secrets)

theorem metadata_names (contract : ProjectionGeneration) :
    ((metadata settings.crypto settings.integrity contract).map Prod.fst).Nodup := by
  have names : (metadata settings.crypto settings.integrity contract).map Prod.fst =
      ["game_key", "period_start", "generation", "revision", "count", "encoding_version",
        "key_id", "signature"].map py := rfl
  rw [names]
  exact List.Nodup.map (fun _ _ => py_inj.mp) (by decide +kernel)

theorem Holds.get_pointer (holds : Holds settings generation revision scores cache) :
    (storeReads cache).get (pointerKey settings) = some (some (uuidStr generation)) := by
  simp only [storeReads, holds.pointer]

theorem Holds.hgetall_metadata (holds : Holds settings generation revision scores cache) :
    (storeReads cache).hgetall (generationKeys settings (uuidStr generation)).metadata =
      some (metadata settings.crypto settings.integrity
        (boardContractOf settings generation revision scores)) := by
  simp only [storeReads, holds.at_metadata, dictOf_distinct (metadata_names _)]

theorem expectedProjection_length : (expectedProjection settings (uuidStr generation) revision
    scores).length = scores.length := by
  simp [expectedProjection, encodedBoard]

theorem expectedProjection_names (board : CanonicalBoard settings scores) :
    ((expectedProjection settings (uuidStr generation) revision scores).map
      Prod.fst).Nodup := by
  rw [expectedProjection, List.map_map]
  exact members_distinct board

theorem Holds.zcard_members (holds : Holds settings generation revision scores cache)
    (board : CanonicalBoard settings scores) :
    (storeReads cache).zcard (generationKeys settings (uuidStr generation)).members =
      some (scores.length : Int) := by
  simp only [storeReads, holds.at_members board]
  split_ifs with noScores
  · rw [noScores]
    rfl
  · have entries : (SortedSet.empty.addAll (expectedProjection settings (uuidStr generation)
        revision scores)).entries = [] ++ expectedProjection settings (uuidStr generation)
          revision scores :=
      SortedSet.addAll_entries SortedSet.empty (expectedProjection_names board)
    simp only [SortedSet.card, entries, List.nil_append, expectedProjection_length]

/-- The generation is accepted exactly for its own count and revision. -/
theorem validatedGeneration_holds (holds : Holds settings generation revision scores cache)
    (board : CanonicalBoard settings scores) (key : ReadsKey settings integrity)
    (expectedCount expectedRevision : Nat) :
    validatedGeneration (readerOf settings unicode cache integrity) (storeReads cache) integrity
        settings.gameKey settings.periodKey expectedCount expectedRevision =
      if expectedCount = scores.length ∧ expectedRevision = revision then
        some (boardContractOf settings generation revision scores,
          generationKeys settings (uuidStr generation))
      else none := by
  have pointer : (storeReads cache).get (leaderboardPointerKey settings.gameKey
      settings.periodKey (readerOf settings unicode cache integrity).redisKeyNamespace) =
      some (some (uuidStr generation)) := holds.get_pointer
  have keys : projectionGenerationKeys settings.gameKey settings.periodKey (uuidStr generation)
      (readerOf settings unicode cache integrity).redisKeyNamespace =
      generationKeys settings (uuidStr generation) := rfl
  obtain ⟨answer, verified, accepted, -⟩ := @verifyMetadata_metadata settings.crypto unicode
    settings.integrity integrity (boardContractOf settings generation revision scores) key.apart
    settings.gameKey settings.periodKey (uuidStr generation) expectedRevision expectedCount
  obtain ⟨isContract, isNone⟩ := accepted key.own
  have signed : signedBy settings.crypto settings.integrity
      (boardContractOf settings generation revision scores) =
      boardContractOf settings generation revision scores := rfl
  simp only [validatedGeneration, pointer, uuidOf_uuidStr, Option.bind_eq_bind,
    Option.bind_some, keys, holds.hgetall_metadata, holds.zcard_members board]
  have sameCrypto : (readerOf settings unicode cache integrity).crypto = settings.crypto := rfl
  have sameUnicode : (readerOf settings unicode cache integrity).unicode = unicode := rfl
  rw [sameCrypto, sameUnicode, verified]
  by_cases expected : expectedCount = scores.length ∧ expectedRevision = revision
  · obtain ⟨rfl, rfl⟩ := expected
    have agrees : Expected (boardContractOf settings generation expectedRevision scores)
        settings.gameKey settings.periodKey (uuidStr generation) expectedRevision
        scores.length := ⟨rfl, rfl, rfl, rfl, rfl, rfl⟩
    rw [isContract.mpr agrees, signed]
    simp [Except.toOption]
  · have differs : ¬Expected (boardContractOf settings generation revision scores)
        settings.gameKey settings.periodKey (uuidStr generation) expectedRevision
        expectedCount := by
      intro agrees
      have sameCount : ((scores.length : Nat) : Int) = expectedCount := agrees.count
      have sameRevision : ((revision : Nat) : Int) = expectedRevision := agrees.revision
      exact expected ⟨by omega, by omega⟩
    rw [isNone differs, if_neg expected]
    rfl

/-- An encoded member of the board is read back at its rank. -/
theorem memberAt_board (key : ReadsKey settings integrity) (score : FinalScore) (index : Nat)
    {rank : Int} (isRank : rank = (index : Int) + 1) :
    memberAt (readerOf settings unicode cache integrity) integrity
        (boardContractOf settings generation revision scores)
        (encodeMember settings.crypto settings.integrity
          (contractOf settings (uuidStr generation) revision scores.length)
          (fieldsOf settings score (index + 1)))
        (.finite (-score.finalScore : Int)) rank =
      some (fieldsOf settings score (index + 1)) := by
  have canonical : CanonicalFields (fieldsOf settings score (index + 1)) := by
    refine ⟨⟨_, rfl⟩, ⟨_, rfl⟩, ⟨_, rfl⟩, ?_⟩
    show (1 : Int) ≤ ((index + 1 : Nat) : Int)
    omega
  have parsed : parseMember settings.crypto unicode integrity
      (boardContractOf settings generation revision scores)
      (encodeMember settings.crypto settings.integrity
        (contractOf settings (uuidStr generation) revision scores.length)
        (fieldsOf settings score (index + 1)))
      (.finite (-score.finalScore : Int)) =
        .ok (some (fieldsOf settings score (index + 1))) :=
    parseMember_encodeMember key.apart key.own canonical
  have sameCrypto : (readerOf settings unicode cache integrity).crypto = settings.crypto := rfl
  have sameUnicode : (readerOf settings unicode cache integrity).unicode = unicode := rfl
  have ownRank : (fieldsOf settings score (index + 1)).rank = rank :=
    (Int.natCast_succ index).trans isRank.symm
  unfold memberAt
  rw [sameCrypto, sameUnicode, parsed]
  simp [Except.toOption, ownRank]

/-- The entries of a range of ranks from the front. -/
theorem rangeOf_slice {α : Type} (offset limit : Nat) (positive : 1 ≤ limit)
    (entries : List α) :
    rangeOf offset ((offset : Int) + limit - 1) entries = (entries.drop offset).take limit := by
  have front : ¬(offset : Int) < 0 := by omega
  have back : ¬(offset : Int) + limit - 1 < 0 := by omega
  have size : ((offset : Int) + limit - 1 - offset + 1).toNat = limit := by omega
  simp only [rangeOf, if_neg front, if_neg back, size, Int.toNat_natCast]

theorem Holds.zrange_members (holds : Holds settings generation revision scores cache)
    (board : CanonicalBoard settings scores) (offset limit : Nat) (positive : 1 ≤ limit) :
    (storeReads cache).zrange (generationKeys settings (uuidStr generation)).members offset
        ((offset : Int) + limit - 1) =
      some ((((expectedProjection settings (uuidStr generation) revision scores).drop
        offset).take limit).map fun entry => (entry.1, .finite entry.2)) := by
  simp only [storeReads, holds.at_members board]
  split_ifs with noScores
  · rw [noScores]
    simp [expectedProjection, encodedBoard]
  · have listed : (SortedSet.empty.addAll (expectedProjection settings (uuidStr generation)
        revision scores)).range = expectedProjection settings (uuidStr generation) revision
          scores :=
      SortedSet.range_addAll (entries_increasing board) (expectedProjection_names board)
    simp only [listed, rangeOf_slice offset limit positive]

theorem boardFields_getElem? (index : Nat) : (boardFields settings scores)[index]? =
    scores[index]?.map fun score => fieldsOf settings score (index + 1) := by
  rw [boardFields, List.getElem?_map, List.getElem?_zipIdx, Option.map_map, Nat.add_comm]
  rfl

/-- A page of the held board is its slice. -/
theorem projectedPage_holds (holds : Holds settings generation revision scores cache)
    (board : CanonicalBoard settings scores) (key : ReadsKey settings integrity)
    (offset limit : Nat) (positive : 1 ≤ limit) :
    projectedPage (readerOf settings unicode cache integrity) (storeReads cache) integrity
        settings.gameKey settings.periodKey offset limit scores.length revision =
      some (((boardFields settings scores).drop offset).take limit) := by
  have validated := @validatedGeneration_holds _ _ _ _ _ unicode _ holds board key scores.length
    revision
  rw [if_pos ⟨rfl, rfl⟩] at validated
  simp only [projectedPage, validated, Option.bind_eq_bind, Option.bind_some,
    holds.zrange_members board offset limit positive]
  have size : ((((expectedProjection settings (uuidStr generation) revision scores).drop
      offset).take limit).map fun entry => (entry.1, PyFloat.finite (entry.2 : Int))).length =
      min limit (scores.length - offset) := by
    rw [List.length_map, List.length_take, List.length_drop, expectedProjection_length]
  rw [if_pos size, mapM_eq_some_iff, List.forall₂_iff_get]
  constructor
  · rw [List.length_zipIdx, size, List.length_take, List.length_drop, boardFields,
      List.length_map, List.length_zipIdx]
  · intro index inRows inFields
    have inScores : offset + index < scores.length := by
      rw [List.length_zipIdx, size] at inRows
      omega
    have isEntry := @expectedProjection_get settings (uuidStr generation) revision scores
      (offset + index)
    have isFields := @boardFields_getElem? settings scores (offset + index)
    rw [List.getElem?_eq_getElem inScores, Option.map_some] at isEntry isFields
    obtain ⟨inEntries, isEntry⟩ := List.getElem?_eq_some_iff.mp isEntry
    obtain ⟨inBoard, isFields⟩ := List.getElem?_eq_some_iff.mp isFields
    simp only [List.get_eq_getElem, List.getElem_zipIdx, List.getElem_map, List.getElem_take,
      List.getElem_drop, isEntry, isFields]
    apply memberAt_board key
    omega

/-- The member of a player that the players' hash names. -/
theorem Holds.hget_players (holds : Holds settings generation revision scores cache)
    (board : CanonicalBoard settings scores) (playerId : PyStr) :
    (storeReads cache).hget (generationKeys settings (uuidStr generation)).players playerId =
      some (((expectedPlayers settings (uuidStr generation) revision scores).find?
        fun entry => entry.1 = playerId).map Prod.snd) := by
  simp only [storeReads, holds.at_players board]
  split_ifs with noScores
  · rw [noScores]
    rfl
  · have once : ((expectedPlayers settings (uuidStr generation) revision scores).map
        Prod.fst).Nodup := (setDefaults_spec _).1
    simp only [find_reverse once]

/-- The best entry of a player is read back at its rank. -/
theorem projectedPlayerRank_holds (holds : Holds settings generation revision scores cache)
    (board : CanonicalBoard settings scores) (key : ReadsKey settings integrity)
    {score : FinalScore} (member : score ∈ scores) :
    ∃ position best, scores[position]? = some best ∧ best.playerId = score.playerId ∧
      (∀ other ∈ scores, other.playerId = score.playerId → rankKey best ≤ rankKey other) ∧
      projectedPlayerRank (readerOf settings unicode cache integrity) (storeReads cache)
          integrity settings.gameKey settings.periodKey (uuidStr score.playerId) scores.length
          revision =
        some (fieldsOf settings best (position + 1)) := by
  obtain ⟨position, best, isBest, ofPlayer, least, found⟩ :=
    @exists_best _ (uuidStr generation) revision _ board _ member
  refine ⟨position, best, isBest, ofPlayer, least, ?_⟩
  have someScores : scores ≠ [] := List.ne_nil_of_mem member
  have here : (expectedProjection settings (uuidStr generation) revision scores)[position]? =
      some (encodeMember settings.crypto settings.integrity
        (contractOf settings (uuidStr generation) revision scores.length)
        (fieldsOf settings best (position + 1)), -best.finalScore) := by
    rw [expectedProjection_get, isBest]
    rfl
  have names := @expectedProjection_names settings generation revision scores board
  have scored : (SortedSet.empty.addAll (expectedProjection settings (uuidStr generation)
      revision scores)).score? (encodeMember settings.crypto settings.integrity
        (contractOf settings (uuidStr generation) revision scores.length)
        (fieldsOf settings best (position + 1))) = some (-best.finalScore) :=
    SortedSet.score?_addAll names (List.mem_of_getElem? here)
  have ranked := SortedSet.rank?_addAll (entries_increasing board) names here
  have validated := @validatedGeneration_holds _ _ _ _ _ unicode _ holds board key scores.length
    revision
  rw [if_pos ⟨rfl, rfl⟩] at validated
  have named : (storeReads cache).hget
      (generationKeys settings (uuidStr generation)).players (uuidStr score.playerId) =
      some (some (encodeMember settings.crypto settings.integrity
        (contractOf settings (uuidStr generation) revision scores.length)
        (fieldsOf settings best (position + 1)))) := by
    rw [holds.hget_players board, found]
    rfl
  have isScore : (storeReads cache).zscore
      (generationKeys settings (uuidStr generation)).members
      (encodeMember settings.crypto settings.integrity
        (contractOf settings (uuidStr generation) revision scores.length)
        (fieldsOf settings best (position + 1))) =
      some (some (.finite (-best.finalScore : Int))) := by
    simp only [storeReads, holds.at_members board, if_neg someScores, scored, Option.map_some]
  have isRank : (storeReads cache).zrank
      (generationKeys settings (uuidStr generation)).members
      (encodeMember settings.crypto settings.integrity
        (contractOf settings (uuidStr generation) revision scores.length)
        (fieldsOf settings best (position + 1))) = some (some (position : Int)) := by
    simp only [storeReads, holds.at_members board, if_neg someScores]
    exact congrArg (fun rank => some (Option.map Nat.cast rank)) ranked
  simp only [projectedPlayerRank, validated, named, isScore, isRank, Option.bind_eq_bind,
    Option.bind_some]
  have isMember := @memberAt_board settings generation revision scores cache unicode integrity
    key best position _ rfl
  rw [isMember, Option.bind_some]
  exact if_pos (congrArg uuidStr ofPlayer)

/-- A player without entries has no rank. -/
theorem projectedPlayerRank_absent (holds : Holds settings generation revision scores cache)
    (board : CanonicalBoard settings scores) (key : ReadsKey settings integrity)
    {playerId : Uuid} (absent : ∀ score ∈ scores, score.playerId ≠ playerId) :
    projectedPlayerRank (readerOf settings unicode cache integrity) (storeReads cache)
        integrity settings.gameKey settings.periodKey (uuidStr playerId) scores.length
        revision = none := by
  have validated := @validatedGeneration_holds _ _ _ _ _ unicode _ holds board key scores.length
    revision
  rw [if_pos ⟨rfl, rfl⟩] at validated
  have notNamed : (expectedPlayers settings (uuidStr generation) revision scores).find?
      (fun entry => entry.1 = uuidStr playerId) = none := by
    rw [expectedPlayers, (setDefaults_spec _).2, List.find?_eq_none]
    intro entry isEntry isPlayer
    obtain ⟨encoded, inBoard, rfl⟩ := List.mem_map.mp isEntry
    obtain ⟨numbered, isNumbered, rfl⟩ := List.mem_map.mp inBoard
    exact absent _ (List.fst_mem_of_mem_zipIdx isNumbered)
      (uuidStr_injective (of_decide_eq_true isPlayer))
  simp only [projectedPlayerRank, validated, holds.hget_players board, notNamed,
    Option.bind_eq_bind, Option.bind_some, Option.map_none, Option.bind_none]

end Getting

/-! ### The invariant of a run -/

section Histories

variable {history : List RebuildStep} {index : Nat}

theorem Published.older (published : Published history index) (taken : RebuildStep) :
    Published (taken :: history) index := by
  obtain ⟨revision, scores, member⟩ := published
  exact ⟨revision, scores, List.mem_cons_of_mem _ member⟩

/-- A rebuild has published before, or with this step. -/
theorem published_cons {taken : RebuildStep} (published : Published (taken :: history) index) :
    Published history index ∨ ∃ revision scores, taken = .publish index revision scores := by
  obtain ⟨revision, scores, member⟩ := published
  rcases List.mem_cons.mp member with isTaken | before
  · exact .inr ⟨revision, scores, isTaken.symm⟩
  · exact .inl ⟨revision, scores, before⟩

theorem remembered_older {other : Nat} {read : Option Nat} (taken : RebuildStep)
    (found : (remembered history)[other]? = some read) :
    (remembered (taken :: history))[other]? = some read := by
  cases taken with
  | start generation =>
      rw [remembered, List.getElem?_append_left (List.getElem?_eq_some_iff.mp found).1]
      exact found
  | _ => exact found

theorem Cleared.older (cleared : Cleared history index) (taken : RebuildStep) :
    Cleared (taken :: history) index := by
  obtain ⟨other, found, member⟩ := cleared
  exact ⟨other, remembered_older taken found, List.mem_cons_of_mem _ member⟩

end Histories

/-- The steps of a rebuild after its publication that do not stand for a failure. -/
def RebuildPhase.active : RebuildPhase → Bool
  | .published | .verified | .cleaned => true
  | _ => false

/-- What the generations are that were neither taken back nor given a time to live. -/
structure Serving (settings : RebuildSettings) (history : List RebuildStep)
    (state : RebuildState) : Prop where
  active : ∀ (index : Nat) run, state.runs[index]? = some run → run.phase.active = true →
    Published history index
  cleaned : ∀ index, .clean index ∈ history → Published history index
  /-- A rebuild that has published after it read the pointer has superseded what it read. -/
  superseded : ∀ other index, (remembered history)[other]? = some (some index) →
    Published history other → lastPublished history ≠ some index
  publications : ∀ (index : Nat) run, state.runs[index]? = some run →
    Published history index → ∃ publication, run.publication = some publication
  intact : ∀ (index : Nat) run revision scores, state.runs[index]? = some run →
    run.publication = some (revision, scores) → .delete index ∉ history →
    ¬Cleared history index →
    ∀ key ∈ (generationKeys settings (uuidStr run.generation)).all, state.cache key =
      publishGeneration settings (uuidStr run.generation) revision scores Redis.empty key

namespace Serving

variable {settings : RebuildSettings} {history : List RebuildStep} {state : RebuildState}

theorem empty : Serving settings [] RebuildState.start where
  active := fun _ _ found => by simp [RebuildState.start] at found
  cleaned := fun _ member => by cases member
  superseded := fun _ _ found => by simp [remembered] at found
  publications := fun _ _ found => by simp [RebuildState.start] at found
  intact := fun _ _ _ _ found => by simp [RebuildState.start] at found

/-- The invariant does not see a neutral step. -/
theorem neutral {taken : RebuildStep} (isNeutral : Traced.Neutral taken)
    (serving : Serving settings history state) : Serving settings (taken :: history) state := by
  have reads : remembered (taken :: history) = remembered history := by
    cases taken <;> first | rfl | exact isNeutral.elim
  have last : lastPublished (taken :: history) = lastPublished history := by
    cases taken <;> first | rfl | exact isNeutral.elim
  have before : ∀ index, Published (taken :: history) index → Published history index := by
    intro index published
    rcases published_cons published with older | ⟨revision, scores, rfl⟩
    · exact older
    · exact isNeutral.elim
  have cleans : ∀ index, .clean index ∈ taken :: history → .clean index ∈ history := by
    intro index member
    rcases List.mem_cons.mp member with rfl | older
    · exact isNeutral.elim
    · exact older
  constructor
  case active => exact fun index run found phase => (serving.active index run found phase).older _
  case cleaned => exact fun index member => (serving.cleaned index (cleans index member)).older _
  case superseded =>
    intro other index found published
    rw [reads] at found
    rw [last]
    exact serving.superseded other index found (before other published)
  case publications =>
    exact fun index run found published =>
      serving.publications index run found (before index published)
  case intact =>
    intro index run revision scores found publication notDeleted notCleared
    exact serving.intact index run revision scores found publication
      (fun member => notDeleted (List.mem_cons_of_mem _ member))
      (fun cleared => notCleared (cleared.older _))

/-- A rebuild goes on with its generation and its publication. -/
theorem rerun (serving : Serving settings history state) {index : Nat} {run moved : RebuildRun}
    (found : state.runs[index]? = some run) (generation : moved.generation = run.generation)
    (publication : moved.publication = run.publication)
    (phase : moved.phase.active = true → Published history index) :
    Serving settings history (state.advance index state.cache moved) := by
  have bound : index < state.runs.length := (List.getElem?_eq_some_iff.mp found).1
  -- the runs are those from before, up to the phase of this one
  have runAt : ∀ (other : Nat) after, (state.advance index state.cache moved).runs[other]? =
      some after → ∃ before, state.runs[other]? = some before ∧
        after.generation = before.generation ∧ after.publication = before.publication ∧
        (after.phase.active = true → before.phase.active = true ∨ other = index) := by
    intro other after foundAfter
    by_cases same : index = other
    · subst same
      rw [RebuildState.advance, List.getElem?_set_self bound] at foundAfter
      cases foundAfter
      exact ⟨run, found, generation, publication, fun _ => .inr rfl⟩
    · rw [RebuildState.advance, List.getElem?_set_ne same] at foundAfter
      exact ⟨after, foundAfter, rfl, rfl, fun isActive => .inl isActive⟩
  constructor
  case active =>
    intro other after foundAfter isActive
    obtain ⟨before, foundBefore, -, -, wasActive⟩ := runAt other after foundAfter
    rcases wasActive isActive with was | rfl
    · exact serving.active other before foundBefore was
    · rw [RebuildState.advance, List.getElem?_set_self bound] at foundAfter
      cases foundAfter
      exact phase isActive
  case cleaned => exact serving.cleaned
  case superseded => exact serving.superseded
  case publications =>
    intro other after foundAfter published
    obtain ⟨before, foundBefore, -, same, -⟩ := runAt other after foundAfter
    rw [same]
    exact serving.publications other before foundBefore published
  case intact =>
    intro other after revision scores foundAfter isPublication notDeleted notCleared
    obtain ⟨before, foundBefore, sameGeneration, same, -⟩ := runAt other after foundAfter
    rw [sameGeneration]
    exact serving.intact other before revision scores foundBefore (same ▸ isPublication)
      notDeleted notCleared

end Serving

/-! ### What the steps do to a generation -/

section Generations

variable {settings : RebuildSettings} {revision : Nat} {scores : List FinalScore}

/-- What a publication writes under new keys does not depend on the rest of the cache. -/
theorem publishGeneration_fresh {generation : PyStr} {cache : Cache}
    (fresh : ∀ key ∈ (generationKeys settings generation).all, cache key = none) {key : PyStr}
    (inKeys : key ∈ (generationKeys settings generation).all) :
    publishGeneration settings generation revision scores cache key =
      publishGeneration settings generation revision scores Redis.empty key := by
  have apart := @generationKeys_apart settings generation
  have freshMembers := fresh _ List.mem_cons_self
  have freshMetadata := fresh _ (List.mem_cons_of_mem _ List.mem_cons_self)
  have freshPlayers := fresh (generationKeys settings generation).players
    (List.mem_cons_of_mem _ (List.mem_cons_of_mem _ List.mem_cons_self))
  have isFresh := fresh key inKeys
  have notPointer := (ne_pointer_of_key inKeys).symm
  simp only [publishGeneration, Redis.set_other notPointer]
  apply Redis.hset_agree
  · split_ifs
    · exact freshMetadata
    · exact Redis.zadd_agree freshMembers freshMetadata
    · exact Redis.hset_agree freshPlayers freshMetadata
    · exact Redis.hset_agree (Redis.zadd_agree freshMembers freshPlayers)
        (Redis.zadd_agree freshMembers freshMetadata)
  · split_ifs
    · exact isFresh
    · exact Redis.zadd_agree freshMembers isFresh
    · exact Redis.hset_agree freshPlayers isFresh
    · exact Redis.hset_agree (Redis.zadd_agree freshMembers freshPlayers)
        (Redis.zadd_agree freshMembers isFresh)

/-- A key without a time to live, or without an entry, does not lapse. -/
theorem lapse_same {cache : Cache} {key lapsed : PyStr}
    (lasting : ∀ entry, cache key = some entry → entry.expires = false) :
    Redis.lapse lapsed cache key = cache key := by
  cases stands : cache key with
  | some entry => exact Redis.lapse_kept stands (lasting entry stands)
  | none =>
      cases left : Redis.lapse lapsed cache key with
      | none => rfl
      | some entry => cases stands.symm.trans (Redis.lapse_some left)

end Generations

namespace Serving

variable {settings : RebuildSettings} {history : List RebuildStep} {state : RebuildState}

/-- A rebuild publishes its generation. -/
theorem published (traced : Traced settings history state)
    (serving : Serving settings history state) {index : Nat} {run : RebuildRun}
    (found : state.runs[index]? = some run) (building : run.phase = .building)
    (revision : Nat) (scores : List FinalScore) :
    Serving settings (.publish index revision scores :: history) (state.advance index
      (publishGeneration settings (uuidStr run.generation) revision scores state.cache)
      { run with phase := .published, publication := some (revision, scores) }) := by
  have bound : index < state.runs.length := (List.getElem?_eq_some_iff.mp found).1
  obtain ⟨notPublished, -⟩ := traced.building index run found building
  have isGeneration := traced.run_generation found
  have fresh := traced.fresh_keys isGeneration notPublished
  have reads : remembered (.publish index revision scores :: history) = remembered history := rfl
  have now : Published (.publish index revision scores :: history) index :=
    ⟨revision, scores, List.mem_cons_self⟩
  have before : ∀ other, other ≠ index →
      Published (.publish index revision scores :: history) other → Published history other := by
    intro other differs isPublished
    rcases published_cons isPublished with older | ⟨_, _, same⟩
    · exact older
    · cases same
      exact absurd rfl differs
  have runAt : ∀ (other : Nat) after, (state.runs.set index { run with
      phase := .published, publication := some (revision, scores) })[other]? = some after →
      other = index ∧
          after = { run with phase := .published, publication := some (revision, scores) } ∨
        other ≠ index ∧ state.runs[other]? = some after := by
    intro other after foundAfter
    by_cases same : index = other
    · subst same
      rw [List.getElem?_set_self bound] at foundAfter
      cases foundAfter
      exact .inl ⟨rfl, rfl⟩
    · rw [List.getElem?_set_ne same] at foundAfter
      exact .inr ⟨Ne.symm same, foundAfter⟩
  constructor
  case active =>
    intro other after foundAfter isActive
    rcases runAt other after foundAfter with ⟨rfl, -⟩ | ⟨-, foundBefore⟩
    · exact now
    · exact (serving.active other after foundBefore isActive).older _
  case cleaned =>
    intro other member
    rcases List.mem_cons.mp member with same | older
    · cases same
    · exact (serving.cleaned other older).older _
  case superseded =>
    intro other read isRead _ isLast
    rw [reads] at isRead
    cases isLast
    exact notPublished (traced.rememberedPublished other index isRead).1
  case publications =>
    intro other after foundAfter isPublished
    rcases runAt other after foundAfter with ⟨rfl, rfl⟩ | ⟨differs, foundBefore⟩
    · exact ⟨_, rfl⟩
    · exact serving.publications other after foundBefore (before other differs isPublished)
  case intact =>
    intro other after revision' scores' foundAfter isPublication notDeleted notCleared key inKeys
    rcases runAt other after foundAfter with ⟨rfl, rfl⟩ | ⟨differs, foundBefore⟩
    · cases isPublication
      exact publishGeneration_fresh fresh inKeys
    · have isOther := traced.run_generation foundBefore
      have notOwn : key ∉ (generationKeys settings (uuidStr run.generation)).all := by
        intro inOwn
        have same := generation_of_key inKeys inOwn
        exact differs (traced.index_unique (same ▸ isOther) isGeneration)
      have kept : publishGeneration settings (uuidStr run.generation) revision scores
          state.cache key = state.cache key :=
        publishGeneration_other notOwn (ne_pointer_of_key inKeys).symm
      refine kept.trans ?_
      exact serving.intact other after revision' scores' foundBefore isPublication
        (fun member => notDeleted (List.mem_cons_of_mem _ member))
        (fun cleared => notCleared (cleared.older _)) key inKeys

/-- A new rebuild reads the pointer. -/
theorem starts (traced : Traced settings history state)
    (serving : Serving settings history state) (generation : Uuid) :
    Serving settings (.start generation :: history) ⟨state.cache, state.runs ++
      [⟨generation, Redis.get (pointerKey settings) state.cache, .building, none⟩]⟩ := by
  have before : ∀ other, Published (.start generation :: history) other →
      Published history other := by
    intro other isPublished
    rcases published_cons isPublished with older | ⟨_, _, same⟩
    · exact older
    · cases same
  have runAt : ∀ (other : Nat) after, (state.runs ++ [⟨generation,
      Redis.get (pointerKey settings) state.cache, .building, none⟩])[other]? = some after →
      state.runs[other]? = some after ∨ after.phase = .building ∧ after.publication = none ∧
        ¬Published history other := by
    intro other after foundAfter
    rw [List.getElem?_append] at foundAfter
    split at foundAfter
    · exact .inl foundAfter
    · next beyond =>
        right
        obtain ⟨inRange, isNew⟩ := List.getElem?_eq_some_iff.mp foundAfter
        have isLast : other - state.runs.length = 0 := by
          rw [List.length_singleton] at inRange
          omega
        simp only [isLast, List.getElem_singleton] at isNew
        subst isNew
        refine ⟨rfl, rfl, fun isPublished => ?_⟩
        have below := traced.started other (.inl isPublished)
        rw [← traced.generations, List.length_map] at below
        exact beyond below
  constructor
  case active =>
    intro other after foundAfter isActive
    rcases runAt other after foundAfter with foundBefore | ⟨isBuilding, -⟩
    · exact (serving.active other after foundBefore isActive).older _
    · rw [isBuilding] at isActive
      cases isActive
  case cleaned =>
    intro other member
    rcases List.mem_cons.mp member with same | older
    · cases same
    · exact (serving.cleaned other older).older _
  case superseded =>
    intro other read isRead isPublished
    have below := traced.started other (.inl (before other isPublished))
    rw [← length_remembered] at below
    rw [remembered, List.getElem?_append_left below] at isRead
    exact serving.superseded other read isRead (before other isPublished)
  case publications =>
    intro other after foundAfter isPublished
    rcases runAt other after foundAfter with foundBefore | ⟨-, -, notPublished⟩
    · exact serving.publications other after foundBefore (before other isPublished)
    · exact absurd (before other isPublished) notPublished
  case intact =>
    intro other after revision scores foundAfter isPublication notDeleted notCleared
    rcases runAt other after foundAfter with foundBefore | ⟨-, none, -⟩
    · exact serving.intact other after revision scores foundBefore isPublication
        (fun member => notDeleted (List.mem_cons_of_mem _ member))
        (fun cleared => notCleared (cleared.older _))
    · rw [none] at isPublication
      cases isPublication

/-- A step that leaves the runs up to their phases, the reads and the publications, and the
generations that are neither taken back nor cleared. -/
theorem kept {taken : RebuildStep} {cache : Cache} {index : Nat} {run moved : RebuildRun}
    (serving : Serving settings history state)
    (found : state.runs[index]? = some run) (generation : moved.generation = run.generation)
    (publication : moved.publication = run.publication)
    (phase : moved.phase.active = true → Published history index)
    (reads : remembered (taken :: history) = remembered history)
    (last : lastPublished (taken :: history) = lastPublished history)
    (publishes : ∀ other, Published (taken :: history) other → Published history other)
    (cleans : ∀ other, .clean other ∈ taken :: history → Published history other)
    (keys : ∀ (other : Nat) before, state.runs[other]? = some before →
      .delete other ∉ taken :: history → ¬Cleared (taken :: history) other →
      ∀ key ∈ (generationKeys settings (uuidStr before.generation)).all,
        cache key = state.cache key) :
    Serving settings (taken :: history) (state.advance index cache moved) := by
  have moves := serving.rerun found generation publication phase
  constructor
  case active =>
    exact fun other after isAfter isActive => (moves.active other after isAfter isActive).older _
  case cleaned => exact fun other member => (cleans other member).older _
  case superseded =>
    intro other read isRead isPublished
    rw [reads] at isRead
    rw [last]
    exact serving.superseded other read isRead (publishes other isPublished)
  case publications =>
    exact fun other after isAfter isPublished =>
      moves.publications other after isAfter (publishes other isPublished)
  case intact =>
    intro other after revision scores isAfter isPublication notDeleted notCleared key inKeys
    have wasKept := moves.intact other after revision scores isAfter isPublication
      (fun member => notDeleted (List.mem_cons_of_mem _ member))
      (fun cleared => notCleared (cleared.older _)) key inKeys
    refine Eq.trans ?_ wasKept
    by_cases same : index = other
    · subst same
      have bound : index < state.runs.length := (List.getElem?_eq_some_iff.mp found).1
      rw [RebuildState.advance, List.getElem?_set_self bound] at isAfter
      cases isAfter
      exact keys index run found notDeleted notCleared key (generation ▸ inKeys)
    · rw [RebuildState.advance, List.getElem?_set_ne same] at isAfter
      exact keys other after isAfter notDeleted notCleared key inKeys

/-- The previous generation gets a time to live. -/
theorem cleans (traced : Traced settings history state)
    (serving : Serving settings history state) {index : Nat} {run : RebuildRun}
    (found : state.runs[index]? = some run) (verified : run.phase = .verified) :
    Serving settings (.clean index :: history) (state.advance index
      (expirePrevious settings (uuidStr run.generation) run.previous state.cache)
      { run with phase := .cleaned }) := by
  have wasPublished : Published history index :=
    serving.active index run found (verified ▸ rfl)
  have before : ∀ other, Published (.clean index :: history) other →
      Published history other := by
    intro other isPublished
    rcases published_cons isPublished with older | ⟨_, _, same⟩
    · exact older
    · cases same
  have cleans : ∀ other, .clean other ∈ RebuildStep.clean index :: history →
      Published history other := by
    intro other member
    rcases List.mem_cons.mp member with same | older
    · cases same
      exact wasPublished
    · exact serving.cleaned other older
  refine serving.kept found rfl rfl (fun _ => wasPublished) rfl rfl before cleans ?_
  intro other reader isReader notDeleted notCleared key inKeys
  rw [traced.cleaned_cache found (traced.run_generation isReader) inKeys]
  have notRead : (remembered history)[index]? ≠ some (some other) :=
    fun isRead => notCleared ⟨index, isRead, List.mem_cons_self⟩
  simp only [if_neg notRead, Option.map_id']

/-- A rebuild takes its generation back. -/
theorem deleted (traced : Traced settings history state)
    (serving : Serving settings history state) {index : Nat} {run : RebuildRun}
    (found : state.runs[index]? = some run) :
    Serving settings (.delete index :: history) (state.advance index
      (deleteGeneration settings (uuidStr run.generation) state.cache)
      { run with phase := .ended }) := by
  have before : ∀ other, Published (.delete index :: history) other →
      Published history other := by
    intro other isPublished
    rcases published_cons isPublished with older | ⟨_, _, same⟩
    · exact older
    · cases same
  have cleans : ∀ other, .clean other ∈ RebuildStep.delete index :: history →
      Published history other := by
    intro other member
    rcases List.mem_cons.mp member with same | older
    · cases same
    · exact serving.cleaned other older
  refine serving.kept found rfl rfl (fun isActive => absurd isActive Bool.false_ne_true) rfl rfl
    before cleans ?_
  intro other reader isReader notDeleted _ key inKeys
  apply Redis.delete_other
  intro inOwn
  have isOther := traced.run_generation isReader
  have same := generation_of_key inKeys inOwn
  have sameIndex := traced.index_unique (same ▸ isOther) (traced.run_generation found)
  exact notDeleted (sameIndex ▸ List.mem_cons_self)

/-- A time to live ends. -/
theorem lapsed (serving : Serving settings history state) (lapsed : PyStr) :
    Serving settings (.lapse lapsed :: history)
      { state with cache := Redis.lapse lapsed state.cache } := by
  have later := serving.neutral (show Traced.Neutral (.lapse lapsed) from trivial)
  refine ⟨later.active, later.cleaned, later.superseded, later.publications, ?_⟩
  intro index run revision scores found publication notDeleted notCleared key inKeys
  have stands := later.intact index run revision scores found publication notDeleted notCleared
    key inKeys
  refine Eq.trans (lapse_same ?_) stands
  intro entry isEntry
  exact (publishGeneration_own fun _ _ => rfl).1 key inKeys entry (stands.symm.trans isEntry)

/-- A rebuild goes on without a change to the cache. -/
theorem goes_on (serving : Serving settings history state) {taken : RebuildStep}
    (isNeutral : Traced.Neutral taken) {index : Nat} {run : RebuildRun}
    (found : state.runs[index]? = some run) {phase : RebuildPhase}
    (isActive : phase.active = true → run.phase.active = true) :
    Serving settings (taken :: history)
      (state.advance index state.cache { run with phase := phase }) := by
  have moved : Serving settings history
      (state.advance index state.cache { run with phase := phase }) :=
    serving.rerun found rfl rfl fun active => serving.active index run found (isActive active)
  exact moved.neutral isNeutral

/-- Every step keeps the invariant. -/
theorem step (traced : Traced settings history state)
    (serving : Serving settings history state) {taken : RebuildStep} {after : RebuildState}
    (happens : state.step settings taken = some after) :
    Serving settings (taken :: history) after := by
  cases taken with
  | start generation =>
    simp only [RebuildState.step] at happens
    split_ifs at happens
    cases happens
    exact serving.starts traced generation
  | publish index revision scores =>
    obtain ⟨run, found, happens⟩ := Option.bind_eq_some_iff.mp happens
    split_ifs at happens with building
    cases happens
    exact serving.published traced found (not_not.mp building) revision scores
  | verify index =>
    obtain ⟨run, found, happens⟩ := Option.bind_eq_some_iff.mp happens
    obtain ⟨publication, -, happens⟩ := Option.bind_eq_some_iff.mp happens
    split_ifs at happens with published
    cases happens
    refine serving.goes_on (show Traced.Neutral (.verify index) from trivial) found fun _ => ?_
    rw [not_not.mp published]
    rfl
  | clean index =>
    obtain ⟨run, found, happens⟩ := Option.bind_eq_some_iff.mp happens
    split_ifs at happens with verified
    cases happens
    exact serving.cleans traced found (not_not.mp verified)
  | returns index =>
    obtain ⟨run, found, happens⟩ := Option.bind_eq_some_iff.mp happens
    split_ifs at happens
    cases happens
    exact serving.goes_on (show Traced.Neutral (.returns index) from trivial) found
      fun isActive => absurd isActive Bool.false_ne_true
  | raises index =>
    obtain ⟨run, found, happens⟩ := Option.bind_eq_some_iff.mp happens
    split_ifs at happens
    cases happens
    exact serving.goes_on (show Traced.Neutral (.raises index) from trivial) found
      fun isActive => absurd isActive Bool.false_ne_true
  | delete index =>
    obtain ⟨run, found, happens⟩ := Option.bind_eq_some_iff.mp happens
    split_ifs at happens
    cases happens
    exact serving.deleted traced found
  | deleteFails index =>
    obtain ⟨run, found, happens⟩ := Option.bind_eq_some_iff.mp happens
    split_ifs at happens
    cases happens
    exact serving.goes_on (show Traced.Neutral (.deleteFails index) from trivial) found
      fun isActive => absurd isActive Bool.false_ne_true
  | lapse key =>
    cases happens
    exact serving.lapsed key

end Serving

/-- The invariant holds after every history. -/
theorem serving_after {settings : RebuildSettings} {history : List RebuildStep}
    {state : RebuildState} (runs : RebuildState.after settings history = some state) :
    Serving settings history state := by
  induction history generalizing state with
  | nil =>
    cases runs
    exact Serving.empty
  | cons taken earlier ih =>
    obtain ⟨before, reached, happens⟩ := Option.bind_eq_some_iff.mp runs
    exact (ih reached).step (traced_after reached) happens

/-! ### What readers are served -/

section ServedBoards

variable {settings : RebuildSettings} {history : List RebuildStep} {state : RebuildState}

/-- The generation that the pointer names was not given a time to live. -/
theorem not_cleared_of_last {index : Nat} (serving : Serving settings history state)
    (isLast : lastPublished history = some index) : ¬Cleared history index := by
  rintro ⟨other, isRead, cleans⟩
  exact serving.superseded other index isRead (serving.cleaned other cleans) isLast

/-- The board of a rebuild that has not taken its generation back is held while the pointer
names it. -/
theorem holds_of_pointer (runs : RebuildState.after settings history = some state)
    {index revision : Nat} {run : RebuildRun} {scores : List FinalScore}
    (found : state.runs[index]? = some run)
    (publication : run.publication = some (revision, scores))
    (pointer : Redis.get (pointerKey settings) state.cache = some (uuidStr run.generation))
    (notDeleted : .delete index ∉ history) :
    Holds settings run.generation revision scores state.cache := by
  have traced := traced_after runs
  have serving := serving_after runs
  cases isLast : lastPublished history with
  | none =>
      rw [Redis.get, traced.pointer, isLast] at pointer
      cases pointer
  | some last =>
      cases isText : generationText history last with
      | none =>
          rw [Redis.get, traced.pointer, isLast, Option.bind_some, isText] at pointer
          cases pointer
      | some text =>
          have isEntry : state.cache (pointerKey settings) = some ⟨.text text, false⟩ := by
            rw [traced.pointer, isLast, Option.bind_some, isText]
            rfl
          rw [Redis.get, isEntry] at pointer
          have isGeneration : text = uuidStr run.generation := Option.some.inj pointer
          subst isGeneration
          obtain ⟨generation, isLastGeneration, sameText⟩ := Option.map_eq_some_iff.mp isText
          rw [uuidStr_injective sameText] at isLastGeneration
          have isIndex : last = index :=
            traced.index_unique isLastGeneration (traced.run_generation found)
          subst isIndex
          exact ⟨isEntry, serving.intact last run revision scores found publication notDeleted
            (not_cleared_of_last serving isLast)⟩

/-- What a reader is served of a board, when all its commands meet the same cache. -/
structure Served (settings : RebuildSettings) (integrity : ProjectionIntegrity)
    (unicode : UnicodeDigits) (revision : Nat) (scores : List FinalScore) (cache : Cache) :
    Prop where
  /-- Every page with room for an entry is the slice of the board. -/
  page : ∀ offset limit, 1 ≤ limit →
    projectedPage (readerOf settings unicode cache integrity) (storeReads cache) integrity
        settings.gameKey settings.periodKey offset limit scores.length revision =
      some (((boardFields settings scores).drop offset).take limit)
  /-- Every player of the board gets the best entry at its rank. -/
  rank : ∀ score ∈ scores, ∃ position best, scores[position]? = some best ∧
    best.playerId = score.playerId ∧
    (∀ other ∈ scores, other.playerId = score.playerId → rankKey best ≤ rankKey other) ∧
    projectedPlayerRank (readerOf settings unicode cache integrity) (storeReads cache) integrity
        settings.gameKey settings.periodKey (uuidStr score.playerId) scores.length revision =
      some (fieldsOf settings best (position + 1))
  /-- The others get none. -/
  unranked : ∀ playerId : Uuid, (∀ score ∈ scores, score.playerId ≠ playerId) →
    projectedPlayerRank (readerOf settings unicode cache integrity) (storeReads cache) integrity
        settings.gameKey settings.periodKey (uuidStr playerId) scores.length revision = none
  /-- With another count or revision, nothing is served. -/
  stale : ∀ offset limit count revision' playerId,
    (count ≠ scores.length ∨ revision' ≠ revision) →
    projectedPage (readerOf settings unicode cache integrity) (storeReads cache) integrity
        settings.gameKey settings.periodKey offset limit count revision' = none ∧
      projectedPlayerRank (readerOf settings unicode cache integrity) (storeReads cache)
        integrity settings.gameKey settings.periodKey playerId count revision' = none

/-- In every run of rebuilds of one board next to each other, with failures and ends of
times to live at any point: while the pointer names a rebuild that has not deleted its
generation, readers whose requests meet the cache of that moment are served its whole board.
The board is canonical, which includes that its instants survive their encoding, and the
keys of the reader have identifiers of their own. -/
theorem projection_served (runs : RebuildState.after settings history = some state)
    {index revision : Nat} {run : RebuildRun} {scores : List FinalScore}
    (found : state.runs[index]? = some run)
    (publication : run.publication = some (revision, scores))
    (pointer : Redis.get (pointerKey settings) state.cache = some (uuidStr run.generation))
    (notDeleted : .delete index ∉ history) (board : CanonicalBoard settings scores)
    {integrity : ProjectionIntegrity} (key : ReadsKey settings integrity)
    (unicode : UnicodeDigits) :
    Served settings integrity unicode revision scores state.cache := by
  have holds := holds_of_pointer runs found publication pointer notDeleted
  constructor
  case page =>
    exact fun offset limit positive => projectedPage_holds holds board key offset limit positive
  case rank => exact fun score member => projectedPlayerRank_holds holds board key member
  case unranked => exact fun playerId absent => projectedPlayerRank_absent holds board key absent
  case stale =>
    intro offset limit count revision' playerId differs
    have refused := @validatedGeneration_holds _ _ _ _ _ unicode _ holds board key count revision'
    have notExpected : ¬(count = scores.length ∧ revision' = revision) := by
      rintro ⟨sameCount, sameRevision⟩
      rcases differs with count | revision
      · exact count sameCount
      · exact revision sameRevision
    rw [if_neg notExpected] at refused
    constructor
    · simp only [projectedPage, refused, Option.bind_eq_bind, Option.bind_none]
    · simp only [projectedPlayerRank, refused, Option.bind_eq_bind, Option.bind_none]

end ServedBoards

namespace Sample

/-- Rebuilds with a key that is the previous one of the reader. -/
def keyedRebuild : RebuildSettings := { rebuild with integrity := writer }

/-- A rebuild publishes a board with ties while another one starts, fails and deletes its
keys, and the time to live of a key that has none ends. -/
def interruptedRebuilds : List RebuildStep :=
  [.lapse (generationKeys keyedRebuild (uuidStr 9)).members, .delete 1, .raises 1, .verify 0,
    .publish 0 4 tiedBoard, .start 11, .start 9]

theorem interruptedRebuilds_reached :
    (RebuildState.after keyedRebuild interruptedRebuilds).bind (fun state =>
    (state.runs[0]?).map fun run =>
      (run.generation, run.publication, Redis.get (pointerKey keyedRebuild) state.cache)) =
    some (9, some (4, tiedBoard), some (uuidStr 9)) := by
  decide +kernel

theorem tiedBoard_canonical : CanonicalBoard keyedRebuild tiedBoard := by
  have instants : ∀ score ∈ tiedBoard,
      floatMicros score.completedAt = score.completedAt ∧ 0 ≤ score.completedAt ∧
        score.completedAt < 10 ^ 20 := by decide +kernel
  exact ⟨by decide +kernel, by decide +kernel, fun score member =>
    ⟨(instants score member).1, (instants score member).2.1, (instants score member).2.2⟩⟩

end Sample

/-- Readers with the rotated keys are served the board. -/
theorem projection_served_interrupted :
    ∃ state, RebuildState.after Sample.keyedRebuild Sample.interruptedRebuilds = some state ∧
      Served Sample.keyedRebuild Sample.rotated id 4 Sample.tiedBoard state.cache := by
  obtain ⟨state, runs, facts⟩ := Option.bind_eq_some_iff.mp Sample.interruptedRebuilds_reached
  obtain ⟨run, found, isRun⟩ := Option.map_eq_some_iff.mp facts
  obtain ⟨isGeneration, isRest⟩ := Prod.mk.inj isRun
  obtain ⟨publication, pointer⟩ := Prod.mk.inj isRest
  refine ⟨state, runs, projection_served runs found publication ?_ ?_ Sample.tiedBoard_canonical
    ⟨by decide, by decide +kernel⟩ id⟩
  · rw [isGeneration]
    exact pointer
  · decide +kernel

end RngGamePlatform
