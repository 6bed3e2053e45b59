/-
Module: RngGamePlatform.Proofs.ProjectionOrder
Purpose: A rebuilt projection lists the board in its canonical order.
Trusted boundary: none
Main exports: generationKeys_apart, ExactInstant, CanonicalBoard, member_lt,
  entries_increasing, ProjectionCanonical, projection_order_canonical
-/
import RngGamePlatform.Projections.Rebuild
import RngGamePlatform.Proofs.OneRanking

namespace RngGamePlatform

open Encoding Relational Stores

/-! The keys of a generation. -/

section Keys

variable {settings : RebuildSettings} {generation other : PyStr}

/-- The part that the keys of a generation share. -/
def generationBase (settings : RebuildSettings) (generation : PyStr) : PyStr :=
  leaderboardKey settings.gameKey settings.periodKey settings.redisKeyNamespace ++
    py ":generation:" ++ generation

theorem generationKeys_all : (generationKeys settings generation).all =
    ["members", "metadata", "players"].map fun name =>
      generationBase settings generation ++ py (":" ++ name) := rfl

/-- The three keys of a generation differ. -/
theorem generationKeys_apart : (generationKeys settings generation).all.Nodup := by
  rw [generationKeys_all]
  apply List.Nodup.map
  · intro one other same
    have suffix := congrArg String.toList (py_inj.mp (List.append_cancel_left same))
    rw [String.toList_append, String.toList_append] at suffix
    exact String.toList_inj.mp (List.append_cancel_left suffix)
  · decide

/-- The pointer is no key of a generation. -/
theorem pointer_not_generation :
    pointerKey settings ∉ (generationKeys settings generation).all := by
  rw [generationKeys_all]
  intro member
  obtain ⟨name, -, same⟩ := List.mem_map.mp member
  rw [generationBase, pointerKey, leaderboardPointerKey, List.append_assoc,
    List.append_assoc] at same
  have heads := congrArg (List.take 2) (List.append_cancel_left same)
  have generations : List.take 2 (py ":generation:" ++ (generation ++ py (":" ++ name))) =
      py ":g" := rfl
  have current : List.take 2 (py ":current") = py ":c" := rfl
  rw [generations, current] at heads
  exact absurd (py_inj.mp heads) (by decide)

end Keys

/-! The order of the members. -/

section Members

variable {settings : RebuildSettings} {contract : ProjectionGeneration}

/-- What the order of the members relies on: the instants are exact and of twenty
digits at most. -/
structure ExactInstant (settings : RebuildSettings) (score : FinalScore) : Prop where
  encoded : settings.timestampMicros score.completedAt = score.completedAt
  nonneg : 0 ≤ score.completedAt
  small : score.completedAt < 10 ^ 20

/-- The text of a member: the instant, the session and the rest. -/
theorem memberOf_text {score : FinalScore} {rank : Nat}
    (instant : ExactInstant settings score) : ∃ rest,
    (memberOf settings contract score rank).1 =
      zeroPadded 20 score.completedAt ++ (py ":" ++ (uuidStr score.sessionId ++ rest)) := by
  simp only [memberOf, encodeMember, fieldsOf, instant.encoded, List.append_assoc]
  exact ⟨_, rfl⟩

theorem length_instant {score : FinalScore} (instant : ExactInstant settings score) :
    (zeroPadded 20 score.completedAt).length = 20 :=
  length_zeroPadded (by decide) instant.nonneg instant.small

/-- A member names its session. -/
theorem session_of_member {one other : FinalScore} {rank rank' : Nat}
    (exactOne : ExactInstant settings one) (exactOther : ExactInstant settings other)
    (same : (memberOf settings contract one rank).1 =
      (memberOf settings contract other rank').1) : one.sessionId = other.sessionId := by
  obtain ⟨restOne, textOne⟩ := @memberOf_text _ contract _ rank exactOne
  obtain ⟨restOther, textOther⟩ := @memberOf_text _ contract _ rank' exactOther
  rw [textOne, textOther] at same
  obtain ⟨-, afterInstant⟩ := List.append_inj same
    ((length_instant exactOne).trans (length_instant exactOther).symm)
  obtain ⟨sessions, -⟩ := List.append_inj (List.append_cancel_left afterInstant)
    ((length_uuidStr _).trans (length_uuidStr _).symm)
  exact uuidStr_injective sessions

/-- The Redis order of two members is the canonical order of their scores. -/
theorem member_lt {one other : FinalScore} {rank rank' : Nat}
    (exactOne : ExactInstant settings one) (exactOther : ExactInstant settings other)
    (before : rankKey one < rankKey other) :
    SortedSet.key ((memberOf settings contract one rank).1, -one.finalScore) <
      SortedSet.key ((memberOf settings contract other rank').1, -other.finalScore) := by
  rw [SortedSet.key, SortedSet.key, Prod.Lex.toLex_lt_toLex, neg_lt_neg_iff, neg_inj]
  obtain ⟨restOne, textOne⟩ := @memberOf_text _ contract _ rank exactOne
  obtain ⟨restOther, textOther⟩ := @memberOf_text _ contract _ rank' exactOther
  have sameWidth := (length_instant exactOne).trans (length_instant exactOther).symm
  rw [textOne, textOther]
  rcases rankKey_lt.mp before with higher | ⟨sameScore, earlier | ⟨sameInstant, smaller⟩⟩
  · exact .inl higher
  · right
    refine ⟨sameScore, append_lt_append sameWidth ?_ _ _⟩
    exact zeroPadded_lt (by decide) exactOne.nonneg earlier exactOther.small
  · right
    refine ⟨sameScore, ?_⟩
    rw [append_lt_append_iff sameWidth, sameInstant, append_lt_append_iff rfl]
    have sessions := append_lt_append
      ((length_uuidStr one.sessionId).trans (length_uuidStr other.sessionId).symm)
      (uuidStr_lt smaller) restOne restOther
    exact .inr ⟨rfl, .inr ⟨rfl, sessions⟩⟩

/-- A relation between the scores of a board is one between its numbered scores. -/
theorem numbered_pairwise {R : FinalScore → FinalScore → Prop} {scores : List FinalScore}
    (related : scores.Pairwise R) :
    (scores.zipIdx 1).Pairwise fun one other => R one.1 other.1 := by
  rw [← List.pairwise_map, List.zipIdx_map_fst]
  exact related

theorem encodedBoard_get {scores : List FinalScore} (position : Nat) :
    (encodedBoard settings contract scores)[position]? =
      scores[position]?.map fun score => memberOf settings contract score (position + 1) := by
  rw [encodedBoard, List.getElem?_map, List.getElem?_zipIdx, Option.map_map]
  congr 1
  funext score
  exact congrArg (memberOf settings contract score) (Nat.add_comm _ _)

variable {scores : List FinalScore}

/-- A board in canonical order, whose sessions differ. -/
structure CanonicalBoard (settings : RebuildSettings) (scores : List FinalScore) : Prop where
  ordered : scores.Pairwise fun one other => rankKey one ≤ rankKey other
  sessions : (scores.map FinalScore.sessionId).Nodup
  instants : ∀ score ∈ scores, ExactInstant settings score

theorem CanonicalBoard.sessions_apart (board : CanonicalBoard settings scores) :
    scores.Pairwise fun one other => one.sessionId ≠ other.sessionId :=
  List.pairwise_map.mp board.sessions

theorem CanonicalBoard.instant {board : CanonicalBoard settings scores}
    {numbered : FinalScore × Nat} (member : numbered ∈ scores.zipIdx 1) :
    ExactInstant settings numbered.1 :=
  board.instants _ (List.fst_mem_of_mem_zipIdx member)

/-- The members of a board differ. -/
theorem members_distinct (board : CanonicalBoard settings scores) :
    ((encodedBoard settings contract scores).map Prod.fst).Nodup := by
  rw [encodedBoard, List.map_map, List.Nodup, List.pairwise_map]
  apply (numbered_pairwise board.sessions_apart).imp_of_mem
  intro one other inOne inOther differs same
  exact differs (session_of_member (board.instant inOne) (board.instant inOther) same)

/-- The entries of a board are given in their Redis order. -/
theorem entries_increasing (board : CanonicalBoard settings scores) :
    ((encodedBoard settings contract scores).map fun entry => (entry.1, entry.2.1)).Pairwise
      fun one other => SortedSet.key one < SortedSet.key other := by
  rw [encodedBoard, List.map_map, List.pairwise_map]
  apply (numbered_pairwise (board.ordered.and board.sessions_apart)).imp_of_mem
  rintro one other inOne inOther ⟨before, differs⟩
  have strictly : rankKey one.1 < rankKey other.1 :=
    lt_of_le_of_ne before fun same => differs (rankKey_injective same)
  exact member_lt (board.instant inOne) (board.instant inOther) strictly

end Members

/-! The dicts of a rebuild. -/

section Dicts

theorem dictOf_distinct {ν : Type} {entries : List (PyStr × ν)}
    (distinct : (entries.map Prod.fst).Nodup) : dictOf entries = entries := by
  have step : ∀ kept, ((kept ++ entries).map Prod.fst).Nodup →
      entries.foldl (fun kept entry =>
        if entry.1 ∈ kept.map Prod.fst then
          kept.map fun other => if other.1 = entry.1 then entry else other
        else kept ++ [entry]) kept = kept ++ entries := by
    clear distinct
    induction entries with
    | nil => simp
    | cons entry rest ih =>
      intro kept nodup
      have absent : entry.1 ∉ kept.map Prod.fst := by
        intro present
        rw [List.map_append, List.nodup_append] at nodup
        exact nodup.2.2 entry.1 present entry.1 (by simp) rfl
      have regrouped : kept ++ entry :: rest = kept ++ [entry] ++ rest := by simp
      rw [regrouped] at nodup ⊢
      rw [List.foldl_cons, if_neg absent, ih _ nodup]
  exact step [] distinct

/-- What `setdefault` keeps: the first entry of each key, once. -/
theorem setDefaults_spec (entries : List (PyStr × PyStr)) :
    ((setDefaults entries).map Prod.fst).Nodup ∧
      ∀ key, (setDefaults entries).find? (fun entry => entry.1 = key) =
        entries.find? fun entry => entry.1 = key := by
  have step : ∀ kept : TextDict, (kept.map Prod.fst).Nodup →
      let all := entries.foldl (fun kept entry =>
        if entry.1 ∈ kept.map Prod.fst then kept else kept ++ [entry]) kept
      (all.map Prod.fst).Nodup ∧
        ∀ key, all.find? (fun entry => entry.1 = key) =
          (kept.find? fun entry => entry.1 = key).or
            (entries.find? fun entry => entry.1 = key) := by
    induction entries with
    | nil =>
      intro kept nodup
      exact ⟨nodup, fun key => by simp⟩
    | cons entry rest ih =>
      intro kept nodup
      simp only [List.foldl_cons]
      split
      case isTrue present =>
        obtain ⟨restNodup, restFind⟩ := ih kept nodup
        refine ⟨restNodup, fun key => ?_⟩
        rw [restFind]
        by_cases same : entry.1 = key
        · obtain ⟨found, inKept, isKey⟩ := List.mem_map.mp present
          have isSome : (kept.find? fun other => decide (other.1 = key)).isSome := by
            rw [List.find?_isSome]
            exact ⟨found, inKept, by simp [isKey, same]⟩
          obtain ⟨first, isFirst⟩ := Option.isSome_iff_exists.mp isSome
          rw [isFirst, Option.some_or, Option.some_or]
        · rw [List.find?_cons_of_neg (by simpa using same)]
      case isFalse absent =>
        have nodupMore : ((kept ++ [entry]).map Prod.fst).Nodup := by
          rw [List.map_append, List.nodup_append]
          refine ⟨nodup, List.nodup_singleton _, ?_⟩
          intro one inKept other isEntry
          rw [List.mem_singleton.mp isEntry]
          exact fun same => absent (same ▸ inKept)
        obtain ⟨restNodup, restFind⟩ := ih (kept ++ [entry]) nodupMore
        refine ⟨restNodup, fun key => ?_⟩
        rw [restFind, List.find?_append, Option.or_assoc]
        congr 1
        by_cases same : entry.1 = key
        · simp [same]
        · simp [same]
  have whole := step [] List.nodup_nil
  exact ⟨whole.1, fun key => (whole.2 key).trans (by simp)⟩

/-- In a dict the last entry of a key is the first one. -/
theorem find_reverse {entries : TextDict} (distinct : (entries.map Prod.fst).Nodup)
    (key : PyStr) : (entries.reverse.find? fun entry => entry.1 = key) =
      entries.find? fun entry => entry.1 = key := by
  have agree : ∀ {one other : PyStr × PyStr}, one ∈ entries → other ∈ entries →
      one.1 = other.1 → one = other :=
    fun inOne inOther => List.inj_on_of_nodup_map distinct inOne inOther
  cases found : entries.find? fun entry => decide (entry.1 = key) with
  | none =>
    rw [List.find?_eq_none] at found ⊢
    intro entry member
    exact found entry (List.mem_reverse.mp member)
  | some first =>
    have inEntries := List.mem_of_find?_eq_some found
    have isKey : first.1 = key := by simpa using List.find?_some found
    cases last : entries.reverse.find? fun entry => decide (entry.1 = key) with
    | none =>
      have absent := List.find?_eq_none.mp last first (List.mem_reverse.mpr inEntries)
      simp [isKey] at absent
    | some other =>
      have inReverse := List.mem_reverse.mp (List.mem_of_find?_eq_some last)
      have isKey' : other.1 = key := by simpa using List.find?_some last
      rw [agree inEntries inReverse (isKey.trans isKey'.symm)]

end Dicts

/-! The published projection. -/

section Published

variable {settings : RebuildSettings} {generation : PyStr} {revision : Nat}
  {scores : List FinalScore} {cache : Cache}

/-- The players of a board with the members of their first entries. -/
def expectedPlayers (settings : RebuildSettings) (generation : PyStr) (revision : Nat)
    (scores : List FinalScore) : TextDict :=
  setDefaults ((encodedBoard settings (contractOf settings generation revision scores.length)
    scores).map fun entry => (entry.2.2, entry.1))

/-- The projection under new keys. -/
theorem publishGeneration_entries (board : CanonicalBoard settings scores)
    (fresh : ∀ key ∈ (generationKeys settings generation).all, cache key = none) :
    publishGeneration settings generation revision scores cache
        (generationKeys settings generation).members =
      (if scores = [] then none
        else some ⟨.sortedSet (SortedSet.empty.addAll
          (expectedProjection settings generation revision scores)), false⟩) ∧
    publishGeneration settings generation revision scores cache
        (generationKeys settings generation).players =
      (if scores = [] then none
        else some ⟨.hash (expectedPlayers settings generation revision scores), false⟩) := by
  have apart := @generationKeys_apart settings generation
  simp only [ProjectionKeys.all, List.nodup_cons, List.mem_cons, List.not_mem_nil, or_false,
    not_or, not_false_eq_true, List.nodup_nil, and_true] at apart
  obtain ⟨⟨notMetadata, notPlayers⟩, notPlayers'⟩ := apart
  have pointer := @pointer_not_generation settings generation
  simp only [ProjectionKeys.all, List.mem_cons, List.not_mem_nil, or_false, not_or] at pointer
  obtain ⟨pointerMembers, pointerMetadata, pointerPlayers⟩ := pointer
  have freshMembers := fresh _ List.mem_cons_self
  have freshPlayers := fresh (generationKeys settings generation).players
    (List.mem_cons_of_mem _ (List.mem_cons_of_mem _ List.mem_cons_self))
  have members : dictOf ((encodedBoard settings (contractOf settings generation revision
      scores.length) scores).map fun entry => (entry.1, entry.2.1)) =
      expectedProjection settings generation revision scores := by
    apply dictOf_distinct
    rw [List.map_map]
    exact members_distinct board
  cases scores with
  | nil =>
    simp only [publishGeneration, encodedBoard, List.zipIdx_nil, List.map_nil, dictOf,
      setDefaults, List.foldl_nil, if_true]
    constructor
    · rw [Redis.set_other (Ne.symm pointerMembers), Redis.hset_other notMetadata, freshMembers]
    · rw [Redis.set_other (Ne.symm pointerPlayers), Redis.hset_other (Ne.symm notPlayers'),
        freshPlayers]
  | cons first rest =>
    have someMembers : expectedProjection settings generation revision (first :: rest) ≠ [] := by
      simp [expectedProjection, encodedBoard]
    have somePlayers : expectedPlayers settings generation revision (first :: rest) ≠ [] := by
      intro isEmpty
      have find := (setDefaults_spec ((encodedBoard settings (contractOf settings generation
        revision (first :: rest).length) (first :: rest)).map
          fun entry => (entry.2.2, entry.1))).2 (uuidStr first.playerId)
      rw [← expectedPlayers, isEmpty] at find
      simp [encodedBoard, memberOf] at find
    simp only [publishGeneration, members]
    rw [← expectedPlayers, if_neg someMembers, if_neg somePlayers, if_neg (List.cons_ne_nil _ _),
      if_neg (List.cons_ne_nil _ _)]
    constructor
    · rw [Redis.set_other (Ne.symm pointerMembers), Redis.hset_other notMetadata,
        Redis.hset_other notPlayers, Redis.zadd_fresh freshMembers, Redis.put_same]
    · have notYet : Redis.zadd (generationKeys settings generation).members
          (expectedProjection settings generation revision (first :: rest)) cache
          (generationKeys settings generation).players = none := by
        rw [Redis.zadd_other (Ne.symm notPlayers), freshPlayers]
      rw [Redis.set_other (Ne.symm pointerPlayers), Redis.hset_other (Ne.symm notPlayers'),
        Redis.hset_fresh notYet, Redis.put_same]

/-- What a projection of a board is: its members differ, they are listed in the order of
the board, so that the comparison of the rebuild succeeds, the rank that a member is
signed with is one more than its rank in Redis, and each player's member is the one of
the best entry. -/
structure ProjectionCanonical (settings : RebuildSettings) (generation : PyStr)
    (revision : Nat) (scores : List FinalScore) (cache : Cache) : Prop where
  distinct : ((expectedProjection settings generation revision scores).map Prod.fst).Nodup
  listed : Redis.zrange (generationKeys settings generation).members
      (publishGeneration settings generation revision scores cache) =
    expectedProjection settings generation revision scores
  succeeds : projectionMatches settings generation revision scores
    (publishGeneration settings generation revision scores cache) = true
  ranks : ∀ position score, scores[position]? = some score →
    Redis.zrank (generationKeys settings generation).members
        (encodeMember settings.crypto settings.integrity
          (contractOf settings generation revision scores.length)
          (fieldsOf settings score (position + 1)))
        (publishGeneration settings generation revision scores cache) = some position
  players : ∀ score ∈ scores, ∃ position best, scores[position]? = some best ∧
    best.playerId = score.playerId ∧
    (∀ other ∈ scores, other.playerId = score.playerId → rankKey best ≤ rankKey other) ∧
    Redis.hget (generationKeys settings generation).players (uuidStr score.playerId)
        (publishGeneration settings generation revision scores cache) =
      some (encodeMember settings.crypto settings.integrity
        (contractOf settings generation revision scores.length)
        (fieldsOf settings best (position + 1)))

theorem expectedProjection_get (position : Nat) :
    (expectedProjection settings generation revision scores)[position]? =
      scores[position]?.map fun score =>
        (encodeMember settings.crypto settings.integrity
          (contractOf settings generation revision scores.length)
          (fieldsOf settings score (position + 1)), -score.finalScore) := by
  rw [expectedProjection, List.getElem?_map, encodedBoard_get, Option.map_map]
  rfl

/-- The first entry of a player is the best one. -/
theorem exists_best (board : CanonicalBoard settings scores) {score : FinalScore}
    (member : score ∈ scores) : ∃ position best, scores[position]? = some best ∧
      best.playerId = score.playerId ∧
      (∀ other ∈ scores, other.playerId = score.playerId → rankKey best ≤ rankKey other) ∧
      (expectedPlayers settings generation revision scores).find?
          (fun entry => entry.1 = uuidStr score.playerId) =
        some (uuidStr score.playerId, encodeMember settings.crypto settings.integrity
          (contractOf settings generation revision scores.length)
          (fieldsOf settings best (position + 1))) := by
  rw [expectedPlayers, (setDefaults_spec _).2]
  -- the entry of the player at each position of the board
  have entryAt : ∀ position : Nat, ((encodedBoard settings (contractOf settings generation
      revision scores.length) scores).map fun entry => (entry.2.2, entry.1))[position]? =
      scores[position]?.map fun other => (uuidStr other.playerId,
        encodeMember settings.crypto settings.integrity
          (contractOf settings generation revision scores.length)
          (fieldsOf settings other (position + 1))) := by
    intro position
    rw [List.getElem?_map, encodedBoard_get, Option.map_map]
    rfl
  cases found : ((encodedBoard settings (contractOf settings generation revision
      scores.length) scores).map fun entry => (entry.2.2, entry.1)).find?
        (fun entry => decide (entry.1 = uuidStr score.playerId)) with
  | none =>
    obtain ⟨index, isScore⟩ := List.mem_iff_getElem?.mp member
    have here := entryAt index
    rw [isScore] at here
    have absent := List.find?_eq_none.mp found _ (List.mem_of_getElem? here)
    simp at absent
  | some entry =>
    obtain ⟨isPlayer, position, below, isEntry, before⟩ :=
      List.find?_eq_some_iff_getElem.mp found
    have here := entryAt position
    rw [List.getElem?_eq_getElem below, isEntry] at here
    obtain ⟨best, isBest, isPair⟩ := Option.map_eq_some_iff.mp here.symm
    have samePlayer : best.playerId = score.playerId := by
      rw [← isPair] at isPlayer
      exact uuidStr_injective (of_decide_eq_true isPlayer)
    refine ⟨position, best, isBest, samePlayer, ?_, ?_⟩
    · intro other inScores otherPlayer
      obtain ⟨index, isOther⟩ := List.mem_iff_getElem?.mp inScores
      rcases Nat.lt_trichotomy index position with earlier | same | later
      · -- an earlier entry of the player would have been found first
        have there := entryAt index
        rw [isOther, List.getElem?_eq_getElem (earlier.trans below)] at there
        have noEntry := before index earlier
        rw [Option.some.inj there] at noEntry
        simp [otherPlayer] at noEntry
      · rw [same, isBest] at isOther
        rw [Option.some.inj isOther]
      · obtain ⟨belowIndex, isOther'⟩ := List.getElem?_eq_some_iff.mp isOther
        obtain ⟨belowPosition, isBest'⟩ := List.getElem?_eq_some_iff.mp isBest
        have ordered := List.pairwise_iff_getElem.mp board.ordered position index
          belowPosition belowIndex later
        rwa [isBest', isOther'] at ordered
    · rw [← isPair, samePlayer]

/-- The Redis order of a projection is the canonical order of its board. -/
theorem projection_order_canonical (board : CanonicalBoard settings scores)
    (fresh : ∀ key ∈ (generationKeys settings generation).all, cache key = none) :
    ProjectionCanonical settings generation revision scores cache := by
  obtain ⟨atMembers, atPlayers⟩ := @publishGeneration_entries _ _ revision _ _ board fresh
  have distinct : ((expectedProjection settings generation revision scores).map
      Prod.fst).Nodup := by
    rw [expectedProjection, List.map_map]
    exact members_distinct board
  have listed : Redis.zrange (generationKeys settings generation).members
      (publishGeneration settings generation revision scores cache) =
        expectedProjection settings generation revision scores := by
    rw [Redis.zrange, atMembers]
    split_ifs with noScores
    · rw [noScores]
      rfl
    · exact SortedSet.range_addAll (entries_increasing board) distinct
  constructor
  case distinct => exact distinct
  case listed => exact listed
  case succeeds => exact decide_eq_true listed
  case ranks =>
    intro position score isScore
    have someScores : scores ≠ [] := by
      rintro rfl
      cases isScore
    have here : (expectedProjection settings generation revision scores)[position]? =
        some (encodeMember settings.crypto settings.integrity
          (contractOf settings generation revision scores.length)
          (fieldsOf settings score (position + 1)), -score.finalScore) := by
      rw [expectedProjection_get, isScore]
      rfl
    rw [Redis.zrank, atMembers, if_neg someScores]
    exact SortedSet.rank?_addAll (entries_increasing board) distinct here
  case players =>
    intro score member
    obtain ⟨position, best, isBest, samePlayer, least, found⟩ :=
      @exists_best _ generation revision _ board _ member
    have someScores : scores ≠ [] := List.ne_nil_of_mem member
    refine ⟨position, best, isBest, samePlayer, least, ?_⟩
    have once : ((expectedPlayers settings generation revision scores).map Prod.fst).Nodup :=
      (setDefaults_spec _).1
    rw [Redis.hget, atPlayers, if_neg someScores]
    simp only
    rw [find_reverse once, found]
    rfl

end Published

namespace Sample

def rebuild : RebuildSettings where
  crypto := crypto
  integrity := ⟨[1, 2, 3], none⟩
  redisKeyNamespace := []
  gameKey := py "skill_check"
  periodKey := py "20260720T000000Z"
  unicode := id
  timestampMicros := floatMicros

def scoreOf (session player : Uuid) (completedAt finalScore : Int) : FinalScore :=
  ⟨session + 100, player, 4, session, session + 200, 20, 0, completedAt, finalScore⟩

/-- Two players, one with two scores, and two scores that share points and instant. -/
def tiedBoard : List FinalScore :=
  [scoreOf 5 1 1784700000000003 90, scoreOf 7 2 1784700000000003 90,
    scoreOf 6 1 1784700000000009 90, scoreOf 4 1 1784700000000001 10]

end Sample

/-- A board with ties. -/
theorem projection_order_canonical_tied :
    ProjectionCanonical Sample.rebuild (uuidStr 9) 4 Sample.tiedBoard Redis.empty := by
  have instants : ∀ score ∈ Sample.tiedBoard,
      floatMicros score.completedAt = score.completedAt ∧ 0 ≤ score.completedAt ∧
        score.completedAt < 10 ^ 20 := by decide +kernel
  have board : CanonicalBoard Sample.rebuild Sample.tiedBoard :=
    ⟨by decide +kernel, by decide +kernel, fun score member =>
      ⟨(instants score member).1, (instants score member).2.1, (instants score member).2.2⟩⟩
  exact projection_order_canonical board fun _ _ => rfl

end RngGamePlatform
