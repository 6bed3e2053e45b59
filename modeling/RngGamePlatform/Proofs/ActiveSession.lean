/-
Module: RngGamePlatform.Proofs.ActiveSession
Purpose: When sessions are created in the order of their instants the active
  session of a player and game is the latest one, and only then.
Trusted boundary: none
Main exports: ActiveIsLatest.in_order, ActiveRound, active_is_latest,
  active_is_not_latest
-/
import RngGamePlatform.Proofs.SafeRetries

namespace RngGamePlatform

open Encoding Relational Transactions

section Exact

variable {env : Platform} {call : Call} {db db' : Database} {held : List Lock}

/-- Creation out of order puts an active session behind another one. -/
theorem ActiveIsLatest.in_order (latest : ActiveIsLatest db') (keys' : Keys db')
    (moves : Moves held db db') (starts : Starts env call db db') :
    CreatedInOrder db db' := by
  intro row member isNew old inDb ofPlayer ofGame
  have active : row.status = .active := by
    rcases starts row member with ⟨source, inSource, same⟩ | started
    · exact absurd same.id.symm (lookup_none.mp isNew source inSource)
    · exact started.active
  rcases moves.sessions.mem inDb with ⟨old', inDb', step⟩
  have same := step.sameRound
  have top := (latestSessionRow_iff keys'.sessionIds member).mp
    (latest row member active)
  rcases top old' inDb' (by rw [same]; exact ofPlayer) (by rw [same]; exact ofGame) with
    isRow | older
  · rw [← isRow] at isNew
    exact absurd step.id.symm (lookup_none.mp isNew old inDb)
  · rwa [newer_sameRound (.refl row) same] at older

end Exact

section Recovery

variable {env : Platform} {calls : List Call} {db : Database} {row : GameSession}

/-- An active session that has not elapsed at `now`, with the catalogue rows that
its recovery reads. -/
structure ActiveRound (env : Platform) (db : Database) (row : GameSession)
    (gameKey : PyStr) (now : Int) : Prop where
  member : row ∈ db.sessions
  active : row.status = .active
  pending : now < row.expiresAt
  player : ∃ player, playerById row.playerId db = some player
  game : ∃ game, lookup Game.key gameKey db.games = some game ∧ game.id = row.gameId
  current : ∃ config, highestVersion (db.configs.filter fun config =>
    config.gameId = row.gameId ∧ config.status = .published) = some config
  pinned : ∃ config payload, configById row.configVersionId db = some config ∧
    validatedConfig env.schema config = .ok payload

/-- No session of the player and game has elapsed. -/
theorem ActiveRound.nothingElapsed {gameKey : PyStr} {now : Int}
    (round : ActiveRound env db row gameKey now) (rounds : Rounds db) :
    elapsedSessions row.playerId row.gameId now db = [] := by
  refine List.filter_eq_nil_iff.mpr fun other member isElapsed => ?_
  rcases elapsed_iff.mp isElapsed with ⟨ofPlayer, ofGame, active, due⟩
  have same := rounds.activeOnce other member row round.member active round.active
    ofPlayer ofGame
  rw [same] at due
  exact absurd due (Int.not_le.mpr round.pending)

/-- The recovery state of a game reports its active round. -/
theorem retrievePlayerGameState_active {gameKey : PyStr} {now : Int}
    (rounds : Rounds db) (latest : ActiveIsLatest db)
    (round : ActiveRound env db row gameKey now) :
    ∃ state, (retrievePlayerGameState env row.playerId row.playerId gameKey).run [now]
        db db = some (.ok state, db) ∧ state.gameSession = some row := by
  have isLatest := latest row round.member round.active
  have nothing := round.nothingElapsed rounds
  rcases round.player with ⟨player, isPlayer⟩
  rcases round.game with ⟨game, isGame, ofGame⟩
  rcases round.current with ⟨current, isCurrent⟩
  rcases round.pinned with ⟨pinned, payload, isPinned, isPayload⟩
  have ofPlayer : player.id = row.playerId := lookup_key isPlayer
  refine ⟨roundState now (if now < availableAt row payload then
    some (availableAt row payload) else none) game.key row (outcomeBySession row.id db)
    ((rewardBySession row.id db).map Prod.snd) (proofBySession row.id db)
    (scoreBySession row.id db), ?_, rfl⟩
  simp only [retrievePlayerGameState, require, Program.require, if_true,
    Program.ret_bind, lockPlayer, readForUpdate, getGame, getActiveConfig, orRaise,
    Program.orRaise, clock, Program.clock, lockExpiredActiveSessions, readState,
    latestSession, nextPlayAt, loadedPayload, getConfigById, readRound,
    getOutcomeBySession, getRewardBySession, getFairnessProofBySession,
    getFinalScoreBySession, read, Program.query, Program.select_bind, Program.now_bind,
    Program.run, isPlayer, isGame, ofGame, isCurrent, ofPlayer, nothing, isLatest,
    finalizeExpiredSessions, isPinned, isPayload, byRules, Program.pure_eq]

/-- A creation under a new request id is refused while a round is active. -/
theorem createSession_active {requestId : Uuid} {gameKey : PyStr} {draw : SessionDraw}
    {startedAt now : Int} (rounds : Rounds db) (latest : ActiveIsLatest db)
    (round : ActiveRound env db row gameKey now)
    (absent : sessionByRequest requestId db = none)
    (activePlayer : ∀ player, playerById row.playerId db = some player →
      player.status = .active)
    (activeGame : ∀ game, lookup Game.key gameKey db.games = some game →
      game.isActive = true) :
    (createSession env requestId row.playerId row.playerId gameKey draw).run
      [startedAt, now] db db = some (.error .activeSession, db) := by
  have isLatest := latest row round.member round.active
  have nothing := round.nothingElapsed rounds
  rcases round.player with ⟨player, isPlayer⟩
  rcases round.game with ⟨game, isGame, ofGame⟩
  rcases round.current with ⟨current, isCurrent⟩
  have ofPlayer : player.id = row.playerId := lookup_key isPlayer
  have isActive := activePlayer player isPlayer
  have isOpen := activeGame game isGame
  simp only [createSession, createNewSession, require, Program.require, if_true,
    Program.ret_bind, lockSessionRequestId, lockPlayer, readForUpdate,
    getSessionByRequest, getGame, getActiveConfig, orRaise, Program.orRaise, clock,
    Program.clock, lockExpiredActiveSessions, latestSession, read, Program.query,
    Program.select_bind, Program.now_bind, Program.run, isPlayer, isGame, ofGame,
    isCurrent, ofPlayer, nothing, isLatest, absent, isActive, isOpen,
    finalizeExpiredSessions, checkLatest, round.active, ne_eq, not_true_eq_false,
    if_false, Program.raise_bind]

end Recovery

/-- No creation meets the uniqueness of the active session. -/
def NeverConflicting (system : ServiceSystem) : Prop :=
  ∀ (index : Nat) (thread : ServiceThread), system.threads[index]? = some thread →
    thread.status ≠ .finished (.error (.integrity .uqActiveSessionPlayerGame)) ∧
      (thread.status = .running → thread.program ≠
        .raise (.integrity .uqActiveSessionPlayerGame))

/-- The active sessions of a system are the latest ones, and what follows. -/
structure ActiveReported (env : Platform) (system : ServiceSystem) : Prop where
  latest : ActiveIsLatest system.db
  unmet : NeverConflicting system
  refused : ∀ row requestId gameKey draw startedAt now,
    ActiveRound env system.db row gameKey now →
    sessionByRequest requestId system.db = none →
    (∀ player, playerById row.playerId system.db = some player →
      player.status = .active) →
    (∀ game, lookup Game.key gameKey system.db.games = some game →
      game.isActive = true) →
    (createSession env requestId row.playerId row.playerId gameKey draw).run
      [startedAt, now] system.db system.db = some (.error .activeSession, system.db)
  recovered : ∀ row gameKey now, ActiveRound env system.db row gameKey now →
    ∃ state, (retrievePlayerGameState env row.playerId row.playerId gameKey).run [now]
      system.db system.db = some (.ok state, system.db) ∧
        state.gameSession = some row
  /-- The order is needed: the first creation out of order breaks it. -/
  exact : ∀ label next,
    system.step Lock.conflicts (body env) label = some next →
      (ActiveIsLatest next.db ↔ CreatedInOrder system.db next.db)

theorem CreatedInOrder.same {db db' : Database} (same : db' = db) :
    CreatedInOrder db db' := by
  intro row member isNew
  rw [same] at member
  exact absurd rfl (lookup_none.mp isNew row member)

/-- In every run that creates sessions in order the active session is the latest
one, and the next step keeps this exactly when it is in order, too. -/
theorem active_is_latest {env : Platform} {system : ServiceSystem}
    (reachable : ServiceReachable env (InOrder env) system) :
    ActiveReported env system := by
  have sound := ordered_sound reachable
  have consistent := sound.inv.1
  have latest := sound.inv.2 trivial
  refine
    { latest := latest
      unmet := fun index thread found => ⟨fun ended => ?_, fun running program => ?_⟩
      refused := fun row requestId gameKey draw startedAt now round =>
        createSession_active consistent.rounds latest round
      recovered := fun row gameKey now round =>
        retrievePlayerGameState_active consistent.rounds latest round
      exact := fun label next stepped => ⟨fun latest' => ?_, fun ordered => ?_⟩ }
  · exact (sound.exception found ended).2 trivial rfl
  · exact (sound.raising service_lawful found running program).2 trivial rfl
  · have free := service_sound (reachable.mono fun _ _ _ => trivial)
    rcases free.step service_lawful stepped (fun absurd => absurd.elim) with
      ⟨sound', same | ⟨_, _, _, guarantee⟩⟩
    · exact .same same
    · exact latest'.in_order sound'.inv.1.keys guarantee.moves guarantee.effects.starts
  · exact (sound.step service_lawful stepped (fun _ => ordered)).1.inv.2 trivial

instance (db : Database) : Decidable (ActiveIsLatest db) :=
  inferInstanceAs (Decidable (∀ row ∈ db.sessions, row.status = .active →
    latestSessionRow row.playerId row.gameId db = some row))

instance (db db' : Database) : Decidable (CreatedInOrder db db') :=
  inferInstanceAs (Decidable (∀ row ∈ db'.sessions, sessionById row.id db = none →
    ∀ old ∈ db.sessions, old.playerId = row.playerId → old.gameId = row.gameId →
      newer row old = true))

namespace Sample

/-- The step creates sessions in order. -/
def inOrder (system : ServiceSystem) (label : Label Int Call) : Bool :=
  match system.step Lock.conflicts (body platform) label with
  | some next => CreatedInOrder system.db next.db
  | none => true

theorem inOrder_admits (system : ServiceSystem) (label : Label Int Call)
    (passes : inOrder system label = true) : InOrder platform system label := by
  intro next stepped
  simpa [inOrder, stepped] using passes

/-- A prediction-card session is created, cancelled and replaced. -/
def card (requestId sessionId : Uuid) : Call :=
  .createSession requestId 1 1 (py "prediction_card") ⟨sessionId, []⟩

def orderedLabels : List (Label Int Call) :=
  [.start (card 61 62)] ++ statements 0 13 20 ++ [.start (.cancelSession 62 1)] ++
    statements 1 6 30 ++ [.start (card 51 52)] ++ statements 2 14 40

theorem ordered_runs : (start.followWhile Lock.conflicts (body platform) inOrder
    orderedLabels).isSome = true := by
  decide +kernel

@[irreducible] def ordered : ServiceSystem :=
  (start.followWhile Lock.conflicts (body platform) inOrder orderedLabels).get
    ordered_runs

theorem ordered_reachable : ServiceReachable platform (InOrder platform) ordered := by
  unfold ordered
  exact Reachable.followWhile inOrder_admits (.start catalogue catalogue_only)
    (Option.some_get ordered_runs).symm

/-- The same two creations, but the second one has begun first: its session is
older than the cancelled one.  Then a third one meets the active session. -/
def reorderedLabels : List (Label Int Call) :=
  [.start (card 51 52), .start (card 61 62)] ++ statements 0 1 10 ++
    statements 1 13 20 ++ [.start (.cancelSession 62 1)] ++ statements 2 6 30 ++
    statements 0 13 40 ++ [.start (card 71 72)] ++ statements 3 12 50

theorem reordered_runs : (run reorderedLabels).isSome = true := by
  decide +kernel

@[irreducible] def reordered : ServiceSystem := (run reorderedLabels).get reordered_runs

theorem reordered_reachable : ServiceReachable platform AnyStep reordered := by
  unfold reordered
  exact reachable (Option.some_get reordered_runs).symm

end Sample

/-- A run in order with an active session after an ended one. -/
theorem active_is_latest_ordered :
    Sample.ordered.db.sessions.map GameSession.status = [.cancelled, .active] ∧
      ActiveReported Sample.platform Sample.ordered :=
  ⟨by decide +kernel, active_is_latest Sample.ordered_reachable⟩

/-- A creation that began before another one and inserts after it leaves an active
session that is not the latest one; the next creation fails in the database. -/
theorem active_is_not_latest :
    ServiceReachable Sample.platform AnyStep Sample.reordered ∧
      ¬ActiveIsLatest Sample.reordered.db ∧
      (Sample.reordered.threads.map fun thread => thread.status.error?) =
        [none, none, none, some (.integrity .uqActiveSessionPlayerGame)] :=
  ⟨Sample.reordered_reachable, by decide +kernel, by decide +kernel⟩

end RngGamePlatform
