/-
Module: RngGamePlatform.Proofs.PlayerSpecs
Purpose: The judgements of the requests that lock a player: the creation of a
  session and the recovery of a game's state.
Trusted boundary: none
Main exports: Steady, ActiveIsLatest, Swept, Runs.sweep, createSession_runs,
  retrievePlayerGameState_runs
-/
import RngGamePlatform.Proofs.Answers
import RngGamePlatform.Proofs.SessionSpecs
import RngGamePlatform.Proofs.Stability

namespace RngGamePlatform

open Encoding Relational Transactions

/-!
These requests read sessions that others may end at any moment.  What the
player's lock keeps fixed is which sessions there are: their number, their
creation, and that an ended one stays as it is.
-/

/-- A session that at most ends between two states. -/
def Steady (old new : GameSession) : Prop :=
  SameRound old new ∧ (old.status ≠ .active → new = old)

theorem Steady.refl (row : GameSession) : Steady row row :=
  ⟨.refl row, fun _ => rfl⟩

theorem SessionStep.steady {held : List Lock} {old new : GameSession}
    (step : SessionStep held old new) : Steady old new :=
  ⟨step.sameRound, step.ended⟩

section Lists

variable {as bs : List GameSession} {related : GameSession → GameSession → Prop}

/-- The newest of two lists of the same rounds is the same round. -/
theorem newest_related (same : ∀ {a b}, related a b → SameRound a b)
    (pairs : List.Forall₂ related as bs) :
    Option.Rel related (newest as) (newest bs) := by
  induction pairs with
  | nil => exact .none
  | @cons a b as bs first rest ih =>
      simp only [newest]
      generalize newest as = left at ih
      generalize newest bs = right at ih
      cases ih with
      | none => exact .some first
      | @some best best' both =>
          have order : newer best' b = newer best a := by
            rw [same both, same first]
            rfl
          simp only [order]
          split
          · exact .some both
          · exact .some first

/-- Rows that a selection keeps as they are, selected from related lists. -/
theorem filter_related {condition : GameSession → Bool}
    (pairs : List.Forall₂ related as bs)
    (kept : ∀ a ∈ as, ∀ b, related a b →
      condition b = condition a ∧ (condition a = true → b = a)) :
    bs.filter condition = as.filter condition := by
  induction pairs with
  | nil => rfl
  | @cons a b as bs first rest ih =>
      rcases kept a List.mem_cons_self b first with ⟨same, still⟩
      have tail := ih fun a member => kept a (List.mem_cons_of_mem _ member)
      by_cases chosen : condition a = true
      · rw [still chosen, List.filter_cons_of_pos chosen,
          List.filter_cons_of_pos chosen, tail]
      · rw [List.filter_cons_of_neg chosen,
          List.filter_cons_of_neg (by rwa [same]), tail]

theorem filter_replace {row : GameSession} {condition : GameSession → Bool}
    (shared : ∀ old ∈ as, old.id = row.id → condition old = condition row) :
    (replace GameSession.id row as).filter condition =
      replace GameSession.id row (as.filter condition) := by
  induction as with
  | nil => rfl
  | cons old rest ih =>
      have tail := ih fun old member => shared old (List.mem_cons_of_mem _ member)
      have head := shared old List.mem_cons_self
      simp only [replace, List.map_cons] at tail ⊢
      by_cases hit : old.id = row.id
      · by_cases chosen : condition row = true
        · simp [hit, chosen, head hit, tail]
        · simp [hit, chosen, head hit, tail]
      · by_cases chosen : condition old = true
        · simp [hit, chosen, tail]
        · simp [hit, chosen, tail]

end Lists

theorem ofPlayerAndGame_sameRound {playerId gameId : Uuid} {old new : GameSession}
    (same : SameRound old new) :
    ofPlayerAndGame playerId gameId new = ofPlayerAndGame playerId gameId old := by
  rw [same]
  rfl

/-- The sessions of a locked player in one game: others can only end them. -/
theorem Others.sessionsOfGame {held : List Lock} {db db' : Database}
    {playerId : Uuid} (others : Others held db db')
    (mine : forUpdate (.player playerId) ∈ held) (gameId : Uuid) :
    ∃ held', Compatible Lock.conflicts held' held ∧
      List.Forall₂ (SessionStep held')
        (db.sessions.filter (ofPlayerAndGame playerId gameId))
        (db'.sessions.filter (ofPlayerAndGame playerId gameId)) := by
  refine others.sessionsOf mine (fun row chosen => ?_)
    fun _ _ same => ofPlayerAndGame_sameRound same
  simp only [ofPlayerAndGame, decide_eq_true_eq] at chosen
  exact chosen.1

/-- An active session is the latest of its player and game. -/
def ActiveIsLatest (db : Database) : Prop :=
  ∀ row ∈ db.sessions, row.status = .active →
    latestSessionRow row.playerId row.gameId db = some row

/-- No session of the player and game is active. -/
def Idle (playerId gameId : Uuid) (db : Database) : Prop :=
  ∀ row ∈ db.sessions, row.playerId = playerId → row.gameId = gameId →
    row.status ≠ .active

/-- The transaction has ended the elapsed session of a player and game, if there
was one. -/
structure Swept (env : Platform) (playerId gameId : Uuid) (db : Database)
    (changes : Database → Database) (held : List Lock) : Prop where
  effects : ∀ call, changes db = db ∨ Effect env call db (changes db)
  moves : ∀ {more}, held ⊆ more → Moves more db (changes db)
  players : ∀ db', Others held db db' → (changes db').players = db'.players
  games : ∀ db', Others held db db' → (changes db').games = db'.games
  configs : ∀ db', Others held db db' → (changes db').configs = db'.configs
  analytics : ∀ db', Others held db db' → (changes db').analytics = db'.analytics
  rounds : ∀ db', Others held db db' →
    List.Forall₂ SameRound db'.sessions (changes db').sessions
  steady : ∀ db', Others held db db' →
    List.Forall₂ Steady
      ((changes db).sessions.filter (ofPlayerAndGame playerId gameId))
      ((changes db').sessions.filter (ofPlayerAndGame playerId gameId))
  idle : ActiveIsLatest db →
    (∀ latest, latestSessionRow playerId gameId (changes db) = some latest →
      latest.status ≠ .active) → Idle playerId gameId (changes db)

namespace Swept

variable {env : Platform} {playerId gameId : Uuid} {db : Database}
  {changes : Database → Database} {held more : List Lock}

theorem mono (subset : held ⊆ more)
    (swept : Swept env playerId gameId db changes held) :
    Swept env playerId gameId db changes more where
  effects := swept.effects
  moves := fun wider => swept.moves fun _ member => wider (subset member)
  players := fun db' others => swept.players db' (others.mono subset)
  games := fun db' others => swept.games db' (others.mono subset)
  configs := fun db' others => swept.configs db' (others.mono subset)
  analytics := fun db' others => swept.analytics db' (others.mono subset)
  rounds := fun db' others => swept.rounds db' (others.mono subset)
  steady := fun db' others => swept.steady db' (others.mono subset)
  idle := swept.idle

/-- Nothing was elapsed. -/
theorem unchanged (mine : forUpdate (.player playerId) ∈ held) :
    Swept env playerId gameId db id held where
  effects := fun _ => Or.inl rfl
  moves := fun _ => .refl _ db
  players := fun _ _ => rfl
  games := fun _ _ => rfl
  configs := fun _ _ => rfl
  analytics := fun _ _ => rfl
  rounds := fun _ _ => List.forall₂_same.mpr fun row _ => .refl row
  steady := fun db' others => by
    rcases others.sessionsOfGame mine gameId with ⟨held', _, pairs⟩
    exact pairs.imp fun _ _ step => step.steady
  idle := fun latest noneActive row member ofPlayer ofGame active => by
    subst ofPlayer ofGame
    exact noneActive row (latest row member active) active

/-- The sweep and one more effect. -/
theorem andThen {call : Call} {db' : Database}
    (swept : Swept env playerId gameId db changes held)
    (effect : Effect env call (changes db) db') : Effects env call db db' := by
  rcases swept.effects call with same | first
  · exact .one (same ▸ effect)
  · refine .ending first (fun row member => ?_) effect
    exact forall₂_mem_right (swept.rounds db (.refl held db)) member

/-- The sweep alone. -/
theorem alone (swept : Swept env playerId gameId db changes held) (call : Call) :
    Effects env call db (changes db) := by
  rcases swept.effects call with same | first
  · exact .unchanged same
  · exact .one first

/-- The latest session keeps its round, and stays as it is when it has ended. -/
theorem latest (swept : Swept env playerId gameId db changes held) {db' : Database}
    (others : Others held db db') :
    Option.Rel Steady (latestSessionRow playerId gameId (changes db))
      (latestSessionRow playerId gameId (changes db')) :=
  newest_related (fun steady => steady.1) (swept.steady db' others)

/-- One elapsed session was ended. -/
theorem ofTerminated {row : GameSession} {now : Int} (sane : Sane db)
    (found : sessionById row.id db = some row) (active : row.status = .active)
    (ofPlayer : row.playerId = playerId) (ofGame : row.gameId = gameId)
    (mine : forUpdate (.player playerId) ∈ held)
    (rowMine : forUpdate (.session row.id) ∈ held)
    (terminated : Terminated env row .expired now db changes held) :
    Swept env playerId gameId db changes held := by
  have only : ∀ db', Others held db db' → ∀ old ∈ db'.sessions,
      old.id = row.id → old = row := by
    intro db' others old member same
    rcases others with ⟨held', apart, moves⟩
    have free := not_mem_of_compatible apart rowMine .forUpdate
    rcases moves.sessions.source member with ⟨before, inDb, step⟩ | fresh
    · have isRow := sane.session_eq found inDb (step.id.symm.trans same)
      subst isRow
      rcases step with stays | ⟨locked, _⟩
      · exact stays.symm
      · exact absurd locked free
    · exact absurd (same ▸ fresh.1) free
  have views := fun db' others => (terminated.view db' others).1
  refine
    { effects := fun call => Or.inr (terminated.effect call)
      moves := terminated.moves
      players := fun db' others => (views db' others).players
      games := fun db' others => (views db' others).games
      configs := fun db' others => (views db' others).configs
      analytics := fun db' others => (views db' others).analytics
      rounds := fun db' others => ?_
      steady := fun db' others => ?_
      idle := fun _ _ => ?_ }
  · rw [(views db' others).sessions, replace, List.forall₂_map_right_iff]
    refine List.forall₂_same.mpr fun old member => ?_
    by_cases hit : old.id = row.id
    · rw [only db' others old member hit]
      simpa using endedAs_sameRound row .expired now
    · simpa [hit] using SameRound.refl old
  · have shared : ∀ db', Others held db db' → ∀ old ∈ db'.sessions,
        old.id = (endedAs row .expired now).id →
        ofPlayerAndGame playerId gameId old =
          ofPlayerAndGame playerId gameId (endedAs row .expired now) := by
      intro db' others old member same
      rw [only db' others old member same]
      rfl
    rw [(views db (.refl held db)).sessions, (views db' others).sessions,
      filter_replace (shared db (.refl held db)), filter_replace (shared db' others),
      replace, replace, List.forall₂_map_left_iff, List.forall₂_map_right_iff]
    rcases others.sessionsOfGame mine gameId with ⟨held', _, pairs⟩
    refine pairs.imp fun old new step => ?_
    rw [step.id]
    split
    · exact Steady.refl _
    · exact step.steady
  · intro other member sameplayer samegame isActive
    rw [(views db (.refl held db)).sessions] at member
    rcases mem_replace member with isEnded | ⟨inDb, different⟩
    · rw [isEnded] at isActive
      cases isActive
    · have same := sane.activeOnce other inDb row (sessionById_mem found) isActive
        active (sameplayer.trans ofPlayer.symm) (samegame.trans ofGame.symm)
      exact different (by rw [same]; rfl)

end Swept

theorem elapsed_iff {playerId gameId : Uuid} {now : Int} {row : GameSession} :
    elapsed playerId gameId now row = true ↔ row.playerId = playerId ∧
      row.gameId = gameId ∧ row.status = .active ∧ row.expiresAt ≤ now := by
  simp [elapsed]

/-- Locked elapsed sessions are still the elapsed ones of a locked player. -/
theorem Others.elapsedSessions {held : List Lock} {db db' : Database}
    {playerId gameId : Uuid} {now : Int} (others : Others held db db')
    (mine : forUpdate (.player playerId) ∈ held)
    (locked : ∀ row ∈ elapsedSessions playerId gameId now db,
      forUpdate (.session row.id) ∈ held) :
    elapsedSessions playerId gameId now db' =
      elapsedSessions playerId gameId now db := by
  have split : ∀ db, RngGamePlatform.elapsedSessions playerId gameId now db =
      (db.sessions.filter (ofPlayerAndGame playerId gameId)).filter
        (elapsed playerId gameId now) := by
    intro db
    rw [RngGamePlatform.elapsedSessions, List.filter_filter]
    congr 1
    funext row
    cases isElapsed : elapsed playerId gameId now row with
    | false => rfl
    | true => simp [ofPlayerAndGame, elapsed_iff.mp isElapsed]
  rcases others.sessionsOfGame mine gameId with ⟨held', apart, pairs⟩
  rw [split, split]
  refine filter_related pairs fun a member b step => ?_
  rcases step with rfl | ⟨theirs, active, ended, same⟩
  · exact ⟨rfl, fun _ => rfl⟩
  · have notElapsed : elapsed playerId gameId now a ≠ true := by
      intro isElapsed
      refine not_mem_of_compatible apart (locked a ?_) .forUpdate theirs
      exact List.mem_filter.mpr ⟨(List.mem_filter.mp member).1, isElapsed⟩
    have notAfter : elapsed playerId gameId now b ≠ true := fun isElapsed =>
      ended (elapsed_iff.mp isElapsed).2.2.1
    exact ⟨by simp [notElapsed, notAfter], fun chosen => absurd chosen notElapsed⟩

/-- A player and a game have at most one elapsed session. -/
theorem Sane.elapsedSessions {db : Database} (sane : Sane db)
    (playerId gameId : Uuid) (now : Int) :
    elapsedSessions playerId gameId now db = [] ∨
      ∃ row, elapsedSessions playerId gameId now db = [row] := by
  unfold RngGamePlatform.elapsedSessions
  cases rows : db.sessions.filter (elapsed playerId gameId now) with
  | nil => exact Or.inl rfl
  | cons one rest =>
      cases rest with
      | nil => exact Or.inr ⟨one, rfl⟩
      | cons other rest =>
          have distinct : Unique GameSession.id (one :: other :: rest) :=
            rows ▸ sane.sessionIds.filter _
          have chosen : ∀ row ∈ one :: other :: rest, row ∈ db.sessions ∧
              elapsed playerId gameId now row = true :=
            fun row member => List.mem_filter.mp (rows ▸ member)
          rcases chosen one (by simp) with ⟨inOne, isOne⟩
          rcases chosen other (by simp) with ⟨inOther, isOther⟩
          rcases elapsed_iff.mp isOne with ⟨playerOne, gameOne, activeOne, _⟩
          rcases elapsed_iff.mp isOther with ⟨playerOther, gameOther, activeOther, _⟩
          have same := sane.activeOnce one inOne other inOther activeOne activeOther
            (playerOne.trans playerOther.symm) (gameOne.trans gameOther.symm)
          exact absurd (congrArg GameSession.id same)
            (List.rel_of_pairwise_cons distinct (by simp))

/-- Locking and ending the elapsed session of a locked player and game. -/
theorem Runs.sweep {ρ : Type} {env : Platform} {duty : Duty}
    {good : ρ → Phase Database Lock → Prop} {db : Database} {held : List Lock}
    {playerId gameId : Uuid} {now : Int} {f : List GameSession → Prog ρ}
    (tolerant : duty.Tolerant) (sane : Sane db)
    (mine : forUpdate (.player playerId) ∈ held)
    (rest : ∀ expiredSessions changes held', held ⊆ held' →
      Swept env playerId gameId db changes held' →
      Runs duty good (f expiredSessions) db changes held') :
    Runs duty good
      (lockExpiredActiveSessions playerId gameId now >>= fun expiredSessions =>
        finalizeExpiredSessions env expiredSessions now >>= fun _ =>
          f expiredSessions) db id held := by
  refine Meets.query_bind (Or.inr fun db' others => ?_) ?_
  · have same : elapsedSessions playerId gameId now db' =
        elapsedSessions playerId gameId now db :=
      others.elapsedSessions (List.mem_append_right _ mine) fun row member =>
        List.mem_append_left _ (List.mem_map.mpr ⟨row, member, rfl⟩)
    simp only [id_eq, same, and_self]
  simp only [id_eq]
  rcases sane.elapsedSessions playerId gameId now with isEmpty | ⟨row, isRow⟩
  · rw [isEmpty]
    exact rest [] id _ (List.subset_append_right _ _)
      (.unchanged (List.mem_append_right _ mine))
  · have member : row ∈ elapsedSessions playerId gameId now db := by simp [isRow]
    rcases List.mem_filter.mp member with ⟨inDb, isElapsed⟩
    rcases elapsed_iff.mp isElapsed with ⟨ofPlayer, ofGame, active, due⟩
    have found : sessionById row.id db = some row := sane.sessionIds.lookup inDb rfl
    rw [isRow]
    simp only [finalizeExpiredSessions, bind_assoc, Program.ret_bind]
    refine Runs.finalize tolerant sane found (by simp) (fun _ isSome => by cases isSome)
      ?_ ?_
    · intro held' _ notDue
      exact absurd (notDue active) (Int.not_lt.mpr due)
    · intro _ _ changes held' subset terminated
      refine rest [row] changes held'
        (fun lock inHeld => subset (List.mem_append_right _ inHeld)) ?_
      exact .ofTerminated sane found active ofPlayer ofGame
        (subset (List.mem_append_right _ mine)) (subset (by simp)) terminated

section Create

variable {env : Platform} {duty : Duty} {db : Database} {held : List Lock}

theorem rounds_lookup_none {κ : Type} [DecidableEq κ] {key : GameSession → κ} {k : κ}
    {as bs : List GameSession} (keeps : ∀ a b, SameRound a b → key b = key a)
    (pairs : List.Forall₂ SameRound as bs) :
    lookup key k bs = none ↔ lookup key k as = none := by
  induction pairs with
  | nil => rfl
  | @cons a b as bs first rest ih =>
      simp only [lookup_none, List.forall_mem_cons, keeps a b first] at ih ⊢
      rw [ih]

/-- Sessions of a game that at most end stay without an active one. -/
theorem activeElsewhere_steady {row : GameSession} {as bs : List GameSession}
    (pairs : List.Forall₂ Steady
      (as.filter (ofPlayerAndGame row.playerId row.gameId))
      (bs.filter (ofPlayerAndGame row.playerId row.gameId)))
    (free : Database.activeElsewhere row as = false) :
    Database.activeElsewhere row bs = false := by
  have within : ∀ rows, Database.activeElsewhere row rows = Database.activeElsewhere row
      (rows.filter (ofPlayerAndGame row.playerId row.gameId)) := by
    intro rows
    rw [Database.activeElsewhere, Database.activeElsewhere, List.any_filter]
    congr 1
    funext other
    by_cases mine : ofPlayerAndGame row.playerId row.gameId other = true
    · rw [mine, Bool.true_and]
    · simp only [ofPlayerAndGame, decide_eq_true_eq] at mine
      simp only [ofPlayerAndGame, mine, decide_false, Bool.false_and,
        decide_eq_false_iff_not]
      exact fun all => mine ⟨all.2.1, all.2.2.1⟩
  rw [within] at free ⊢
  generalize as.filter (ofPlayerAndGame row.playerId row.gameId) = as at pairs free
  generalize bs.filter (ofPlayerAndGame row.playerId row.gameId) = bs at pairs
  induction pairs with
  | nil => rfl
  | @cons a b as bs first rest ih =>
      simp only [Database.activeElsewhere, List.any_cons, Bool.or_eq_false_iff]
        at free ih ⊢
      refine ⟨?_, ih free.2⟩
      by_cases active : a.status = .active
      · have same := first.1
        have notA := free.1
        simp only [decide_eq_false_iff_not] at notA ⊢
        rintro ⟨different, ofPlayer, ofGame, _⟩
        rw [same] at different ofPlayer ofGame
        exact notA ⟨different, ofPlayer, ofGame, active⟩
      · rw [first.2 active]
        exact free.1

theorem insertSession_tolerated (tolerant : duty.Tolerant) {row : GameSession}
    {error : ServiceError}
    (conflict : duty.fails (.integrity .uqActiveSessionPlayerGame) ∨
      Database.activeElsewhere row db.sessions = false)
    (fails : Database.insertSession row db = .error error) : duty.fails error := by
  rcases Database.checked_eq_error fails with ⟨violated, member, rfl⟩
  by_cases isConflict : violated = .uqActiveSessionPlayerGame
  · subst isConflict
    rcases conflict with allowed | free
    · exact allowed
    · simp [free] at member
  · refine tolerant.integrity ?_ isConflict
    rintro rfl
    simp at member

/-- The state after a session is inserted. -/
def afterSession (row : GameSession) (view : Database) : Database :=
  { view with sessions := view.sessions ++ [row] }

/-- The state after a session and its evidence are inserted. -/
def afterStart (row : GameSession) (gameKey : PyStr) (view : Database) : Database :=
  { view with
    sessions := view.sessions ++ [row]
    audits := view.audits ++ [sessionAudit row]
    analytics := view.analytics ++ [sessionStartedEvent row gameKey] }

/-- A new session can be inserted on whatever the others leave. -/
theorem insertSession_stable {row : GameSession} {changes : Database → Database}
    {db' state : Database}
    (swept : Swept env row.playerId row.gameId db changes held)
    (others : Others held db db') (mine : forUpdate (.session row.id) ∈ held)
    (requestMine : forUpdate (.advisory (requestLockKey row.requestId)) ∈ held)
    (succeeds : Database.insertSession row (changes db) = .ok state) :
    Database.insertSession row (changes db') = .ok (afterSession row (changes db')) := by
  rcases Database.insertSession_ok.mp succeeds with
    ⟨⟨newId, newRequest, free, ended, hex⟩, _⟩
  have byId : ∀ a b : GameSession, SameRound a b → b.id = a.id :=
    fun _ _ same => same.id
  have byRequest : ∀ a b : GameSession, SameRound a b → b.requestId = a.requestId :=
    fun _ _ same => by rw [same]
  refine Database.insertSession_ok.mpr ⟨⟨?_, ?_, fun active => ?_, ended, hex⟩, rfl⟩
  · rw [rounds_lookup_none byId (swept.rounds db (.refl held db))] at newId
    rw [rounds_lookup_none byId (swept.rounds db' others)]
    exact others.sessionById_none mine newId
  · rw [rounds_lookup_none byRequest (swept.rounds db (.refl held db))] at newRequest
    rw [rounds_lookup_none byRequest (swept.rounds db' others)]
    exact others.sessionByRequest_none requestMine newRequest
  · exact activeElsewhere_steady (swept.steady db' others) (free active)

/-- Storing a new session after the sweep. -/
theorem storeSession_runs {good : GameSession → Phase Database Lock → Prop}
    {row : GameSession} {gameKey : PyStr} {changes : Database → Database}
    (tolerant : duty.Tolerant)
    (swept : Swept env row.playerId row.gameId db changes held)
    (requestMine : forUpdate (.advisory (requestLockKey row.requestId)) ∈ held)
    (playerMine : forUpdate (.player row.playerId) ∈ held)
    (conflict : duty.fails (.integrity .uqActiveSessionPlayerGame) ∨
      Database.activeElsewhere row (changes db).sessions = false)
    (allows : ∀ {middle db' held'}, Database.insertSession row (changes db) =
        .ok middle →
      insertEvidence [sessionAudit row] [sessionStartedEvent row gameKey] middle =
        .ok db' →
      Moves held' db db' →
      duty.guarantee db db' held' ∧ good row (.settled db')) :
    Runs duty good (storeSession row gameKey) db changes held := by
  refine Runs.write (fun db => afterSession row (changes db)) (fun _ _ => rfl)
    (fun _ fails => insertSession_tolerated tolerant conflict fails)
    (fun _ inserted _ others => insertSession_stable
      (swept.mono (List.subset_append_right _ _)) others (by simp)
      (List.mem_append_right _ requestMine) inserted)
    fun inserted changes' shaped => ?_
  have swept₁ := swept.mono (List.subset_append_right
    [forUpdate (.session row.id), forKeyShare (.player row.playerId),
      forKeyShare (.config row.configVersionId)] held)
  have swept₂ := swept₁.mono
    (List.subset_append_right (analyticsLocks (sessionStartedEvent row gameKey)) _)
  refine Runs.write (fun db => afterStart row gameKey (changes db))
    shaped (fun _ fails => insertEvidence_tolerated tolerant fails)
    (fun _ evidence db' others => insertEvidence_stable others
      (by simp [analyticsLocks]) (by exact swept₂.analytics db (.refl _ db))
      (by exact swept₂.analytics db' others) evidence)
    fun evidence changes'' shaped => ?_
  have moves := (swept₂.moves (List.Subset.refl _)).trans
    ((Moves.insertSession inserted ⟨by simp, by simp [playerMine],
      by simp [requestMine]⟩).trans
      (Moves.insertEvidence evidence (by simp [analyticsLocks])))
  have granted := allows inserted evidence moves
  refine Runs.commitRet ?_ ?_
  · rw [shaped.here]
    exact granted.1
  · rw [shaped.here]
    exact granted.2

/-- What is checked of the latest session: it must have ended, and then nobody
changes it any more. -/
theorem Runs.checkLatest {ρ : Type} {good : ρ → Phase Database Lock → Prop}
    {playerId gameId : Uuid} {now : Int} {changes : Database → Database}
    {f : Unit → Prog ρ}
    (swept : Swept env playerId gameId db changes held)
    (rest : (∀ latest, latestSessionRow playerId gameId (changes db) = some latest →
        latest.status ≠ .active) → Runs duty good (f ()) db changes held) :
    Runs duty good
      (latestSession playerId gameId >>= fun latest =>
        RngGamePlatform.checkLatest env latest now >>= f) db changes held := by
  have related : ∀ db', Others held db db' →
      Option.Rel Steady (latestSessionRow playerId gameId (changes db))
        (latestSessionRow playerId gameId (changes db')) :=
    fun _ others => swept.latest others
  cases isLatest : latestSessionRow playerId gameId (changes db) with
  | none =>
      refine Runs.read (fun db' others => ?_) ?_
      · have both := related db' others
        rw [isLatest] at both ⊢
        cases found : latestSessionRow playerId gameId (changes db') with
        | none => rfl
        | some row =>
            rw [found] at both
            cases both
      · rw [isLatest]
        refine rest fun latest found => ?_
        cases isLatest.symm.trans found
  | some latest =>
      by_cases active : latest.status = .active
      · refine Runs.queryRefused ?_
        rw [isLatest]
        simp only [RngGamePlatform.checkLatest, RngGamePlatform.require,
          Program.require, ne_eq, active, not_true_eq_false, if_false,
          Program.raise_bind]
        exact .raise _ (by simp)
      · refine Runs.read (fun db' others => ?_) ?_
        · have both := related db' others
          rw [isLatest] at both ⊢
          cases found : latestSessionRow playerId gameId (changes db') with
          | none =>
              rw [found] at both
              cases both
          | some row =>
              rw [found] at both
              cases both with
              | some steady => rw [steady.2 active]
        · rw [isLatest]
          simp only [RngGamePlatform.checkLatest, loadedPayload, bind_assoc]
          refine Runs.require (by simp) fun _ => ?_
          refine Runs.read (fun db' others => ?_) ?_
          · simp only [configById, swept.configs db' others,
              swept.configs db (.refl held db), others.configs]
          refine Runs.orRaise (by simp) fun config _ => ?_
          refine Runs.byRules (by simp) fun payload _ => ?_
          refine Runs.require (by simp) fun _ => rest fun other found => ?_
          cases isLatest.symm.trans found
          exact active

theorem createNewSession_runs {requestId ownerId : Uuid} {gameKey : PyStr}
    {draw : SessionDraw} {player : Player} {startedAt : Int}
    (permits : Permits env
      (.createSession requestId player.id ownerId gameKey draw) db duty)
    (sane : Sane db)
    (conflict : duty.fails (.integrity .uqActiveSessionPlayerGame) ∨
      ActiveIsLatest db)
    (foundPlayer : playerById player.id db = some player)
    (owner : player.id = ownerId)
    (absent : sessionByRequest requestId db = none)
    (playerMine : forUpdate (.player player.id) ∈ held)
    (requestMine : forUpdate (.advisory (requestLockKey requestId)) ∈ held) :
    Runs duty (fun row phase =>
        Created env requestId player.id ownerId gameKey (roundOf row) phase.db)
      (createNewSession env requestId player gameKey draw startedAt) db id held := by
  unfold createNewSession
  refine Runs.require (by simp) fun _ => ?_
  refine Runs.readFixed (fun db' others => by rw [others.games]) ?_
  refine Runs.orRaise (by simp) fun game foundGame => ?_
  refine Runs.require (by simp) fun _ => ?_
  refine Runs.readFixed (fun db' others => by rw [others.configs]) ?_
  refine Runs.orRaise (by simp) fun config _ => ?_
  refine Runs.clock fun now => ?_
  refine Runs.sweep permits.toTolerant sane playerMine
    fun _ changes held' subset swept => ?_
  refine Runs.checkLatest swept fun ended => ?_
  refine Runs.byRules (by simp) fun payload _ => ?_
  refine Runs.byRules (by simp) fun rules isRules => ?_
  refine storeSession_runs permits.toTolerant swept (subset requestMine)
    (subset playerMine) ?_ ?_
  · refine conflict.imp id fun latest => ?_
    have idle := swept.idle latest ended
    simp only [Database.activeElsewhere, List.any_eq_false, decide_eq_true_eq]
    intro other member clash
    exact idle other member clash.2.1 clash.2.2.1 clash.2.2.2
  · intro middle db' final inserted evidence moves
    have here := Others.refl held' db
    refine ⟨permits.allows ⟨moves, swept.andThen (.create rfl ?_ ?_ isRules rfl
      inserted evidence), ?_⟩, owner, ?_⟩
    · rw [playerById, swept.players db here]
      exact foundPlayer
    · rw [swept.games db here]
      exact foundGame
    · rintro ⟨row, found⟩
      cases absent.symm.trans found
    · rcases Database.insertSession_ok.mp inserted with ⟨⟨_, newRequest, _⟩, rfl⟩
      rcases insertEvidence_ok.mp evidence with ⟨_, rfl⟩
      exact ⟨_, lookup_append_self newRequest, rfl, rfl⟩

/-- The session that a request id has created is answered up to its end. -/
theorem createSession_runs {requestId playerId ownerId : Uuid} {gameKey : PyStr}
    {draw : SessionDraw}
    (permits : Permits env (.createSession requestId playerId ownerId gameKey draw) db
      duty)
    (sane : Sane db)
    (conflict : duty.fails (.integrity .uqActiveSessionPlayerGame) ∨
      ActiveIsLatest db) :
    Runs duty (fun row phase =>
        Created env requestId playerId ownerId gameKey row phase.db)
      (roundOf <$> createSession env requestId playerId ownerId gameKey draw) db id
      [] := by
  unfold createSession
  simp only [map_bind]
  refine Runs.require (by simp) fun owner => ?_
  refine Runs.clock fun startedAt => ?_
  refine Meets.query_bind (Or.inr fun _ _ => ⟨rfl, rfl⟩) ?_
  refine Runs.lockRow (by simp) fun player foundPlayer =>
    ⟨fun db' others => (others.playerById playerId).trans foundPlayer, ?_⟩
  have isPlayer : player.id = playerId := lookup_key foundPlayer
  subst isPlayer
  cases existing : sessionByRequest requestId db with
  | some row =>
      refine Runs.readSame (fun db' others => ?_) ?_
      · rcases others.sessionByRequest_some existing with ⟨row', found', same⟩
        simp only [id_eq, existing, found', map_bind]
        rw [same]
        rfl
      · simp only [id_eq, existing, map_bind]
        refine Runs.require (by simp) fun intent => ?_
        exact Runs.commitRet (permits.allows (.unchanged env _ db _))
          ⟨owner, row, existing, rfl, intent⟩
  | none =>
      refine Runs.read (fun db' others => ?_) ?_
      · simp only [id_eq, existing]
        exact others.sessionByRequest_none (by simp) existing
      · simp only [id_eq, existing]
        exact Runs.map (createNewSession_runs permits sane conflict foundPlayer owner
          existing (by simp) (by simp))

end Create

section Recover

variable {env : Platform} {duty : Duty} {db : Database} {held : List Lock}

/-- The reads of the recovery state change nothing, whatever they answer. -/
theorem Runs.readState {ρ : Type} {good : ρ → Phase Database Lock → Prop}
    {playerId : Uuid} {game : Game} {now : Int} {changes : Database → Database}
    {rest : Prog ρ} (swept : Swept env playerId game.id db changes held)
    (ends : Runs duty good rest db changes held) :
    Runs duty good (RngGamePlatform.readState env playerId game now >>= fun _ => rest)
      db changes held := by
  unfold RngGamePlatform.readState
  simp only [bind_assoc]
  have related : ∀ db', Others held db db' →
      Option.Rel Steady (latestSessionRow playerId game.id (changes db))
        (latestSessionRow playerId game.id (changes db')) :=
    fun _ others => swept.latest others
  cases isLatest : latestSessionRow playerId game.id (changes db) with
  | none =>
      refine Runs.read (fun db' others => ?_) ?_
      · have both := related db' others
        rw [isLatest] at both ⊢
        cases found : latestSessionRow playerId game.id (changes db') with
        | none => rfl
        | some row =>
            rw [found] at both
            cases both
      · rw [isLatest]
        exact ends
  | some latest =>
      refine Runs.readSame (fun db' others => ?_) ?_
      · have both := related db' others
        rw [isLatest] at both ⊢
        cases found : latestSessionRow playerId game.id (changes db') with
        | none =>
            rw [found] at both
            cases both
        | some row =>
            rw [found] at both
            cases both with
            | some steady =>
                rw [steady.1]
                rfl
      · rw [isLatest]
        simp only [nextPlayAt, loadedPayload, bind_assoc, readRound]
        refine Runs.read (fun db' others => ?_) ?_
        · simp only [configById, swept.configs db' others,
            swept.configs db (.refl held db), others.configs]
        refine Runs.orRaise (by simp) fun config _ => ?_
        refine Runs.byRules (by simp) fun payload _ => ?_
        refine Runs.readSame (fun _ _ => rfl) ?_
        refine Runs.readSame (fun _ _ => rfl) ?_
        refine Runs.readSame (fun _ _ => rfl) ?_
        refine Runs.readSame (fun _ _ => rfl) ?_
        exact ends

theorem retrievePlayerGameState_runs {playerId ownerId : Uuid} {gameKey : PyStr}
    {empty : PlayerGameState}
    (permits : Permits env (.retrievePlayerGameState playerId ownerId gameKey) db duty)
    (sane : Sane db) :
    Runs duty (fun _ _ => True)
      ((fun _ => empty) <$> retrievePlayerGameState env playerId ownerId gameKey) db id
      [] := by
  unfold retrievePlayerGameState
  simp only [map_bind]
  refine Runs.require (by simp) fun owner => ?_
  refine Runs.lockRow (by simp) fun player foundPlayer =>
    ⟨fun db' others => (others.playerById playerId).trans foundPlayer, ?_⟩
  refine Runs.readFixed (fun db' others => by rw [others.games]) ?_
  refine Runs.orRaise (by simp) fun game _ => ?_
  refine Runs.readFixed (fun db' others => by rw [others.configs]) ?_
  refine Runs.orRaise (by simp) fun config _ => ?_
  refine Runs.clock fun now => ?_
  refine Runs.sweep permits.toTolerant sane (by simp)
    fun expiredSessions changes held' _ swept => ?_
  have constant : ∀ state : PlayerGameState,
      (fun _ => empty) <$> (if expiredSessions = [] then return state
        else do commitWork; return state : Prog PlayerGameState) =
      if expiredSessions = [] then return empty else do commitWork; return empty := by
    intro state
    split <;> rfl
  simp only [constant]
  refine Runs.readState swept ?_
  split
  · exact Runs.ret trivial
  · exact Runs.commitRet (permits.allows ⟨swept.moves (List.Subset.refl _),
      swept.alone _, fun answered => answered.elim⟩) trivial

end Recover

end RngGamePlatform
