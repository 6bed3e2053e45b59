/-
Module: RngGamePlatform.Proofs.SessionOrder
Purpose: Sessions that are created in the order of their instants keep the active
  session of a player and game the latest one.
Trusted boundary: none
Main exports: newest_eq_some, Latest, latestSessionRow_iff, CreatedInOrder,
  Effects.starts, ActiveIsLatest.preserved
-/
import RngGamePlatform.Proofs.PlayerSpecs
import RngGamePlatform.Proofs.Provenance

namespace RngGamePlatform

open Encoding Relational Transactions

section Order

theorem newer_iff {one other : GameSession} : newer one other = true ↔
    other.createdAt < one.createdAt ∨
      other.createdAt = one.createdAt ∧ other.id.toNat < one.id.toNat := by
  simp only [newer, decide_eq_true_eq, BitVec.lt_def]

theorem newer_irrefl (row : GameSession) : newer row row = false := by
  simp [newer]

theorem newer_asymm {one other : GameSession} (first : newer one other = true) :
    newer other one = false := by
  rw [Bool.eq_false_iff, ne_eq]
  rw [newer_iff] at first ⊢
  omega

theorem newer_trans {a b c : GameSession} (first : newer a b = true)
    (second : newer b c = true) : newer a c = true := by
  rw [newer_iff] at first second ⊢
  omega

/-- Two different sessions are not equally new. -/
theorem newer_total {one other : GameSession} (different : one.id ≠ other.id) :
    newer one other = true ∨ newer other one = true := by
  have apart : one.id.toNat ≠ other.id.toNat :=
    fun same => different (BitVec.eq_of_toNat_eq same)
  rw [newer_iff, newer_iff]
  omega

theorem newer_sameRound {one other one' other' : GameSession}
    (first : SameRound one one') (second : SameRound other other') :
    newer one' other' = newer one other := by
  rw [first, second]
  rfl

variable {row : GameSession} {rows : List GameSession}

theorem newest_mem (found : newest rows = some row) : row ∈ rows := by
  induction rows generalizing row with
  | nil => cases found
  | cons head tail ih =>
      simp only [newest] at found
      cases best : newest tail with
      | none =>
          rw [best] at found
          cases found
          exact List.mem_cons_self
      | some other =>
          rw [best] at found
          simp only at found
          split at found
          · cases found
            exact List.mem_cons_of_mem _ (ih best)
          · cases found
            exact List.mem_cons_self

theorem newest_eq_none : newest rows = none ↔ rows = [] := by
  cases rows with
  | nil => simp [newest]
  | cons head tail =>
      simp only [newest]
      cases newest tail with
      | none => simp
      | some top =>
          simp only
          split <;> simp

/-- A row that is newer than all the others is the newest. -/
theorem newest_eq_some (member : row ∈ rows)
    (all : ∀ other ∈ rows, other = row ∨ newer row other = true) :
    newest rows = some row := by
  induction rows with
  | nil => cases member
  | cons head tail ih =>
      have within : ∀ other ∈ tail, other = row ∨ newer row other = true :=
        fun other inTail => all other (List.mem_cons_of_mem _ inTail)
      simp only [newest]
      by_cases inTail : row ∈ tail
      · rw [ih inTail within]
        rcases all head List.mem_cons_self with isRow | older
        · simp [isRow, newer_irrefl]
        · simp [older]
      · have isHead : row = head := by
          rcases List.mem_cons.mp member with isHead | other
          · exact isHead
          · exact absurd other inTail
        subst isHead
        cases best : newest tail with
        | none => rfl
        | some other =>
            rcases within other (newest_mem best) with isRow | older
            · exact absurd (isRow ▸ newest_mem best) inTail
            · simp [newer_asymm older]

/-- The newest of rows with distinct ids is newer than all the others. -/
theorem newest_newer (unique : Unique GameSession.id rows)
    (found : newest rows = some row) :
    ∀ other ∈ rows, other = row ∨ newer row other = true := by
  induction rows generalizing row with
  | nil => cases found
  | cons head tail ih =>
      have apart : ∀ other ∈ tail, head.id ≠ other.id := fun other member =>
        List.rel_of_pairwise_cons unique member
      have inTail : ∀ {top}, newest tail = some top →
          ∀ other ∈ tail, other = top ∨ newer top other = true :=
        ih (List.Pairwise.of_cons unique)
      simp only [newest] at found
      cases best : newest tail with
      | none =>
          rw [best] at found
          cases found
          have isEmpty : tail = [] := newest_eq_none.mp best
          simp [isEmpty]
      | some top =>
          rw [best] at found
          simp only at found
          rw [List.forall_mem_cons]
          split at found
          · next above =>
              cases found
              exact ⟨Or.inr above, inTail best⟩
          · next notAbove =>
              cases found
              have above : newer head top = true := by
                rcases newer_total (apart top (newest_mem best)) with isAbove | below
                · exact isAbove
                · exact absurd below notAbove
              refine ⟨Or.inl rfl, fun other member => Or.inr ?_⟩
              rcases inTail best other member with rfl | below
              · exact above
              · exact newer_trans above below

end Order

section Latest

variable {db : Database} {row : GameSession}

/-- Every other session of its player and game is older. -/
def Latest (row : GameSession) (db : Database) : Prop :=
  ∀ other ∈ db.sessions, other.playerId = row.playerId → other.gameId = row.gameId →
    other = row ∨ newer row other = true

theorem latestSessionRow_iff (unique : Unique GameSession.id db.sessions)
    (member : row ∈ db.sessions) :
    latestSessionRow row.playerId row.gameId db = some row ↔ Latest row db := by
  have chosen : ∀ other, other ∈ db.sessions.filter
      (ofPlayerAndGame row.playerId row.gameId) ↔
      other ∈ db.sessions ∧ other.playerId = row.playerId ∧
        other.gameId = row.gameId := by
    simp [ofPlayerAndGame]
  constructor
  · intro found other inDb ofPlayer ofGame
    exact newest_newer (unique.filter _) found other
      ((chosen other).mpr ⟨inDb, ofPlayer, ofGame⟩)
  · intro latest
    refine newest_eq_some ((chosen row).mpr ⟨member, rfl, rfl⟩) fun other among => ?_
    rcases (chosen other).mp among with ⟨inDb, ofPlayer, ofGame⟩
    exact latest other inDb ofPlayer ofGame

end Latest

section Preserved

variable {env : Platform} {call : Call} {db db' : Database} {held : List Lock}

/-- Every session that is new in `db'` was created after those of `db` of its
player and game. -/
def CreatedInOrder (db db' : Database) : Prop :=
  ∀ row ∈ db'.sessions, sessionById row.id db = none → ∀ old ∈ db.sessions,
    old.playerId = row.playerId → old.gameId = row.gameId → newer row old = true

/-- The sessions of a commit are those before it, or its call has just created
them. -/
theorem Effects.starts (effects : Effects env call db db') :
    Starts env call db db' := by
  cases effects with
  | unchanged same => exact .same (by rw [same])
  | one effect => exact effect.starts
  | ending first rounds effect =>
      intro row member
      rcases effect.starts row member with ⟨middleRow, inMiddle, same⟩ | started
      · rcases rounds middleRow inMiddle with ⟨old, inDb, same'⟩
        exact Or.inl ⟨old, inDb, same'.trans same⟩
      · exact Or.inr started

/-- Where a session of the new state comes from. -/
theorem session_origin (keys' : Keys db') (moves : Moves held db db')
    (starts : Starts env call db db') {row : GameSession}
    (member : row ∈ db'.sessions) :
    (∃ old ∈ db.sessions, SessionStep held old row) ∨
      sessionById row.id db = none ∧ row.status = .active := by
  cases before : sessionById row.id db with
  | some old =>
      rcases moves.session_some before with ⟨row', found, step⟩
      have isRow := keys'.sessionIds.eq (lookup_mem found) member (lookup_key found)
      subst isRow
      exact Or.inl ⟨old, lookup_mem before, step⟩
  | none =>
      rcases starts row member with ⟨old, inDb, same⟩ | started
      · exact absurd same.id.symm (lookup_none.mp before old inDb)
      · exact Or.inr ⟨rfl, started.active⟩

/-- Creation in order keeps the active session the latest. -/
theorem ActiveIsLatest.preserved (latest : ActiveIsLatest db) (keys : Keys db)
    (keys' : Keys db') (rounds' : Rounds db') (moves : Moves held db db')
    (starts : Starts env call db db') (ordered : CreatedInOrder db db') :
    ActiveIsLatest db' := by
  intro row member active
  rw [latestSessionRow_iff keys'.sessionIds member]
  intro other member' ofPlayer ofGame
  rcases session_origin keys' moves starts member' with
    ⟨oldOther, inOther, step'⟩ | ⟨_, active'⟩
  · have same' := step'.sameRound
    rcases session_origin keys' moves starts member with
      ⟨old, inOld, step⟩ | ⟨isNew, _⟩
    · have isOld : old = row := by
        rcases step with same | ⟨_, _, ended, _⟩
        · exact same
        · exact absurd active ended
      subst isOld
      have top := (latestSessionRow_iff keys.sessionIds inOld).mp (latest old inOld active)
      rw [same'] at ofPlayer ofGame
      rcases top oldOther inOther ofPlayer ofGame with isRow | older
      · exact Or.inl (keys'.sessionIds.eq member' member (step'.id.trans (by rw [isRow])))
      · rw [newer_sameRound (.refl old) same']
        exact Or.inr older
    · rw [same'] at ofPlayer ofGame
      rw [newer_sameRound (.refl row) same']
      exact Or.inr (ordered row member isNew oldOther inOther ofPlayer ofGame)
  · exact Or.inl (rounds'.activeOnce other member' row member active' active ofPlayer
      ofGame)

end Preserved

end RngGamePlatform
