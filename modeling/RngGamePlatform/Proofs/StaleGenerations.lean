/-
Module: RngGamePlatform.Proofs.StaleGenerations
Purpose: Which generations keep their keys without a time to live, over all
  interleavings of rebuilds.
Trusted boundary: none
Main exports: generationsOf, lastPublished, remembered, Cleared, EveryGenerationInherited,
  NoStaleGeneration, Traced, Traced.step, traced_after, no_stale_generation_iff
-/
import RngGamePlatform.Proofs.ProjectionOrder

namespace RngGamePlatform

open Encoding Stores

/-! What a history of steps says, most recent first. -/

/-- The generations of the rebuilds, in the order of their starts. -/
def generationsOf : List RebuildStep → List Uuid
  | [] => []
  | .start generation :: earlier => generationsOf earlier ++ [generation]
  | _ :: earlier => generationsOf earlier

/-- The rebuild that published last. -/
def lastPublished : List RebuildStep → Option Nat
  | [] => none
  | .publish index _ _ :: _ => some index
  | _ :: earlier => lastPublished earlier

/-- For each rebuild, the rebuild whose generation the pointer named when it was read. -/
def remembered : List RebuildStep → List (Option Nat)
  | [] => []
  | .start _ :: earlier => remembered earlier ++ [lastPublished earlier]
  | _ :: earlier => remembered earlier

def Published (history : List RebuildStep) (index : Nat) : Prop :=
  ∃ revision scores, .publish index revision scores ∈ history

/-- Some rebuild that read the generation from the pointer reached its time-to-live
step. -/
def Cleared (history : List RebuildStep) (index : Nat) : Prop :=
  ∃ other, (remembered history)[other]? = some (some index) ∧ .clean other ∈ history

/-- Every generation that was published, that its own rebuild has not deleted, and that a
later publication superseded, was the one that some rebuild read from the pointer, and
that rebuild reached its time-to-live step. -/
def EveryGenerationInherited (history : List RebuildStep) : Prop :=
  ∀ index, Published history index → .delete index ∉ history →
    lastPublished history ≠ some index → Cleared history index

/-- A key stands without a time to live. -/
def Lasting (cache : Cache) (key : PyStr) : Prop :=
  ∃ entry, cache key = some entry ∧ entry.expires = false

/-- The only generation with keys without a time to live is the one that the pointer
names. -/
def NoStaleGeneration (settings : RebuildSettings) (state : RebuildState) : Prop :=
  ∀ generation : Uuid,
    (∃ key ∈ (generationKeys settings (uuidStr generation)).all, Lasting state.cache key) →
      Redis.get (pointerKey settings) state.cache = some (uuidStr generation)

/-- No rebuild is running. -/
def RebuildState.Quiet (state : RebuildState) : Prop :=
  ∀ run ∈ state.runs, run.phase = .ended

section Histories

theorem length_remembered (history : List RebuildStep) :
    (remembered history).length = (generationsOf history).length := by
  induction history with
  | nil => rfl
  | cons taken earlier ih =>
    cases taken <;> simp only [remembered, generationsOf, List.length_append,
      List.length_singleton, ih]

/-- The text of the generation of a rebuild. -/
def generationText (history : List RebuildStep) (index : Nat) : Option PyStr :=
  (generationsOf history)[index]?.map uuidStr

end Histories

/-! What the transactions do to the keys of generations. -/

section Caches

variable {settings : RebuildSettings} {cache : Cache}

/-- Generations do not share keys. -/
theorem generation_of_key {one other : Uuid} {key : PyStr}
    (inOne : key ∈ (generationKeys settings (uuidStr one)).all)
    (inOther : key ∈ (generationKeys settings (uuidStr other)).all) : one = other := by
  rw [generationKeys_all] at inOne inOther
  obtain ⟨name, -, rfl⟩ := List.mem_map.mp inOne
  obtain ⟨name', -, same⟩ := List.mem_map.mp inOther
  simp only [generationBase, List.append_assoc] at same
  have afterBase := List.append_cancel_left (List.append_cancel_left same)
  obtain ⟨texts, -⟩ := List.append_inj afterBase
    ((length_uuidStr other).trans (length_uuidStr one).symm)
  exact (uuidStr_injective texts).symm

theorem ne_pointer_of_key {generation : PyStr} {key : PyStr}
    (inKeys : key ∈ (generationKeys settings generation).all) : pointerKey settings ≠ key :=
  fun same => pointer_not_generation (same ▸ inKeys)

variable {generation : PyStr} {revision : Nat} {scores : List FinalScore}

/-- A publication leaves the other keys. -/
theorem publishGeneration_other {key : PyStr}
    (notOwn : key ∉ (generationKeys settings generation).all)
    (notPointer : key ≠ pointerKey settings) :
    publishGeneration settings generation revision scores cache key = cache key := by
  simp only [ProjectionKeys.all, List.mem_cons, List.not_mem_nil, or_false, not_or] at notOwn
  obtain ⟨notMembers, notMetadata, notPlayers⟩ := notOwn
  simp only [publishGeneration]
  rw [Redis.set_other notPointer, Redis.hset_other notMetadata]
  split_ifs
  · rfl
  · rw [Redis.zadd_other notMembers]
  · rw [Redis.hset_other notPlayers]
  · rw [Redis.hset_other notPlayers, Redis.zadd_other notMembers]

theorem publishGeneration_pointer :
    publishGeneration settings generation revision scores cache (pointerKey settings) =
      some ⟨.text generation, false⟩ := by
  simp only [publishGeneration, Redis.set_same]

/-- A publication under new keys writes them without a time to live. -/
theorem publishGeneration_own
    (fresh : ∀ key ∈ (generationKeys settings generation).all, cache key = none) :
    (∀ key ∈ (generationKeys settings generation).all, ∀ entry,
      publishGeneration settings generation revision scores cache key = some entry →
        entry.expires = false) ∧
      ∃ entry, publishGeneration settings generation revision scores cache
        (generationKeys settings generation).metadata = some entry := by
  constructor
  · intro key inKeys entry found
    have noEntry : ∀ entry, cache key = some entry → entry.expires = false := by
      intro entry isEntry
      rw [fresh key inKeys] at isEntry
      cases isEntry
    simp only [publishGeneration] at found
    rw [Redis.set_other (ne_pointer_of_key inKeys).symm] at found
    refine Redis.hset_lasting ?_ entry found
    split_ifs
    · exact noEntry
    · exact Redis.zadd_lasting noEntry
    · exact Redis.hset_lasting noEntry
    · exact Redis.hset_lasting (Redis.zadd_lasting noEntry)
  · have inKeys : (generationKeys settings generation).metadata ∈
        (generationKeys settings generation).all := List.mem_cons_of_mem _ List.mem_cons_self
    simp only [publishGeneration]
    rw [Redis.set_other (ne_pointer_of_key inKeys).symm]
    exact Redis.hset_some

/-- The time to live of the previous generation. -/
theorem expirePrevious_some {previous : Uuid} (differs : uuidStr previous ≠ generation)
    {key : PyStr} : expirePrevious settings generation (some (uuidStr previous)) cache key =
      if key ∈ (generationKeys settings (uuidStr previous)).all then
        (cache key).map fun entry => { entry with expires := true }
      else cache key := by
  have keys := @generationKeys_apart settings (uuidStr previous)
  simp only [ProjectionKeys.all, List.nodup_cons, List.mem_cons, List.not_mem_nil, or_false,
    not_or, not_false_eq_true, List.nodup_nil, and_true] at keys
  obtain ⟨⟨notMetadata, notPlayers⟩, notPlayers'⟩ := keys
  simp only [expirePrevious, Option.bind_some, uuidOf_uuidStr, if_pos differs,
    ProjectionKeys.all, List.mem_cons, List.not_mem_nil, or_false]
  split_ifs with inKeys
  · rcases inKeys with rfl | rfl | rfl
    · rw [Redis.expire_other notPlayers, Redis.expire_other notMetadata, Redis.expire_same]
    · rw [Redis.expire_other notPlayers', Redis.expire_same,
        Redis.expire_other (Ne.symm notMetadata)]
    · rw [Redis.expire_same, Redis.expire_other (Ne.symm notPlayers'),
        Redis.expire_other (Ne.symm notPlayers)]
  · obtain ⟨notMembers, notMetadataKey, notPlayersKey⟩ :
        key ≠ (generationKeys settings (uuidStr previous)).members ∧
          key ≠ (generationKeys settings (uuidStr previous)).metadata ∧
            key ≠ (generationKeys settings (uuidStr previous)).players := by
      simpa only [not_or] using inKeys
    rw [Redis.expire_other notPlayersKey, Redis.expire_other notMetadataKey,
      Redis.expire_other notMembers]

/-- The time-to-live step makes no key. -/
theorem expirePrevious_none {previous : Option PyStr} {key : PyStr}
    (absent : cache key = none) :
    expirePrevious settings generation previous cache key = none := by
  have still : ∀ (other : PyStr) (store : Cache), store key = none →
      Redis.expire other store key = none := by
    intro other store nothing
    by_cases same : key = other
    · rw [← same, Redis.expire_same, nothing]
      rfl
    · rw [Redis.expire_other same, nothing]
  cases isId : previous.bind (uuidOf settings.unicode) with
  | none =>
    simp only [expirePrevious, isId]
    exact absent
  | some id =>
    simp only [expirePrevious, isId]
    split_ifs
    · exact still _ _ (still _ _ (still _ _ absent))
    · exact absent

theorem expirePrevious_pointer {previous : Option PyStr} :
    expirePrevious settings generation previous cache (pointerKey settings) =
      cache (pointerKey settings) := by
  cases isId : previous.bind (uuidOf settings.unicode) with
  | none => simp only [expirePrevious, isId]
  | some id =>
    have notKeys := @pointer_not_generation settings (uuidStr id)
    simp only [ProjectionKeys.all, List.mem_cons, List.not_mem_nil, or_false, not_or] at notKeys
    simp only [expirePrevious, isId]
    split_ifs
    · rw [Redis.expire_other notKeys.2.2, Redis.expire_other notKeys.2.1,
        Redis.expire_other notKeys.1]
    · rfl

end Caches

/-! The invariant. -/

/-- What the cache and the rebuilds are after a history. -/
structure Traced (settings : RebuildSettings) (history : List RebuildStep)
    (state : RebuildState) : Prop where
  generations : state.runs.map RebuildRun.generation = generationsOf history
  previous : state.runs.map RebuildRun.previous =
    (remembered history).map fun index => index.bind (generationText history)
  distinct : (generationsOf history).Nodup
  building : ∀ (index : Nat) run, state.runs[index]? = some run → run.phase = .building →
    ¬Published history index ∧ .delete index ∉ history
  started : ∀ index, Published history index ∨ .clean index ∈ history ∨
    .delete index ∈ history → index < (generationsOf history).length
  rememberedPublished : ∀ other index, (remembered history)[other]? = some (some index) →
    Published history index ∧ index < other
  lastPublished : ∀ index, lastPublished history = some index → Published history index
  pointer : state.cache (pointerKey settings) =
    ((RngGamePlatform.lastPublished history).bind (generationText history)).map
      fun text => ⟨.text text, false⟩
  foreign : ∀ generation ∉ generationsOf history,
    ∀ key ∈ (generationKeys settings (uuidStr generation)).all, state.cache key = none
  /-- What stands under a generation's key was published and not deleted, and it has a
  time to live exactly when the generation was cleared. -/
  stored : ∀ (index : Nat) generation, (generationsOf history)[index]? = some generation →
    ∀ key ∈ (generationKeys settings (uuidStr generation)).all, ∀ entry,
      state.cache key = some entry → Published history index ∧ .delete index ∉ history ∧
        (entry.expires = true ↔ Cleared history index)
  /-- The metadata of a generation that was not cleared stands. -/
  kept : ∀ (index : Nat) generation, (generationsOf history)[index]? = some generation →
    Published history index → .delete index ∉ history → ¬Cleared history index →
    ∃ entry, state.cache (generationKeys settings (uuidStr generation)).metadata = some entry

namespace Traced

variable {settings : RebuildSettings} {history : List RebuildStep} {state : RebuildState}

theorem empty : Traced settings [] RebuildState.start where
  generations := rfl
  previous := rfl
  distinct := List.nodup_nil
  building := fun _ _ found => by simp [RebuildState.start] at found
  started := fun _ happened => by simp [Published] at happened
  rememberedPublished := fun _ _ found => by simp [remembered] at found
  lastPublished := fun _ found => by cases found
  pointer := rfl
  foreign := fun _ _ _ _ => rfl
  stored := fun _ _ found => by simp [generationsOf] at found
  kept := fun _ _ found => by simp [generationsOf] at found

theorem run_generation (traced : Traced settings history state) {index : Nat}
    {run : RebuildRun} (found : state.runs[index]? = some run) :
    (generationsOf history)[index]? = some run.generation := by
  rw [← traced.generations, List.getElem?_map, found]
  rfl

theorem run_previous (traced : Traced settings history state) {index : Nat}
    {run : RebuildRun} (found : state.runs[index]? = some run) :
    ∃ read, (remembered history)[index]? = some read ∧
      run.previous = read.bind (generationText history) := by
  have here : (state.runs.map RebuildRun.previous)[index]? = some run.previous := by
    rw [List.getElem?_map, found]
    rfl
  rw [traced.previous, List.getElem?_map] at here
  obtain ⟨read, isRead, isPrevious⟩ := Option.map_eq_some_iff.mp here
  exact ⟨read, isRead, isPrevious.symm⟩

/-- Rebuilds have generations of their own. -/
theorem index_unique (traced : Traced settings history state) {one other : Nat}
    {generation : Uuid} (isOne : (generationsOf history)[one]? = some generation)
    (isOther : (generationsOf history)[other]? = some generation) : one = other := by
  obtain ⟨below, -⟩ := List.getElem?_eq_some_iff.mp isOne
  exact (List.getElem?_inj below traced.distinct).mp (isOne.trans isOther.symm)

/-- Steps that say nothing of generations, publications, times to live and deletions. -/
def Neutral : RebuildStep → Prop
  | .verify _ | .returns _ | .raises _ | .deleteFails _ | .lapse _ => True
  | _ => False

/-- The invariant does not see a neutral step. -/
theorem neutral {taken : RebuildStep} (isNeutral : Neutral taken)
    (traced : Traced settings history state) : Traced settings (taken :: history) state := by
  have generations : generationsOf (taken :: history) = generationsOf history := by
    cases taken <;> first | rfl | exact isNeutral.elim
  have reads : remembered (taken :: history) = remembered history := by
    cases taken <;> first | rfl | exact isNeutral.elim
  have last : RngGamePlatform.lastPublished (taken :: history) =
      RngGamePlatform.lastPublished history := by
    cases taken <;> first | rfl | exact isNeutral.elim
  have published : ∀ index, Published (taken :: history) index ↔ Published history index := by
    intro index
    simp only [Published, List.mem_cons]
    cases taken <;> simp_all [Neutral]
  have cleans : ∀ index, .clean index ∈ taken :: history ↔ .clean index ∈ history := by
    intro index
    cases taken <;> simp_all [Neutral]
  have deletes : ∀ index, .delete index ∈ taken :: history ↔ .delete index ∈ history := by
    intro index
    cases taken <;> simp_all [Neutral]
  have cleared : ∀ index, Cleared (taken :: history) index ↔ Cleared history index := by
    intro index
    simp only [Cleared, reads, cleans]
  have texts : generationText (taken :: history) = generationText history := by
    funext index
    rw [generationText, generations]
    rfl
  constructor
  case generations => rw [generations]; exact traced.generations
  case previous => rw [reads, texts]; exact traced.previous
  case distinct => rw [generations]; exact traced.distinct
  case building =>
    simp only [published, deletes]
    exact traced.building
  case started =>
    simp only [published, cleans, deletes, generations]
    exact traced.started
  case rememberedPublished =>
    simp only [reads, published]
    exact traced.rememberedPublished
  case lastPublished =>
    simp only [last, published]
    exact traced.lastPublished
  case pointer => rw [last, texts]; exact traced.pointer
  case foreign => rw [generations]; exact traced.foreign
  case stored =>
    simp only [generations, published, deletes, cleared]
    exact traced.stored
  case kept =>
    simp only [generations, published, deletes, cleared]
    exact traced.kept

/-- A rebuild moves on without a step that the invariant sees. -/
theorem rerun (traced : Traced settings history state) {index : Nat} {run moved : RebuildRun}
    (found : state.runs[index]? = some run) (generation : moved.generation = run.generation)
    (previous : moved.previous = run.previous)
    (phase : moved.phase = .building → run.phase = .building) :
    Traced settings history (state.advance index state.cache moved) := by
  have keeps : ∀ {α : Type} (field : RebuildRun → α), field moved = field run →
      (state.runs.set index moved).map field = state.runs.map field := by
    intro α field same
    rw [List.map_set, same]
    apply List.ext_getElem?
    intro position
    rw [List.getElem?_set]
    split_ifs with here below
    · rw [← here, List.getElem?_map, found]
      rfl
    · rw [List.length_map, not_lt] at below
      rw [List.getElem?_eq_none (by rw [List.length_map]; omega)]
    · rfl
  constructor
  case generations => exact (keeps _ generation).trans traced.generations
  case previous => exact (keeps _ previous).trans traced.previous
  case distinct => exact traced.distinct
  case building =>
    intro position other isOther isBuilding
    rw [RebuildState.advance, List.getElem?_set] at isOther
    split_ifs at isOther with here below
    · cases isOther
      exact here ▸ traced.building index run found (phase isBuilding)
    · exact traced.building position other isOther isBuilding
  case started => exact traced.started
  case rememberedPublished => exact traced.rememberedPublished
  case lastPublished => exact traced.lastPublished
  case pointer => exact traced.pointer
  case foreign => exact traced.foreign
  case stored => exact traced.stored
  case kept => exact traced.kept

/-- A rebuild that goes on, without a step that the invariant sees. -/
theorem goes_on (traced : Traced settings history state) {taken : RebuildStep}
    (isNeutral : Neutral taken) {index : Nat} {run : RebuildRun}
    (found : state.runs[index]? = some run) {phase : RebuildPhase}
    (notBuilding : phase ≠ .building) :
    Traced settings (taken :: history)
      (state.advance index state.cache { run with phase := phase }) := by
  have moved : Traced settings history
      (state.advance index state.cache { run with phase := phase }) :=
    traced.rerun found rfl rfl fun isBuilding => absurd isBuilding notBuilding
  exact moved.neutral isNeutral

/-- The end of a time to live. -/
theorem lapsed (traced : Traced settings history state) (key : PyStr) :
    Traced settings history { state with cache := Redis.lapse key state.cache } := by
  constructor
  case generations => exact traced.generations
  case previous => exact traced.previous
  case distinct => exact traced.distinct
  case building => exact traced.building
  case started => exact traced.started
  case rememberedPublished => exact traced.rememberedPublished
  case lastPublished => exact traced.lastPublished
  case pointer =>
    have pointer := traced.pointer
    cases isLast : (RngGamePlatform.lastPublished history).bind (generationText history) with
    | none =>
      rw [isLast] at pointer
      cases after : Redis.lapse key state.cache (pointerKey settings) with
      | none => exact after
      | some entry =>
        rw [Redis.lapse_some after] at pointer
        cases pointer
    | some text =>
      rw [isLast] at pointer
      exact Redis.lapse_kept pointer rfl
  case foreign =>
    intro generation isForeign other inKeys
    cases after : Redis.lapse key state.cache other with
    | none => exact after
    | some entry =>
      have before := Redis.lapse_some after
      rw [traced.foreign generation isForeign other inKeys] at before
      cases before
  case stored =>
    intro index generation isGeneration other inKeys entry after
    exact traced.stored index generation isGeneration other inKeys entry
      (Redis.lapse_some after)
  case kept =>
    intro index generation isGeneration published notDeleted notCleared
    obtain ⟨entry, stands⟩ :=
      traced.kept index generation isGeneration published notDeleted notCleared
    obtain ⟨-, -, expires⟩ := traced.stored index generation isGeneration _
      (List.mem_cons_of_mem _ List.mem_cons_self) entry stands
    have lasting : entry.expires = false := by
      rw [Bool.eq_false_iff]
      exact fun isSet => notCleared (expires.mp isSet)
    exact ⟨entry, Redis.lapse_kept stands lasting⟩

/-- No key of a generation that is not published stands. -/
theorem fresh_keys (traced : Traced settings history state) {index : Nat} {generation : Uuid}
    (isGeneration : (generationsOf history)[index]? = some generation)
    (notPublished : ¬Published history index) :
    ∀ key ∈ (generationKeys settings (uuidStr generation)).all, state.cache key = none := by
  intro key inKeys
  cases stands : state.cache key with
  | none => rfl
  | some entry =>
    exact absurd (traced.stored index generation isGeneration key inKeys entry stands).1
      notPublished

section Publish

variable {index revision : Nat} {scores : List FinalScore}

theorem published_publish {position : Nat} :
    Published (.publish index revision scores :: history) position ↔
      position = index ∨ Published history position := by
  simp only [Published, List.mem_cons, RebuildStep.publish.injEq]
  constructor
  · rintro ⟨_, _, ⟨isIndex, -, -⟩ | inHistory⟩
    · exact .inl isIndex
    · exact .inr ⟨_, _, inHistory⟩
  · rintro (isIndex | ⟨_, _, inHistory⟩)
    · exact ⟨revision, scores, .inl ⟨isIndex, rfl, rfl⟩⟩
    · exact ⟨_, _, .inr inHistory⟩

theorem clean_publish {position : Nat} :
    .clean position ∈ .publish index revision scores :: history ↔ .clean position ∈ history := by
  simp

theorem delete_publish {position : Nat} :
    .delete position ∈ .publish index revision scores :: history ↔
      .delete position ∈ history := by simp

theorem cleared_publish {position : Nat} :
    Cleared (.publish index revision scores :: history) position ↔ Cleared history position := by
  simp only [Cleared, clean_publish]
  rfl

/-- No rebuild can have read a generation that was not published. -/
theorem not_cleared (traced : Traced settings history state)
    (notPublished : ¬Published history index) : ¬Cleared history index := by
  rintro ⟨other, isRead, -⟩
  exact notPublished (traced.rememberedPublished other index isRead).1

/-- A publication leaves the keys of the other generations. -/
theorem other_publish (traced : Traced settings history state) {position : Nat}
    {own other : Uuid} (isOwn : (generationsOf history)[index]? = some own)
    (isOther : (generationsOf history)[position]? = some other) (differs : position ≠ index)
    {key : PyStr} (inKeys : key ∈ (generationKeys settings (uuidStr other)).all) :
    publishGeneration settings (uuidStr own) revision scores state.cache key =
      state.cache key := by
  refine publishGeneration_other (fun inOwn => ?_) (ne_pointer_of_key inKeys).symm
  exact differs (traced.index_unique isOther (generation_of_key inOwn inKeys ▸ isOwn))

variable (revision scores) in
/-- A rebuild publishes its generation. -/
theorem published (traced : Traced settings history state) {run : RebuildRun}
    (found : state.runs[index]? = some run) (building : run.phase = .building) :
    Traced settings (.publish index revision scores :: history) (state.advance index
      (publishGeneration settings (uuidStr run.generation) revision scores state.cache)
      { run with phase := .published, publication := some (revision, scores) }) := by
  have isGeneration := traced.run_generation found
  obtain ⟨notPublished, notDeleted⟩ := traced.building index run found building
  have fresh := traced.fresh_keys isGeneration notPublished
  obtain ⟨ownLasting, ownMetadata⟩ :=
    @publishGeneration_own settings _ _ revision scores fresh
  have moved := traced.rerun found (rfl : RebuildRun.generation
    { run with phase := .published, publication := some (revision, scores) } = _) rfl (by simp)
  constructor
  case generations => exact moved.generations
  case previous => exact moved.previous
  case distinct => exact traced.distinct
  case building =>
    intro position other isOther isBuilding
    have differs : position ≠ index := by
      rintro rfl
      have below := (List.getElem?_eq_some_iff.mp found).1
      rw [RebuildState.advance, List.getElem?_set_self below] at isOther
      cases isOther
      cases isBuilding
    rw [published_publish, delete_publish, not_or]
    obtain ⟨notYet, notGone⟩ := moved.building position other isOther isBuilding
    exact ⟨⟨differs, notYet⟩, notGone⟩
  case started =>
    intro position happened
    rw [published_publish, clean_publish, delete_publish] at happened
    rcases happened with (rfl | inHistory) | later
    · exact (List.getElem?_eq_some_iff.mp isGeneration).1
    · exact traced.started position (.inl inHistory)
    · exact traced.started position (.inr later)
  case rememberedPublished =>
    intro other position isRead
    obtain ⟨wasPublished, before⟩ := traced.rememberedPublished other position isRead
    exact ⟨published_publish.mpr (.inr wasPublished), before⟩
  case lastPublished =>
    intro position isLast
    cases isLast
    exact published_publish.mpr (.inl rfl)
  case pointer =>
    have text : generationText (.publish index revision scores :: history) index =
        some (uuidStr run.generation) := congrArg (Option.map uuidStr) isGeneration
    rw [RngGamePlatform.lastPublished, Option.bind_some, text]
    exact publishGeneration_pointer
  case foreign =>
    intro generation isForeign key inKeys
    refine (publishGeneration_other (fun inOwn => ?_) (ne_pointer_of_key inKeys).symm).trans
      (traced.foreign generation isForeign key inKeys)
    rw [generation_of_key inKeys inOwn] at isForeign
    exact isForeign (List.mem_of_getElem? isGeneration)
  case stored =>
    intro position generation isOther key inKeys entry stands
    rw [published_publish, delete_publish, cleared_publish]
    by_cases same : position = index
    · have sameGeneration : generation = run.generation :=
        Option.some.inj ((same ▸ isOther).symm.trans isGeneration)
      rw [sameGeneration] at inKeys
      have lasting := ownLasting key inKeys entry stands
      rw [same, lasting]
      exact ⟨.inl rfl, notDeleted,
        ⟨(by simp), fun cleared => absurd cleared (traced.not_cleared notPublished)⟩⟩
    · have before : state.cache key = some entry :=
        (traced.other_publish isGeneration isOther same inKeys).symm.trans stands
      obtain ⟨wasPublished, rest⟩ :=
        traced.stored position generation isOther key inKeys entry before
      exact ⟨.inr wasPublished, rest⟩
  case kept =>
    intro position generation isOther wasPublished notGone notClean
    rw [delete_publish] at notGone
    rw [cleared_publish] at notClean
    by_cases same : position = index
    · have sameGeneration : generation = run.generation :=
        Option.some.inj ((same ▸ isOther).symm.trans isGeneration)
      rw [sameGeneration]
      exact ownMetadata
    · have inHistory := (published_publish.mp wasPublished).resolve_left same
      obtain ⟨entry, stands⟩ := traced.kept position generation isOther inHistory notGone notClean
      exact ⟨entry, (traced.other_publish isGeneration isOther same
        (List.mem_cons_of_mem _ List.mem_cons_self)).trans stands⟩

end Publish

/-- What the time-to-live step of a rebuild does: the keys of the generation that it
remembers get a time to live. -/
theorem cleaned_cache (traced : Traced settings history state) {index : Nat}
    {run : RebuildRun} (found : state.runs[index]? = some run) {position : Nat}
    {generation : Uuid} (isGeneration : (generationsOf history)[position]? = some generation)
    {key : PyStr} (inKeys : key ∈ (generationKeys settings (uuidStr generation)).all) :
    expirePrevious settings (uuidStr run.generation) run.previous state.cache key =
      (state.cache key).map fun entry =>
        if (remembered history)[index]? = some (some position) then
          { entry with expires := true }
        else entry := by
  obtain ⟨read, isRead, isPrevious⟩ := traced.run_previous found
  rw [isRead, isPrevious]
  cases read with
  | none =>
    simp only [Option.bind_none, Option.some.injEq, reduceCtorEq, if_false, Option.map_id']
    rfl
  | some remembered =>
    obtain ⟨wasPublished, before⟩ := traced.rememberedPublished index remembered isRead
    have below := traced.started remembered (.inl wasPublished)
    have isRemembered := List.getElem?_eq_getElem below
    have differs : uuidStr (generationsOf history)[remembered] ≠ uuidStr run.generation := by
      intro same
      have sameGeneration := uuidStr_injective same
      rw [sameGeneration] at isRemembered
      have sameIndex := traced.index_unique isRemembered (traced.run_generation found)
      omega
    rw [Option.bind_some, generationText, isRemembered, Option.map_some,
      expirePrevious_some differs]
    by_cases same : remembered = position
    · have sameGeneration : (generationsOf history)[remembered] = generation :=
        Option.some.inj (isRemembered.symm.trans (same ▸ isGeneration))
      rw [sameGeneration, if_pos inKeys]
      simp [same]
    · have notKey : key ∉
          (generationKeys settings (uuidStr (generationsOf history)[remembered])).all := by
        intro inOther
        have sameGeneration := generation_of_key inOther inKeys
        rw [sameGeneration] at isRemembered
        exact same (traced.index_unique isRemembered isGeneration)
      rw [if_neg notKey]
      simp [same]

/-- A rebuild gives the generation that it remembers a time to live. -/
theorem cleaned (traced : Traced settings history state) {index : Nat} {run : RebuildRun}
    (found : state.runs[index]? = some run) :
    Traced settings (.clean index :: history) (state.advance index
      (expirePrevious settings (uuidStr run.generation) run.previous state.cache)
      { run with phase := .cleaned }) := by
  have isOwn := traced.run_generation found
  have moved := traced.rerun found (rfl : RebuildRun.generation
    { run with phase := .cleaned } = _) rfl nofun
  have publishedIff : ∀ position, Published (.clean index :: history) position ↔
      Published history position := by
    intro position
    simp [Published]
  have deletes : ∀ position, .delete position ∈ .clean index :: history ↔
      .delete position ∈ history := by simp
  have clearedIff : ∀ position, Cleared (.clean index :: history) position ↔
      Cleared history position ∨ (remembered history)[index]? = some (some position) := by
    intro position
    simp only [Cleared, remembered, List.mem_cons, RebuildStep.clean.injEq]
    constructor
    · rintro ⟨other, isRead, rfl | inHistory⟩
      · exact .inr isRead
      · exact .inl ⟨other, isRead, inHistory⟩
    · rintro (⟨other, isRead, inHistory⟩ | isRead)
      · exact ⟨other, isRead, .inr inHistory⟩
      · exact ⟨index, isRead, .inl rfl⟩
  constructor
  case generations => exact moved.generations
  case previous => exact moved.previous
  case distinct => exact traced.distinct
  case building =>
    simp only [publishedIff, deletes]
    exact moved.building
  case started =>
    intro position happened
    rw [publishedIff, deletes, List.mem_cons] at happened
    rcases happened with wasPublished | (isClean | wasCleaned) | wasDeleted
    · exact traced.started position (.inl wasPublished)
    · cases isClean
      exact (List.getElem?_eq_some_iff.mp isOwn).1
    · exact traced.started position (.inr (.inl wasCleaned))
    · exact traced.started position (.inr (.inr wasDeleted))
  case rememberedPublished =>
    simp only [publishedIff]
    exact traced.rememberedPublished
  case lastPublished =>
    simp only [publishedIff]
    exact traced.lastPublished
  case pointer => exact expirePrevious_pointer.trans traced.pointer
  case foreign =>
    intro generation isForeign key inKeys
    exact expirePrevious_none (traced.foreign generation isForeign key inKeys)
  case stored =>
    intro position generation isGeneration key inKeys entry stands
    rw [publishedIff, deletes, clearedIff]
    have inCache : expirePrevious settings (uuidStr run.generation) run.previous state.cache key =
        some entry := stands
    rw [traced.cleaned_cache found isGeneration inKeys] at inCache
    obtain ⟨before, stood, isEntry⟩ := Option.map_eq_some_iff.mp inCache
    obtain ⟨wasPublished, notDeleted, expires⟩ :=
      traced.stored position generation isGeneration key inKeys before stood
    refine ⟨wasPublished, notDeleted, ?_⟩
    split_ifs at isEntry with isRead
    · rw [← isEntry]
      exact ⟨fun _ => .inr isRead, fun _ => rfl⟩
    · rw [← isEntry, expires]
      exact ⟨.inl, fun cleared => cleared.resolve_right isRead⟩
  case kept =>
    intro position generation isGeneration wasPublished notDeleted notCleared
    rw [publishedIff] at wasPublished
    rw [deletes] at notDeleted
    rw [clearedIff, not_or] at notCleared
    obtain ⟨entry, stands⟩ :=
      traced.kept position generation isGeneration wasPublished notDeleted notCleared.1
    refine ⟨entry, (traced.cleaned_cache found isGeneration
      (List.mem_cons_of_mem _ List.mem_cons_self)).trans ?_⟩
    rw [stands, Option.map_some, if_neg notCleared.2]

/-- The handler of an exception deletes the keys of its generation. -/
theorem deleted (traced : Traced settings history state) {index : Nat} {run : RebuildRun}
    (found : state.runs[index]? = some run) :
    Traced settings (.delete index :: history) (state.advance index
      (deleteGeneration settings (uuidStr run.generation) state.cache)
      { run with phase := .ended }) := by
  have isOwn := traced.run_generation found
  have moved := traced.rerun found (rfl : RebuildRun.generation
    { run with phase := .ended } = _) rfl nofun
  have publishedIff : ∀ position, Published (.delete index :: history) position ↔
      Published history position := by
    intro position
    simp [Published]
  have cleans : ∀ position, .clean position ∈ .delete index :: history ↔
      .clean position ∈ history := by simp
  have deletes : ∀ position, .delete position ∈ .delete index :: history ↔
      position = index ∨ .delete position ∈ history := by simp
  have clearedIff : ∀ position, Cleared (.delete index :: history) position ↔
      Cleared history position := by
    intro position
    simp only [Cleared, cleans]
    rfl
  constructor
  case generations => exact moved.generations
  case previous => exact moved.previous
  case distinct => exact traced.distinct
  case building =>
    intro position other isOther isBuilding
    have differs : position ≠ index := by
      rintro rfl
      have below := (List.getElem?_eq_some_iff.mp found).1
      rw [RebuildState.advance, List.getElem?_set_self below] at isOther
      cases isOther
      cases isBuilding
    rw [publishedIff, deletes, not_or]
    obtain ⟨notYet, notGone⟩ := moved.building position other isOther isBuilding
    exact ⟨notYet, differs, notGone⟩
  case started =>
    intro position happened
    rw [publishedIff, cleans, deletes] at happened
    rcases happened with wasPublished | wasCleaned | rfl | wasDeleted
    · exact traced.started position (.inl wasPublished)
    · exact traced.started position (.inr (.inl wasCleaned))
    · exact (List.getElem?_eq_some_iff.mp isOwn).1
    · exact traced.started position (.inr (.inr wasDeleted))
  case rememberedPublished =>
    simp only [publishedIff]
    exact traced.rememberedPublished
  case lastPublished =>
    simp only [publishedIff]
    exact traced.lastPublished
  case pointer => exact (Redis.delete_other pointer_not_generation).trans traced.pointer
  case foreign =>
    intro generation isForeign key inKeys
    have notOwn : key ∉ (generationKeys settings (uuidStr run.generation)).all := by
      intro inOwn
      rw [generation_of_key inKeys inOwn] at isForeign
      exact isForeign (List.mem_of_getElem? isOwn)
    exact (Redis.delete_other notOwn).trans (traced.foreign generation isForeign key inKeys)
  case stored =>
    intro position generation isGeneration key inKeys entry stands
    have notOwn : key ∉ (generationKeys settings (uuidStr run.generation)).all := by
      intro inOwn
      have gone : deleteGeneration settings (uuidStr run.generation) state.cache key = none :=
        Redis.delete_mem inOwn
      cases gone.symm.trans stands
    have before : state.cache key = some entry := (Redis.delete_other notOwn).symm.trans stands
    rw [publishedIff, deletes, clearedIff, not_or]
    obtain ⟨wasPublished, notDeleted, expires⟩ :=
      traced.stored position generation isGeneration key inKeys entry before
    refine ⟨wasPublished, ⟨?_, notDeleted⟩, expires⟩
    rintro rfl
    rw [Option.some.inj (isOwn.symm.trans isGeneration)] at notOwn
    exact notOwn inKeys
  case kept =>
    intro position generation isGeneration wasPublished notDeleted notCleared
    rw [publishedIff] at wasPublished
    rw [deletes, not_or] at notDeleted
    rw [clearedIff] at notCleared
    obtain ⟨entry, stands⟩ :=
      traced.kept position generation isGeneration wasPublished notDeleted.2 notCleared
    refine ⟨entry, (Redis.delete_other ?_).trans stands⟩
    intro inOwn
    rw [← generation_of_key (List.mem_cons_of_mem _ List.mem_cons_self) inOwn] at isOwn
    exact notDeleted.1 (traced.index_unique isGeneration isOwn)

section Start

variable {generation : Uuid}

theorem published_start {position : Nat} :
    Published (.start generation :: history) position ↔ Published history position := by
  simp [Published]

theorem clean_start {position : Nat} :
    .clean position ∈ .start generation :: history ↔ .clean position ∈ history := by simp

theorem delete_start {position : Nat} :
    .delete position ∈ .start generation :: history ↔ .delete position ∈ history := by simp

/-- The rebuilds before the new one keep their generations. -/
theorem text_start {position : Nat} (below : position < (generationsOf history).length) :
    generationText (.start generation :: history) position =
      generationText history position := by
  simp only [generationText, generationsOf]
  rw [List.getElem?_append_left below]

theorem lastText_start (traced : Traced settings history state) {index : Nat}
    (isLast : RngGamePlatform.lastPublished history = some index) :
    generationText (.start generation :: history) index = generationText history index :=
  text_start (traced.started _ (.inl (traced.lastPublished _ isLast)))

/-- What the new rebuild reads from the pointer. -/
theorem pointer_start (traced : Traced settings history state) :
    Redis.get (pointerKey settings) state.cache =
      (RngGamePlatform.lastPublished history).bind
        (generationText (.start generation :: history)) := by
  rw [Redis.get, traced.pointer]
  cases isLast : RngGamePlatform.lastPublished history with
  | none => rfl
  | some index =>
    rw [Option.bind_some, Option.bind_some, traced.lastText_start isLast]
    cases generationText history index <;> rfl

/-- The new rebuild has cleared nothing, and nothing was cleared for it. -/
theorem cleared_start (traced : Traced settings history state) {position : Nat} :
    Cleared (.start generation :: history) position ↔ Cleared history position := by
  simp only [Cleared, clean_start, remembered]
  constructor
  · rintro ⟨other, isRead, wasCleaned⟩
    have below := traced.started other (.inr (.inl wasCleaned))
    rw [List.getElem?_append_left (by rw [length_remembered]; exact below)] at isRead
    exact ⟨other, isRead, wasCleaned⟩
  · rintro ⟨other, isRead, wasCleaned⟩
    have below := (List.getElem?_eq_some_iff.mp isRead).1
    exact ⟨other, by rwa [List.getElem?_append_left below], wasCleaned⟩

/-- A generation that was published, or that is not the new one, is one of before. -/
theorem older_start (traced : Traced settings history state) {position : Nat} {other : Uuid}
    (isGeneration : (generationsOf (.start generation :: history))[position]? = some other)
    (reason : Published history position ∨ other ≠ generation) :
    (generationsOf history)[position]? = some other := by
  have below : position < (generationsOf history).length := by
    rcases reason with wasPublished | differs
    · exact traced.started position (.inl wasPublished)
    · by_contra above
      rw [generationsOf, List.getElem?_append_right (not_lt.mp above)] at isGeneration
      exact differs (List.mem_singleton.mp (List.mem_of_getElem? isGeneration))
  rwa [generationsOf, List.getElem?_append_left below] at isGeneration

/-- The generations that the rebuilds have read, with that of the new one. -/
theorem previous_start (traced : Traced settings history state) :
    (state.runs ++ [RebuildRun.mk generation (Redis.get (pointerKey settings) state.cache)
        .building none]).map RebuildRun.previous =
      (remembered (.start generation :: history)).map fun index =>
        index.bind (generationText (.start generation :: history)) := by
  rw [List.map_append, traced.previous, remembered, List.map_append]
  congr 1
  · apply List.map_congr_left
    intro index member
    cases index with
    | none => rfl
    | some position =>
      obtain ⟨other, isRead⟩ := List.mem_iff_getElem?.mp member
      have wasPublished := (traced.rememberedPublished other position isRead).1
      exact (text_start (traced.started position (.inl wasPublished))).symm
  · exact congrArg (fun text => [text]) traced.pointer_start

/-- What a rebuild has read was published before its start. -/
theorem remembered_start (traced : Traced settings history state) {other position : Nat}
    (isRead : (remembered (.start generation :: history))[other]? = some (some position)) :
    Published history position ∧ position < other := by
  by_cases below : other < (remembered history).length
  · rw [remembered, List.getElem?_append_left below] at isRead
    exact traced.rememberedPublished other position isRead
  · rw [remembered, List.getElem?_append_right (not_lt.mp below)] at isRead
    have isLast : RngGamePlatform.lastPublished history = some position :=
      (List.mem_singleton.mp (List.mem_of_getElem? isRead)).symm
    have wasPublished := traced.lastPublished position isLast
    have inHistory := traced.started position (.inl wasPublished)
    rw [length_remembered] at below
    exact ⟨wasPublished, by omega⟩

/-- A rebuild with a generation of its own starts. -/
theorem starts (traced : Traced settings history state)
    (own : generation ∉ generationsOf history) :
    Traced settings (.start generation :: history) ⟨state.cache, state.runs ++
      [⟨generation, Redis.get (pointerKey settings) state.cache, .building, none⟩]⟩ := by
  have runsLength : state.runs.length = (generationsOf history).length := by
    rw [← traced.generations, List.length_map]
  constructor
  case generations =>
    rw [List.map_append, traced.generations]
    rfl
  case previous => exact traced.previous_start
  case distinct =>
    rw [generationsOf, List.nodup_append]
    refine ⟨traced.distinct, List.nodup_singleton _, ?_⟩
    intro one inHistory other isNew
    rw [List.mem_singleton.mp isNew]
    exact fun same => own (same ▸ inHistory)
  case building =>
    intro position run found isBuilding
    rw [published_start, delete_start]
    by_cases below : position < state.runs.length
    · rw [List.getElem?_append_left below] at found
      exact traced.building position run found isBuilding
    · have above : ¬position < (generationsOf history).length := runsLength ▸ below
      exact ⟨fun wasPublished => above (traced.started position (.inl wasPublished)),
        fun wasDeleted => above (traced.started position (.inr (.inr wasDeleted)))⟩
  case started =>
    intro position happened
    rw [published_start, clean_start, delete_start] at happened
    have below := traced.started position happened
    rw [generationsOf, List.length_append]
    exact Nat.lt_add_right _ below
  case rememberedPublished =>
    intro other position isRead
    rw [published_start]
    exact traced.remembered_start isRead
  case lastPublished =>
    intro position isLast
    exact published_start.mpr (traced.lastPublished position isLast)
  case pointer =>
    have sameLast : RngGamePlatform.lastPublished (.start generation :: history) =
        RngGamePlatform.lastPublished history := rfl
    rw [traced.pointer, sameLast]
    congr 1
    cases isLast : RngGamePlatform.lastPublished history with
    | none => rfl
    | some index => rw [Option.bind_some, Option.bind_some, traced.lastText_start isLast]
  case foreign =>
    intro other isForeign key inKeys
    rw [generationsOf, List.mem_append, not_or] at isForeign
    exact traced.foreign other isForeign.1 key inKeys
  case stored =>
    intro position other isGeneration key inKeys entry stands
    have differs : other ≠ generation := by
      rintro rfl
      rw [traced.foreign other own key inKeys] at stands
      cases stands
    rw [published_start, delete_start, traced.cleared_start]
    exact traced.stored position other (traced.older_start isGeneration (.inr differs)) key
      inKeys entry stands
  case kept =>
    intro position other isGeneration wasPublished notDeleted notCleared
    rw [published_start] at wasPublished
    rw [delete_start] at notDeleted
    rw [traced.cleared_start] at notCleared
    exact traced.kept position other (traced.older_start isGeneration (.inl wasPublished))
      wasPublished notDeleted notCleared

end Start

/-- Every step keeps the invariant. -/
theorem step (traced : Traced settings history state) {taken : RebuildStep}
    {after : RebuildState} (happens : state.step settings taken = some after) :
    Traced settings (taken :: history) after := by
  cases taken with
  | start generation =>
    simp only [RebuildState.step] at happens
    split_ifs at happens with isOld
    cases happens
    apply traced.starts
    intro member
    rw [← traced.generations] at member
    obtain ⟨run, inRuns, isGeneration⟩ := List.mem_map.mp member
    apply isOld
    rw [List.any_eq_true]
    exact ⟨run, inRuns, by simp [isGeneration]⟩
  | publish index revision scores =>
    obtain ⟨run, found, happens⟩ := Option.bind_eq_some_iff.mp happens
    split_ifs at happens with building
    cases happens
    exact traced.published revision scores found (not_not.mp building)
  | verify index =>
    obtain ⟨run, found, happens⟩ := Option.bind_eq_some_iff.mp happens
    obtain ⟨publication, -, happens⟩ := Option.bind_eq_some_iff.mp happens
    split_ifs at happens
    cases happens
    apply traced.goes_on (show Neutral (.verify index) from trivial) found
    split_ifs
    · exact nofun
    · exact nofun
  | clean index =>
    obtain ⟨run, found, happens⟩ := Option.bind_eq_some_iff.mp happens
    split_ifs at happens
    cases happens
    exact traced.cleaned found
  | returns index =>
    obtain ⟨run, found, happens⟩ := Option.bind_eq_some_iff.mp happens
    split_ifs at happens
    cases happens
    exact traced.goes_on (show Neutral (.returns index) from trivial) found nofun
  | raises index =>
    obtain ⟨run, found, happens⟩ := Option.bind_eq_some_iff.mp happens
    split_ifs at happens
    cases happens
    exact traced.goes_on (show Neutral (.raises index) from trivial) found nofun
  | delete index =>
    obtain ⟨run, found, happens⟩ := Option.bind_eq_some_iff.mp happens
    split_ifs at happens
    cases happens
    exact traced.deleted found
  | deleteFails index =>
    obtain ⟨run, found, happens⟩ := Option.bind_eq_some_iff.mp happens
    split_ifs at happens
    cases happens
    exact traced.goes_on (show Neutral (.deleteFails index) from trivial) found nofun
  | lapse key =>
    cases happens
    exact (traced.lapsed key).neutral trivial

end Traced

/-- The invariant holds after every history. -/
theorem traced_after {settings : RebuildSettings} {history : List RebuildStep}
    {state : RebuildState} (runs : RebuildState.after settings history = some state) :
    Traced settings history state := by
  induction history generalizing state with
  | nil =>
    cases runs
    exact Traced.empty
  | cons taken earlier ih =>
    obtain ⟨before, reached, happens⟩ := Option.bind_eq_some_iff.mp runs
    exact (ih reached).step happens

/-! ### Two overlapping rebuilds -/

namespace Sample

/-- A rebuild from its publication of an empty board to its end, most recent step first. -/
def finishing (index : Nat) : List RebuildStep :=
  [.returns index, .clean index, .verify index, .publish index 0 []]

/-- After a first rebuild, two others read the pointer before either publishes. -/
def overlapping : List RebuildStep :=
  finishing 2 ++ finishing 1 ++ [.start 12, .start 11] ++ finishing 0 ++ [.start 10]

/-- Two rebuilds, one after the other. -/
def sequential : List RebuildStep :=
  finishing 1 ++ [.start 11] ++ finishing 0 ++ [.start 10]

end Sample

/-- No rebuild is running any more, but the generation that was published in between
stands without a time to live. -/
theorem overlapping_rebuilds_leak :
    ∃ state, RebuildState.after Sample.rebuild Sample.overlapping = some state ∧
      state.Quiet ∧ ¬NoStaleGeneration Sample.rebuild state := by
  have result : (RebuildState.after Sample.rebuild Sample.overlapping).map (fun state =>
      (state.runs.map RebuildRun.phase, Redis.get (pointerKey Sample.rebuild) state.cache,
        (state.cache (generationKeys Sample.rebuild (uuidStr 11)).metadata).map
          Redis.Entry.expires)) =
      some ([.ended, .ended, .ended], some (uuidStr 12), some false) := by decide +kernel
  obtain ⟨state, reached, facts⟩ := Option.map_eq_some_iff.mp result
  obtain ⟨phases, pointer, metadata⟩ := Prod.mk.inj facts |>.imp_right Prod.mk.inj
  refine ⟨state, reached, ?_, ?_⟩
  · intro run member
    have isPhase : run.phase ∈ state.runs.map RebuildRun.phase := List.mem_map_of_mem member
    rw [phases] at isPhase
    simpa using isPhase
  · intro noStale
    obtain ⟨entry, stands, lasting⟩ := Option.map_eq_some_iff.mp metadata
    have named := noStale 11 ⟨_, List.mem_cons_of_mem _ List.mem_cons_self, entry, stands, lasting⟩
    have same := uuidStr_injective (Option.some.inj (pointer.symm.trans named))
    exact absurd same (by decide)

/-- In every state that rebuilds reach, whatever their interleaving and their failures,
the only generation with keys without a time to live is the one that the pointer names,
if and only if every superseded generation was inherited by a rebuild that reached its
time-to-live step. -/
theorem no_stale_generation_iff {settings : RebuildSettings} {history : List RebuildStep}
    {state : RebuildState} (runs : RebuildState.after settings history = some state) :
    NoStaleGeneration settings state ↔ EveryGenerationInherited history := by
  have traced := traced_after runs
  have named : ∀ {index}, lastPublished history = some index →
      Redis.get (pointerKey settings) state.cache = generationText history index := by
    intro index isLast
    rw [Redis.get, traced.pointer, isLast, Option.bind_some]
    cases generationText history index <;> rfl
  constructor
  · intro noStale index published notDeleted notLast
    by_contra notCleared
    have below := traced.started index (.inl published)
    have isGeneration := List.getElem?_eq_getElem below
    obtain ⟨entry, stands⟩ := traced.kept index _ isGeneration published notDeleted notCleared
    obtain ⟨-, -, expires⟩ := traced.stored index _ isGeneration _
      (List.mem_cons_of_mem _ List.mem_cons_self) entry stands
    have lasting : entry.expires = false := by
      rw [Bool.eq_false_iff]
      exact fun isSet => notCleared (expires.mp isSet)
    have current := noStale _
      ⟨_, List.mem_cons_of_mem _ List.mem_cons_self, entry, stands, lasting⟩
    cases isLast : lastPublished history with
    | none =>
      rw [Redis.get, traced.pointer, isLast] at current
      cases current
    | some last =>
      rw [named isLast] at current
      obtain ⟨generation, isLastGeneration, sameText⟩ := Option.map_eq_some_iff.mp current
      rw [uuidStr_injective sameText] at isLastGeneration
      exact notLast (isLast.trans (congrArg some
        (traced.index_unique isLastGeneration isGeneration)))
  · rintro inherited generation ⟨key, inKeys, entry, stands, lasting⟩
    by_cases member : generation ∈ generationsOf history
    · obtain ⟨index, isGeneration⟩ := List.mem_iff_getElem?.mp member
      obtain ⟨published, notDeleted, expires⟩ :=
        traced.stored index generation isGeneration key inKeys entry stands
      have notCleared : ¬Cleared history index := by
        intro cleared
        rw [expires.mpr cleared] at lasting
        cases lasting
      have isLast : lastPublished history = some index := by
        by_contra notLast
        exact notCleared (inherited index published notDeleted notLast)
      rw [named isLast, generationText, isGeneration]
      rfl
    · rw [traced.foreign generation member key inKeys] at stands
      cases stands

/-- Two rebuilds, one after the other. -/
theorem no_stale_generation_sequential :
    ∃ state, RebuildState.after Sample.rebuild Sample.sequential = some state ∧
      NoStaleGeneration Sample.rebuild state := by
  have reached : (RebuildState.after Sample.rebuild Sample.sequential).isSome := by
    decide +kernel
  obtain ⟨state, runs⟩ := Option.isSome_iff_exists.mp reached
  refine ⟨state, runs, (no_stale_generation_iff runs).mpr ?_⟩
  rintro index ⟨revision, scores, member⟩ _ notLast
  simp only [Sample.sequential, Sample.finishing, List.cons_append, List.nil_append,
    List.mem_cons, List.not_mem_nil, RebuildStep.publish.injEq, reduceCtorEq, false_or,
    or_false] at member
  rcases member with ⟨rfl, -, -⟩ | ⟨rfl, -, -⟩
  · exact absurd rfl notLast
  · exact ⟨1, rfl, by decide⟩

end RngGamePlatform
