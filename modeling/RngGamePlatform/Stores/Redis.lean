/-
Module: RngGamePlatform.Stores.Redis
Purpose: A key-value store of texts, hashes and sorted sets, with keys that may be
  given a time to live.
Trusted boundary: human-reviewed semantics
Main exports: Redis.Value, Redis.Entry, Redis.Store, get, set, hset, hget, zadd, zrange,
  zrank, expire, delete, lapse
-/
import RngGamePlatform.Stores.SortedSet

namespace RngGamePlatform.Stores.Redis

/-- A value; hashes are lists of fields, the last of a name being the value. -/
inductive Value (τ σ : Type) where
  | text (value : τ)
  | hash (fields : List (τ × τ))
  | sortedSet (set : SortedSet τ σ)

/-- A value, and whether its key has a time to live. -/
structure Entry (τ σ : Type) where
  value : Value τ σ
  expires : Bool

/-- The value of every key. -/
def Store (τ σ : Type) : Type := τ → Option (Entry τ σ)

section Commands

variable {τ σ : Type} [DecidableEq τ]

def empty : Store τ σ := fun _ => none

/-- Put an entry under a key, or remove the key. -/
def put (key : τ) (entry : Option (Entry τ σ)) (store : Store τ σ) : Store τ σ :=
  fun other => if other = key then entry else store other

/-- `GET`. -/
def get (key : τ) (store : Store τ σ) : Option τ :=
  match store key with
  | some ⟨.text value, _⟩ => some value
  | _ => none

/-- `SET`, which takes away a time to live. -/
def set (key value : τ) (store : Store τ σ) : Store τ σ :=
  put key (some ⟨.text value, false⟩) store

/-- `HSET` with some fields; it fails on a key of another kind. -/
def hset (key : τ) (fields : List (τ × τ)) (store : Store τ σ) : Store τ σ :=
  let entry := match store key with
    | none => some ⟨.hash fields, false⟩
    | some ⟨.hash old, expires⟩ => some ⟨.hash (old ++ fields), expires⟩
    | some entry => some entry
  put key entry store

/-- `HGET`. -/
def hget (key name : τ) (store : Store τ σ) : Option τ :=
  match store key with
  | some ⟨.hash fields, _⟩ =>
      (fields.reverse.find? fun field => field.1 = name).map Prod.snd
  | _ => none

/-- `ZADD` with some members; it fails on a key of another kind. -/
def zadd (key : τ) (entries : List (τ × σ)) (store : Store τ σ) : Store τ σ :=
  let entry := match store key with
    | none => some ⟨.sortedSet (SortedSet.empty.addAll entries), false⟩
    | some ⟨.sortedSet set, expires⟩ => some ⟨.sortedSet (set.addAll entries), expires⟩
    | some entry => some entry
  put key entry store

/-- `EXPIRE`, which does nothing without the key. -/
def expire (key : τ) (store : Store τ σ) : Store τ σ :=
  put key ((store key).map fun entry => { entry with expires := true }) store

/-- `DEL`. -/
def delete (keys : List τ) (store : Store τ σ) : Store τ σ :=
  fun other => if other ∈ keys then none else store other

/-- The end of a time to live: the key goes. -/
def lapse (key : τ) (store : Store τ σ) : Store τ σ :=
  put key ((store key).filter fun entry => !entry.expires) store

variable [LinearOrder τ] [LinearOrder σ]

/-- `ZRANGE 0 -1 WITHSCORES`. -/
def zrange (key : τ) (store : Store τ σ) : List (τ × σ) :=
  match store key with
  | some ⟨.sortedSet set, _⟩ => set.range
  | _ => []

/-- `ZRANK`. -/
def zrank (key member : τ) (store : Store τ σ) : Option Nat :=
  match store key with
  | some ⟨.sortedSet set, _⟩ => set.rank? member
  | _ => none

end Commands

section Reading

variable {τ σ : Type} [DecidableEq τ] {key other : τ} {store : Store τ σ}

@[simp] theorem put_same {entry : Option (Entry τ σ)} : put key entry store key = entry :=
  if_pos rfl

theorem put_other {entry : Option (Entry τ σ)} (differs : other ≠ key) :
    put key entry store other = store other := if_neg differs

@[simp] theorem set_same {value : τ} :
    set key value store key = some ⟨.text value, false⟩ := put_same

theorem set_other {value : τ} (differs : other ≠ key) :
    set key value store other = store other := put_other differs

theorem hset_fresh {fields : List (τ × τ)} (fresh : store key = none) :
    hset key fields store = put key (some ⟨.hash fields, false⟩) store := by
  unfold hset
  rw [fresh]

theorem hset_other {fields : List (τ × τ)} (differs : other ≠ key) :
    hset key fields store other = store other := put_other differs

theorem zadd_fresh {entries : List (τ × σ)} (fresh : store key = none) :
    zadd key entries store =
      put key (some ⟨.sortedSet (SortedSet.empty.addAll entries), false⟩) store := by
  unfold zadd
  rw [fresh]

theorem zadd_other {entries : List (τ × σ)} (differs : other ≠ key) :
    zadd key entries store other = store other := put_other differs

/-- A write to a hash depends on no other keys. -/
theorem hset_agree {fields : List (τ × τ)} {store' : Store τ σ}
    (atKey : store key = store' key) (atOther : store other = store' other) :
    hset key fields store other = hset key fields store' other := by
  simp only [hset, put, atKey, atOther]

/-- A write to a sorted set depends on no other keys. -/
theorem zadd_agree {entries : List (τ × σ)} {store' : Store τ σ}
    (atKey : store key = store' key) (atOther : store other = store' other) :
    zadd key entries store other = zadd key entries store' other := by
  simp only [zadd, put, atKey, atOther]

theorem hset_some {fields : List (τ × τ)} :
    ∃ entry, hset key fields store key = some entry := by
  rw [hset, put_same]
  split
  · exact ⟨_, rfl⟩
  · exact ⟨_, rfl⟩
  · exact ⟨_, rfl⟩

/-- Writing to a hash gives no key a time to live. -/
theorem hset_lasting {fields : List (τ × τ)}
    (lasting : ∀ entry, store other = some entry → entry.expires = false) :
    ∀ entry, hset key fields store other = some entry → entry.expires = false := by
  intro entry found
  by_cases same : other = key
  · rw [same] at lasting found
    rw [hset, put_same] at found
    split at found
    · cases found
      rfl
    · next old expires before =>
      cases found
      exact lasting ⟨.hash old, expires⟩ before
    · next _ before =>
      cases found
      exact lasting entry before
  · rw [hset_other same] at found
    exact lasting entry found

/-- Writing to a sorted set gives no key a time to live. -/
theorem zadd_lasting {entries : List (τ × σ)}
    (lasting : ∀ entry, store other = some entry → entry.expires = false) :
    ∀ entry, zadd key entries store other = some entry → entry.expires = false := by
  intro entry found
  by_cases same : other = key
  · rw [same] at lasting found
    rw [zadd, put_same] at found
    split at found
    · cases found
      rfl
    · next old expires before =>
      cases found
      exact lasting ⟨.sortedSet old, expires⟩ before
    · next _ before =>
      cases found
      exact lasting entry before
  · rw [zadd_other same] at found
    exact lasting entry found

theorem expire_same : expire key store key =
    (store key).map fun entry => { entry with expires := true } := put_same

theorem expire_other (differs : other ≠ key) : expire key store other = store other :=
  put_other differs

theorem delete_mem {keys : List τ} (member : key ∈ keys) : delete keys store key = none :=
  if_pos member

theorem delete_other {keys : List τ} (absent : key ∉ keys) :
    delete keys store key = store key := if_neg absent

/-- What is left after a time to live was there before. -/
theorem lapse_some {entry : Entry τ σ} (found : lapse key store other = some entry) :
    store other = some entry := by
  unfold lapse put at found
  split at found
  case isTrue same =>
    rw [same]
    exact (Option.filter_eq_some_iff.mp found).1
  case isFalse => exact found

/-- A key without a time to live does not go. -/
theorem lapse_kept {entry : Entry τ σ} (found : store other = some entry)
    (lasting : entry.expires = false) : lapse key store other = some entry := by
  unfold lapse put
  split
  case isTrue same =>
    rw [← same, found]
    exact Option.filter_eq_some_iff.mpr ⟨rfl, by simp [lasting]⟩
  case isFalse => exact found

end Reading

end RngGamePlatform.Stores.Redis
