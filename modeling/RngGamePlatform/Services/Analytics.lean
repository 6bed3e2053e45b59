/-
Module: RngGamePlatform.Services.Analytics
Purpose: The per-game summary of a player's analytics events.
Trusted boundary: human-reviewed semantics
Main exports: Dialect, GameSummaryRow, gameSummary, validateAnalyticsRange,
  analyticsGameSummary
-/
import RngGamePlatform.Relational.Grouping
import RngGamePlatform.Repositories
import RngGamePlatform.WeeklyPeriods

namespace RngGamePlatform

open Encoding Relational Transactions Weekly

/-- What the summary takes from the database: the text of a JSONB value that is no
string, the cast of a text to INTEGER, the collation of texts, and the average of so many
integers with a sum, as a float. -/
structure Dialect (α : Type) where
  jsonText : Json → PyStr
  toInteger : PyStr → Option Int
  collates : PyStr → PyStr → Bool
  average : Int → Nat → α

/-- What the summary raises; the last is the database's refusal of a cast. -/
inductive AnalyticsError where
  | invalidAnalyticsRange
  | notFound
  | invalidInteger
deriving DecidableEq

/-- One deterministic per-game analytics aggregate. -/
structure GameSummaryRow (α : Type) where
  gameKey : Option PyStr
  plays : Nat
  rewardsIssued : Nat
  averageRewardValue : Option α
deriving DecidableEq

variable {α : Type}

/-- `payload[field].as_string()`: NULL for a field that is missing or null. -/
def AnalyticsEvent.asString (dialect : Dialect α) (field : PyStr) (event : AnalyticsEvent) :
    Option PyStr :=
  match event.payload.get? field with
  | none => none
  | some .null => none
  | some (.str value) => some value
  | some value => some (dialect.jsonText value)

/-- `ORDER BY` a text, NULL last. -/
def nullsLast (before : PyStr → PyStr → Bool) : Option PyStr → Option PyStr → Bool
  | some one, some other => before one other
  | some _, none => true
  | none, some _ => false
  | none, none => true

/-- `CAST(value AS INTEGER)` -/
def castInteger (dialect : Dialect α) : Option PyStr → Except AnalyticsError (Option Int)
  | none => .ok none
  | some value =>
      match dialect.toInteger value with
      | some number => .ok (some number)
      | none => .error .invalidInteger

/-- `avg`: NULL values do not count, and of no value the average is NULL. -/
def averageOf (dialect : Dialect α) (values : List Int) : Option α :=
  if values = [] then none else some (dialect.average values.sum values.length)

def AnalyticsEvent.hasType (eventType : PyStr) (event : AnalyticsEvent) : Bool :=
  event.eventType = eventType

/-- The aggregates of one group; a value is cast only in the rows that the filter of its
aggregate keeps. -/
def summaryRow (dialect : Dialect α) (group : Option PyStr × List AnalyticsEvent) :
    Except AnalyticsError (GameSummaryRow α) := do
  let issued := group.2.filter (AnalyticsEvent.hasType (py "reward_issued"))
  let values ← issued.mapM fun event =>
    castInteger dialect (event.asString dialect (py "value"))
  return {
    gameKey := group.1
    plays := (group.2.filter (AnalyticsEvent.hasType (py "game_played"))).length
    rewardsIssued := issued.length
    averageRewardValue := averageOf dialect values.reduceOption }

/-- The interval `[startAt, endAt)`, where each end may be open. -/
def inRange (startAt endAt : Option Int) (createdAt : Int) : Bool :=
  startAt.all (fun start => start ≤ createdAt) && endAt.all fun stop => createdAt < stop

/-- The rows of the summary; `createdAt` tells when the event of a key was recorded. -/
def isSummarized (dialect : Dialect α) (createdAt : PyStr → Int) (playerId : Uuid)
    (startAt endAt : Option Int) (gameKey : Option PyStr) (event : AnalyticsEvent) : Bool :=
  event.playerId = some playerId &&
    (event.hasType (py "game_played") || event.hasType (py "reward_issued")) &&
    inRange startAt endAt (createdAt event.eventKey) &&
    gameKey.all fun key => event.asString dialect (py "game_key") = some key

/-- Aggregate authoritative player events using `[start, end)` time boundaries. -/
def gameSummary (dialect : Dialect α) (createdAt : PyStr → Int) (playerId : Uuid)
    (startAt endAt : Option Int) (gameKey : Option PyStr) (db : Database) :
    Except AnalyticsError (List (GameSummaryRow α)) :=
  (groupBy (AnalyticsEvent.asString dialect (py "game_key")) (nullsLast dialect.collates)
    (db.analytics.filter
      (isSummarized dialect createdAt playerId startAt endAt gameKey))).mapM
    (summaryRow dialect)

/-- The instant of a boundary, which an aware date-time has. -/
def Weekly.PyDateTime.instant? : PyDateTime → Option Int
  | .naive _ _ => none
  | .aware moment => some moment.instant

/-- Require aware timestamps and a non-empty `[start, end)` interval. -/
def validateAnalyticsRange (startAt endAt : Option PyDateTime) : Except AnalyticsError Unit :=
  if [startAt, endAt].any fun boundary =>
      boundary.any fun moment => moment.instant?.isNone then
    .error .invalidAnalyticsRange
  else
    match startAt.bind PyDateTime.instant?, endAt.bind PyDateTime.instant? with
    | some start, some stop =>
        if stop ≤ start then .error .invalidAnalyticsRange else .ok ()
    | _, _ => .ok ()

/-- A query of the summary: it raises what the database refuses. -/
def analyticsGameSummary (dialect : Dialect α) (createdAt : PyStr → Int) (ownerId : Uuid)
    (startAt endAt : Option PyDateTime) (gameKey : Option PyStr) :
    Program Database Lock Int AnalyticsError (List (GameSummaryRow α)) := do
  Program.ofExcept (validateAnalyticsRange startAt endAt)
  let found ← Program.query (fun _ => []) (playerById ownerId)
  let _player ← Program.orRaise .notFound found
  let rows ← Program.query (fun _ => []) (gameSummary dialect createdAt ownerId
    (startAt.bind PyDateTime.instant?) (endAt.bind PyDateTime.instant?) gameKey)
  Program.ofExcept rows

end RngGamePlatform
