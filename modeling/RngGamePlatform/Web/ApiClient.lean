/-
Module: RngGamePlatform.Web.ApiClient
Purpose: The browser's requests to the platform and what becomes of them.
Trusted boundary: human-reviewed semantics
Main exports: ApiError, Delivery, ServerDraws, PlatformSystem.begin,
  PlatformSystem.reply
-/
import RngGamePlatform.Services.Platform

namespace RngGamePlatform

open Encoding Transactions

/-!
A request is a thread of the platform, next to all its other threads.  Its answer
reaches the browser at some moment after the thread has ended; or the browser gives up
first, because of a timeout or a broken connection, and cannot know what the thread has
done or will do.
-/

/-- `ApiError`: the failure that the server has named, if it has, and whether the
operation may have happened all the same. -/
structure ApiError where
  code : Option ServiceError
  uncertain : Bool
deriving DecidableEq

/-- Another exception, which has neither field. -/
def typeError : ApiError := ⟨none, false⟩

/-- How a request ends for the browser. -/
inductive Delivery where
  | answered
  | lost
deriving DecidableEq

/-- The random values that the server draws for a request. -/
structure ServerDraws where
  session : SessionDraw
  commit : CommitDraw
  evaluate : EvaluateDraw
  play : PlayDraw
  provider : OutcomeProvider
  scoreId : Uuid
  fuel : Nat

namespace PlatformSystem

/-- A request arrives; its thread is the last one. -/
def begin (env : Platform) (server : PlatformSystem) (operation : Operation) :
    PlatformSystem :=
  { server with threads := server.threads ++ [Thread.fresh (operate env) operation] }

/-- What the browser gets for a request; `mutates` tells all methods but GET. -/
def reply (server : PlatformSystem) (request : Nat) (mutates : Bool) :
    Delivery → Option (Except ApiError Answer)
  | .lost => some (.error ⟨none, mutates⟩)
  | .answered =>
      match server.threads[request]?.map Thread.status with
      | some (.finished (.ok answer)) => some (.ok answer)
      | some (.finished (.error error)) => some (.error ⟨some error, false⟩)
      | some .aborted => some (.error ⟨none, false⟩)
      | _ => none

end PlatformSystem

end RngGamePlatform
