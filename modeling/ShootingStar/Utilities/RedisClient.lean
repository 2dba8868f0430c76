import Mathlib
import ShootingStar.Lib.SortedSets
import ShootingStar.Lib.Text

/-!
# The Redis client

The client reads ranges of sorted sets, one at a time or several in a pipeline.  A key of a
similarity store is a prefix, with the colons at its end dropped, a colon and an identifier
(`buildRedisKey_injective`).
-/

open SortedSets (Store)

/-- What went wrong with a request. -/
inductive RedisErrorCode where
  | none
  | invalidArgument
  | ioError
  | timeout
  | closed
  | replyError
  | protocolError
  | unknown
  deriving DecidableEq, Repr

/-- The outcome of a request to the server. -/
structure RedisStatus where
  ok : Bool := false
  errorCode : RedisErrorCode := .none
  errorMessage : String := ""
  attempts : ℕ := 0
  deriving DecidableEq, Repr

/-- The status of a request that an attempt answers. -/
def okStatus (attempts : ℕ) : RedisStatus where
  ok := true
  attempts := attempts

/-- A member of a sorted set with its score. -/
structure RedisScoredMember where
  member : String
  score : ℚ := 0
  deriving DecidableEq, Repr

/-- The entries of a range. -/
structure RedisScoredMemberListResult where
  status : RedisStatus := {}
  values : List RedisScoredMember := []
  deriving DecidableEq, Repr

/-- The entries of several ranges. -/
structure RedisScoredMemberListsResult where
  status : RedisStatus := {}
  values : List (List RedisScoredMember) := []
  deriving DecidableEq, Repr

/-- A client: the answers to its requests for the entries of a range of a key, or of the same range
of several keys. -/
structure RedisClient where
  zRevRangeWithScores : String → ℤ → ℤ → RedisScoredMemberListResult
  batchZRevRangeWithScores : List String → ℤ → ℤ → RedisScoredMemberListsResult

namespace RedisClient

/-- The key of an identifier. -/
def buildRedisKey (keyPrefix : String) (itemId : ℕ) : String :=
  Text.rstrip (· = ':') keyPrefix ++ ":" ++ toString itemId

theorem buildRedisKey_ne (keyPrefix : String) (itemId : ℕ) :
  buildRedisKey keyPrefix itemId ≠ ""
  := by
  intro h
  exact Text.toString_ne_empty itemId (String.append_eq_empty_iff.mp h).2

/-- Identifiers have keys of their own. -/
theorem buildRedisKey_injective (keyPrefix : String) :
  Function.Injective (buildRedisKey keyPrefix)
  := by
  intro m n h
  apply Nat.repr_injective
  apply String.toList_inj.mp
  have hlist := congrArg String.toList h
  simp only [buildRedisKey, String.toList_append, List.append_right_inj] at hlist
  exact hlist

/-- The entries of a range of a store. -/
def rangeOf (store : Store String String ℚ) (start stop : ℤ) (key : String) :
    List RedisScoredMember :=
  ((store key).zrevrange start stop).map fun entry => { member := entry.1, score := entry.2 }

/-- The client of a server that holds a store and answers every request at the first attempt. -/
def serving (store : Store String String ℚ) : RedisClient where
  zRevRangeWithScores key start stop :=
    { status := okStatus 1, values := rangeOf store start stop key }
  batchZRevRangeWithScores keys start stop :=
    { status := okStatus (if keys = [] then 0 else 1), values := keys.map (rangeOf store start stop) }

/-- Every request succeeds, and the requests of a pipeline are answered as each of them alone. -/
structure AnswersAlike (client : RedisClient) : Prop where
  ok_single : ∀ key start stop, (client.zRevRangeWithScores key start stop).status.ok = true
  ok_batch : ∀ keys start stop, (client.batchZRevRangeWithScores keys start stop).status.ok = true
  values_batch : ∀ keys start stop, (client.batchZRevRangeWithScores keys start stop).values
    = keys.map fun key => (client.zRevRangeWithScores key start stop).values

theorem answersAlike_serving (store : Store String String ℚ) :
  AnswersAlike (serving store)
  := by
  constructor <;> intros <;> rfl

end RedisClient
