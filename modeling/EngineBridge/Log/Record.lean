import EngineBridge.Document.Access
import EngineBridge.Log.Level

/-!
Log records, and computations that leave records behind.

A record is a message at a level, with the logger that it goes through and the place that made it.
A `Logged` computation either succeeds or fails; the records that it made before it failed remain.
-/

namespace EngineBridge

namespace Log

structure Record where
  level : Int
  levelName : String
  logger : String
  /-- The part of the library that made the record, and the line in it. -/
  place : String
  line : Int
  /-- The time of the record, in seconds since the first of January 1970. -/
  created : Int
  message : String
  /-- The decision that the record is about, where it is about one. -/
  event : Option Document
  /-- The text of a failure that the record reports. -/
  failure : Option String

namespace Record

/-- A record of the library itself, made at no particular time and line. -/
def plain (level : Int) (logger place message : String) : Record where
  level
  levelName := Level.name level
  logger
  place
  line := 0
  created := 0
  message
  event := none
  failure := none

end Record

end Log

/-- An outcome with the records that were made on the way to it, in order. -/
structure Logged (α : Type) where
  outcome : Except Failure α
  records : List Log.Record

namespace Logged

variable {α β : Type}

/-- Continue with the value of an outcome. After a failure nothing is recorded any more. -/
def andThen (first : Logged α) (next : α → Logged β) : Logged β :=
  match first.outcome with
  | .error failure => ⟨.error failure, first.records⟩
  | .ok value => ⟨(next value).outcome, first.records ++ (next value).records⟩

instance : Monad Logged where
  pure value := ⟨.ok value, []⟩
  bind := andThen

instance : MonadExceptOf Failure Logged where
  throw failure := ⟨.error failure, []⟩
  tryCatch first recover := match first.outcome with
    | .ok value => ⟨.ok value, first.records⟩
    | .error failure =>
        ⟨(recover failure).outcome, first.records ++ (recover failure).records⟩

instance : MonadLift (Except Failure) Logged where
  monadLift outcome := ⟨outcome, []⟩

def emit (record : Log.Record) : Logged Unit :=
  ⟨.ok (), [record]⟩

/-- The outcome as a value, so that a failure can be looked at. -/
def attempt (computation : Logged α) : Logged (Except Failure α) :=
  ⟨.ok computation.outcome, computation.records⟩

@[simp] theorem outcome_pure (value : α) : (pure value : Logged α).outcome = .ok value := rfl

@[simp] theorem records_pure (value : α) : (pure value : Logged α).records = [] := rfl

theorem bind_of_error {first : Logged α} {failure : Failure} (next : α → Logged β)
    (failed : first.outcome = .error failure) :
    (first >>= next) = ⟨.error failure, first.records⟩ := by
  show andThen first next = _
  simp [andThen, failed]

theorem bind_of_ok {first : Logged α} {value : α} (next : α → Logged β)
    (succeeded : first.outcome = .ok value) :
    (first >>= next) = ⟨(next value).outcome, first.records ++ (next value).records⟩ := by
  show andThen first next = _
  simp [andThen, succeeded]

instance : LawfulMonad Logged :=
  LawfulMonad.mk' Logged
    (by
      intro α computation
      obtain ⟨outcome, records⟩ := computation
      cases outcome <;> simp [Functor.map, andThen])
    (by
      intro α β value next
      simp [bind, andThen, pure])
    (by
      intro α β γ first second third
      obtain ⟨outcome, records⟩ := first
      cases outcome with
      | error failure => simp [bind, andThen]
      | ok value =>
          simp only [bind, andThen]
          cases (second value).outcome <;> simp)

end Logged

end EngineBridge
