import EngineBridge.Proofs.Log.ColorCodes
import EngineBridge.Proofs.Log.Sinks

/-!
A record that handlers share.

The handlers of a logger get one record, one after the other, and writing a line in color changes it:
the codes are put around its level name, which is put back behind them. The text of a failure is kept
in the record once it has been written out. Main statement: each handler finds the record as it was
made, so that handlers that share a record write what each would write alone.
-/

namespace EngineBridge

namespace Log

/-- A record on its way through the handlers. -/
structure Shared where
  /-- The record, with the level name that it has at present. -/
  record : Record
  /-- The text of its failure, as some handler has left it. -/
  failureText : Option String

namespace Shared

def rename (shared : Shared) (levelName : String) : Shared :=
  { shared with record := { shared.record with levelName } }

/-- The line of a record without its failure. It is written in color by putting the codes into the
level name, and taking them out again. -/
def headline (shared : Shared) (isColored : Bool) : String × Shared :=
  match (if isColored then Record.colors.lookup shared.record.level else none) with
  | none => (shared.record.headline false, shared)
  | some color =>
      let name := shared.record.levelName
      let renamed := shared.rename (color ++ Record.column name ++ Record.colorEnd)
      (renamed.record.headline false, renamed.rename name)

/-- The text of a failure is written out once, unless there is nothing in it. -/
def writeFailure (shared : Shared) : Shared :=
  match shared.record.failure with
  | none => shared
  | some failure => { shared with
      failureText := some ((shared.failureText.filter fun text => !text.isEmpty).getD failure) }

/-- The text of a record, with the failure as it has been written out. -/
def text (shared : Shared) (isColored : Bool) : String × Shared :=
  let (line, behind) := shared.headline isColored
  let written := behind.writeFailure
  ({ written.record with failure := written.failureText }.withFailure line, written)

/-- The line of a handler, and the record as it leaves it. JSON lines are written without a change. -/
def line (shared : Shared) (handler : Handler) : String × Shared :=
  match handler.sink with
  | .eventFile _ => (shared.record.json, shared)
  | _ => shared.text handler.isColored

/-- Whether a record is as it was made, with its failure written out or not. -/
structure IsOf (shared : Shared) (record : Record) : Prop where
  same : shared.record = record
  written : shared.failureText = none ∨ shared.failureText = record.failure

variable {shared : Shared} {record : Record}

theorem isOf_fresh (record : Record) : IsOf ⟨record, none⟩ record :=
  ⟨rfl, .inl rfl⟩

end Shared

theorem Record.column_of_le {levelName : String} (long : columnWidth ≤ levelName.length) :
    column levelName = levelName := by
  rw [column, Nat.sub_eq_zero_of_le long]
  simp

namespace Shared

variable {shared : Shared} {record : Record}

/-- A level name with codes around it fills the column, so that the column is the colored one. -/
theorem headline_eq (shared : Shared) (isColored : Bool) :
    shared.headline isColored = (shared.record.headline isColored, shared) := by
  unfold headline
  split
  · rename_i plain
    have column : shared.record.levelColumn isColored = shared.record.levelColumn false := by
      rw [Record.levelColumn, plain]
      rfl
    rw [Record.headline, Record.headline, column]
  · rename_i color found
    have wide : Record.columnWidth ≤
        (color ++ Record.column shared.record.levelName ++ Record.colorEnd).length := by
      have inside := Record.columnWidth_le_length shared.record.levelName
      rw [String.length_append, String.length_append]
      omega
    have column : (shared.rename (color ++ Record.column shared.record.levelName ++
        Record.colorEnd)).record.levelColumn false = shared.record.levelColumn isColored := by
      rw [Record.levelColumn, Record.levelColumn, found]
      exact Record.column_of_le wide
    dsimp only
    rw [Record.headline, Record.headline, column]
    rfl

/-- A failure that is written out is that of the record, whichever handler wrote it. -/
theorem IsOf.writeFailure_eq (isOf : shared.IsOf record) :
    shared.writeFailure = ⟨record, record.failure⟩ := by
  obtain ⟨shown, known⟩ := shared
  obtain ⟨rfl, written⟩ := isOf
  change known = none ∨ known = shown.failure at written
  cases failure : shown.failure with
  | none =>
      have unwritten : known = none := by
        rw [failure] at written
        exact written.elim id id
      simp only [writeFailure, failure, unwritten]
  | some text =>
      have found : (known.filter fun text => !text.isEmpty).getD text = text := by
        rcases written with unwritten | same
        · rw [unwritten]
          rfl
        · rw [same, failure, Option.filter_some]
          split <;> rfl
      simp only [writeFailure, failure, found]

/-- A handler writes the line that it would write alone, and leaves the record as it was made. -/
theorem IsOf.line_eq (isOf : shared.IsOf record) (handler : Handler) :
    (shared.line handler).1 = Host.lineFor handler record ∧
      (shared.line handler).2.IsOf record := by
  have text (isColored : Bool) :
      shared.text isColored = (record.text isColored, ⟨record, record.failure⟩) := by
    rw [Shared.text, headline_eq]
    dsimp only
    rw [isOf.writeFailure_eq, isOf.same, Record.text]
  have left : IsOf ⟨record, record.failure⟩ record := ⟨rfl, .inr rfl⟩
  obtain ⟨sink, threshold, isColored⟩ := handler
  cases sink with
  | eventFile path => exact ⟨congrArg Record.json isOf.same, isOf⟩
  | output | errorOutput | textFile path =>
      change (shared.text isColored).1 = record.text isColored ∧
        (shared.text isColored).2.IsOf record
      rw [text]
      exact ⟨rfl, left⟩

end Shared

end Log

namespace Host

/-- Hand a record on its way to a handler. -/
def handleShared (state : Host × Log.Shared) (handler : Log.Handler) : Host × Log.Shared :=
  if handler.accepts state.2.record.level then
    let (line, shared) := state.2.line handler
    (state.1.writeLine handler.sink line, shared)
  else state

/-- Put the time on a record and let all handlers of its logger share it, if the logger records at
its level. -/
def deliverShared (host : Host) (record : Log.Record) : Host :=
  if host.logging.isEnabled record.logger record.level then
    ((host.logging.handlersOf record.logger).foldl handleShared
      (host, ⟨{ record with created := host.recordTime }, none⟩)).1
  else host

theorem recordTime_handle (host : Host) (record : Log.Record) (handler : Log.Handler) :
    (host.handle record handler).recordTime = host.recordTime := by
  unfold handle
  split
  · exact recordTime_writeLine _ _ _
  · rfl

theorem handleShared_eq {shared : Log.Shared} {record : Log.Record} (isOf : shared.IsOf record)
    (host : Host) (handler : Log.Handler) :
    (handleShared (host, shared) handler).1 = host.handle record handler ∧
      (handleShared (host, shared) handler).2.IsOf record := by
  have ⟨written, left⟩ := isOf.line_eq handler
  unfold handleShared handle
  rw [isOf.same]
  split
  · exact ⟨congrArg (host.writeLine handler.sink) written, left⟩
  · exact ⟨rfl, isOf⟩

/-- All handlers find the record as it was made, whichever were before them. -/
theorem foldl_handleShared (handlers : List Log.Handler) (record : Log.Record) {host : Host}
    {shared : Log.Shared} (isOf : shared.IsOf { record with created := host.recordTime }) :
    (handlers.foldl handleShared (host, shared)).1 =
      handlers.foldl (fun host handler =>
        host.handle { record with created := host.recordTime } handler) host := by
  -- The record is as it was made before each handler, and the time on it does not change.
  induction handlers generalizing host shared with
  | nil => rfl
  | cons handler rest induction =>
      have ⟨handled, left⟩ := handleShared_eq isOf host handler
      have time := recordTime_handle host { record with created := host.recordTime } handler
      rw [← handled] at time
      rw [List.foldl_cons, List.foldl_cons, ← handled]
      rw [← time] at left
      exact induction left

/-- Handlers that share a record do what each of them does with a record of its own. -/
theorem deliverShared_eq : deliverShared = deliver := by
  funext host record
  unfold deliverShared deliver
  split
  · exact foldl_handleShared _ record (Log.Shared.isOf_fresh _)
  · rfl

end Host

end EngineBridge
