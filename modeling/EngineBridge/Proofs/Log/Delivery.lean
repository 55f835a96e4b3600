import EngineBridge.Host
import EngineBridge.Proofs.Running

/-!
What logging prints.

A record reaches the standard output as a line, through a handler that lets it pass. Main statement:
delivering records prints such lines and nothing else, and leaves the handlers in place.
-/

namespace EngineBridge

/-- Whether a line is that of a record which a handler lets pass to the standard output. -/
def Log.Routing.Shows (routing : Log.Routing) (line : String) : Prop :=
  ∃ handler ∈ routing.handlers, ∃ record : Log.Record, handler.sink = .output ∧
    handler.accepts record.level = true ∧ line = Host.lineFor handler record ++ "\n"

namespace Host

/-- Whether nothing is printed between two hosts but lines that the later one shows. -/
def Prints (before after : Host) : Prop :=
  ∃ lines : List String, after.output = before.output ++ String.join lines ∧
    ∀ line ∈ lines, after.logging.Shows line

/-- Whether a host is changed by nothing but logging. -/
structure Logs (before after : Host) : Prop where
  routing : after.logging = before.logging
  printed : before.Prints after

variable {host before after last : Host}

theorem prints_of_output_eq (same : after.output = before.output) : before.Prints after := by
  refine ⟨[], ?_, ?_⟩
  · rw [same, String.join_nil, String.append_empty]
  · exact fun _ none => absurd none List.not_mem_nil

theorem Prints.trans (first : before.Prints after) (second : after.Logs last) :
    before.Prints last := by
  have ⟨lines, printed, shown⟩ := first
  have ⟨more, printedMore, shownMore⟩ := second.printed
  refine ⟨lines ++ more, ?_, ?_⟩
  · rw [printedMore, printed, String.join_append, String.append_assoc]
  · intro line inside
    rcases List.mem_append.mp inside with early | late
    · rw [second.routing]
      exact shown line early
    · exact shownMore line late

instance : IsPreorder Host Logs where
  refl _ := ⟨rfl, prints_of_output_eq rfl⟩
  trans _ _ _ first second :=
    ⟨second.routing.trans first.routing, first.printed.trans second⟩

theorem logs_handle {handler : Log.Handler} (inside : handler ∈ host.logging.handlers)
    (record : Log.Record) : host.Logs (host.handle record handler) := by
  unfold handle
  split
  · rename_i accepted
    unfold writeLine
    split
    · rename_i isOutput
      refine ⟨rfl, [lineFor handler record ++ "\n"], ?_, ?_⟩
      · simp [String.append_assoc]
      · intro line only
        rw [List.mem_singleton] at only
        exact ⟨handler, inside, record, isOutput, accepted, only⟩
    · exact ⟨rfl, prints_of_output_eq rfl⟩
    · split
      · exact ⟨rfl, prints_of_output_eq rfl⟩
      · exact refl_of Logs host
    · split
      · exact ⟨rfl, prints_of_output_eq rfl⟩
      · exact refl_of Logs host
  · exact refl_of Logs host

theorem logging_handle (host : Host) (record : Log.Record) (handler : Log.Handler) :
    (host.handle record handler).logging = host.logging := by
  unfold handle writeLine
  split
  · split
    · rfl
    · rfl
    · split <;> rfl
    · split <;> rfl
  · rfl

/-- Whether a host comes of another one by nothing but the delivery of records. -/
def Delivers (before after : Host) : Prop :=
  ∃ records : List Log.Record, after = records.foldl deliver before

instance : IsPreorder Host Delivers where
  refl _ := ⟨[], rfl⟩
  trans _ _ _ first second := by
    have ⟨records, delivered⟩ := first
    have ⟨more, deliveredMore⟩ := second
    exact ⟨records ++ more, by rw [deliveredMore, delivered, List.foldl_append]⟩

section

variable {relation : Host → Host → Prop} [IsPreorder Host relation]

/-- What each handler does with a record is what becomes of its delivery. -/
theorem relates_deliver
    (handled : ∀ (host : Host) (handler : Log.Handler), handler ∈ host.logging.handlers →
      ∀ record : Log.Record, relation host (host.handle record handler))
    (host : Host) (record : Log.Record) : relation host (host.deliver record) := by
  have each (handlers : List Log.Handler) (stamped : Host → Log.Record) (host : Host)
      (inside : ∀ handler ∈ handlers, handler ∈ host.logging.handlers) :
      relation host (handlers.foldl (fun host handler => host.handle (stamped host) handler) host) := by
    induction handlers generalizing host with
    | nil => exact refl_of relation host
    | cons handler rest induction =>
        apply trans_of relation (handled host handler (inside handler List.mem_cons_self) _)
        apply induction
        intro other member
        rw [logging_handle]
        exact inside other (List.mem_cons_of_mem _ member)
  have inside : ∀ handler ∈ host.logging.handlersOf record.logger,
      handler ∈ host.logging.handlers := by
    unfold Log.Routing.handlersOf
    split
    · exact fun _ inside => inside
    · exact fun _ none => absurd none List.not_mem_nil
  unfold deliver
  split
  · exact each _ (fun host => { record with created := host.recordTime }) host inside
  · exact refl_of relation host

theorem Delivers.relates
    (handled : ∀ (host : Host) (handler : Log.Handler), handler ∈ host.logging.handlers →
      ∀ record : Log.Record, relation host (host.handle record handler))
    (delivers : before.Delivers after) : relation before after := by
  obtain ⟨records, rfl⟩ := delivers
  induction records generalizing before with
  | nil => exact refl_of relation before
  | cons record rest induction =>
      exact trans_of relation (relates_deliver handled before record) induction

end

theorem logs_deliver (host : Host) (record : Log.Record) : host.Logs (host.deliver record) :=
  relates_deliver (fun _ _ inside record => logs_handle inside record) host record

theorem Delivers.logs (delivers : before.Delivers after) : before.Logs after :=
  delivers.relates fun _ _ inside record => logs_handle inside record

theorem logs_deliverAll (records : List Log.Record) (host : Host) :
    host.Logs (records.foldl deliver host) :=
  Delivers.logs ⟨records, rfl⟩

/-- Without handlers nothing comes of a record. -/
theorem deliver_of_unconfigured (unconfigured : host.logging.handlers = []) (record : Log.Record) :
    host.deliver record = host := by
  simp [deliver, Log.Routing.handlersOf, unconfigured]

theorem deliverAll_of_unconfigured (unconfigured : host.logging.handlers = [])
    (records : List Log.Record) : records.foldl deliver host = host := by
  induction records with
  | nil => rfl
  | cons record rest induction =>
      rw [List.foldl_cons, deliver_of_unconfigured unconfigured, induction]

end Host

namespace Run

variable {α : Type}

theorem runFrom_logged (computation : Logged α) (host : Host) :
    runFrom (logged computation) host =
      (computation.outcome, computation.records.foldl Host.deliver host) := by
  unfold logged
  rw [runFrom_bind_of_ok (runFrom_modify _ host)]
  cases computation.outcome with
  | ok value => rfl
  | error failure => rfl

theorem logged_delivers (computation : Logged α) : Advances Host.Delivers (logged computation) := by
  intro host
  rw [runFrom_logged]
  exact ⟨_, rfl⟩

theorem log_delivers (record : Log.Record) : Advances Host.Delivers (log record) :=
  fun _ => ⟨[record], rfl⟩

end Run

end EngineBridge
