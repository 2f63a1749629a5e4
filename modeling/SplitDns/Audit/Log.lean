/-!
# The audit log

A table of the addresses that were given out, one row for each name and address. Batches of rows
wait in a bounded queue for the writer; a batch without addresses, or one that finds the queue
full, is left out. Rows are numbered from one on in the order of writing.
-/

namespace SplitDns.Audit

/-- The addresses that one reply gave for a name. -/
structure Batch where
  name : String
  addresses : List String
  proxied : Bool
  deriving DecidableEq, Repr

structure Row where
  id : Nat
  name : String
  address : String
  proxied : Bool
  /-- When the row was written, with date and time of day. -/
  time : String
  deriving DecidableEq, Repr

/-- The rows, the oldest first. -/
structure Table where
  rows : List Row

namespace Table

def empty : Table :=
  ⟨[]⟩

/-- Writes a row under the next number. -/
def insert (table : Table) (time name address : String) (proxied : Bool) : Table :=
  ⟨table.rows ++ [⟨table.rows.length + 1, name, address, proxied, time⟩]⟩

/-- Writes one row for every address of a batch. -/
def write (time : String) (table : Table) (batch : Batch) : Table :=
  batch.addresses.foldl
    (fun table address => table.insert time batch.name address batch.proxied) table

/-- The rows with the highest numbers, the highest first. A negative number of rows means all. -/
def select (table : Table) (count : Int64) : List Row :=
  if count < 0 then table.rows.reverse else table.rows.reverse.take count.toNatClampNeg

/-- The last rows, the newest first; the limit is asked for as a signed number of 64 bits. -/
def recent (table : Table) (limit : Nat) : List Row :=
  table.select (Int64.ofNat limit)

end Table

/-- A log that is open for writing. -/
structure Log where
  capacity : Nat
  /-- The batches that wait for the writer, the oldest first. -/
  waiting : List Batch
  table : Table

/-- The number of batches that may wait, where nothing else is said. -/
def defaultCapacity : Nat := 1024

namespace Log

/-- A log on a table, with room for one batch at least. -/
def new (capacity : Nat) (table : Table) : Log :=
  ⟨max capacity 1, [], table⟩

/-- Offers a batch to the writer. -/
def record (log : Log) (batch : Batch) : Log :=
  if batch.addresses.isEmpty || log.capacity ≤ log.waiting.length then log
  else { log with waiting := log.waiting ++ [batch] }

/-- Writes the oldest batch that waits. -/
def writeNext (time : String) (log : Log) : Log :=
  match log.waiting with
  | [] => log
  | batch :: rest => { log with waiting := rest, table := log.table.write time batch }

/-- The table once the writer has written all that waits. -/
def close (time : String) (log : Log) : Table :=
  log.waiting.foldl (Table.write time) log.table

end Log

end SplitDns.Audit
