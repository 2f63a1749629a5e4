import SplitDns.Audit.Database

/-!
# Writing an audit log

An open log writes to the table of its database with the date and time of day at hand. A writer
keeps up with what is recorded; the database has all rows when the writer is closed.
-/

namespace SplitDns.Audit

structure Writer where
  handle : Handle
  log : Log
  /-- The date and time of day that rows are written with. -/
  time : String

/-- Records a batch and writes it. What cannot be written is lost. -/
def Writer.record (writer : Writer) (batch : Batch) : Writer :=
  if writer.handle.writable then
    { writer with log := (writer.log.record batch).writeNext writer.time }
  else writer

namespace Databases

/-- Opens a database for writing, with room for so many batches that wait. -/
def openWriter? (databases : Databases) (files : Files.Store) (name : String) (capacity : Nat)
    (time : String) : Option (Writer × Databases) :=
  (databases.open? files name).map fun opened =>
    (⟨opened.1, .new capacity (opened.2.table opened.1.place), time⟩, opened.2)

def closeWriter (databases : Databases) (writer : Writer) : Databases :=
  databases.keep writer.handle.place (writer.log.close writer.time)

end Databases

end SplitDns.Audit
