import SplitDns.Files.Store
import SplitDns.Text.Number

/-!
# Replacing a file whole

New contents are written to a file beside the target and moved over it, so that nobody reads a
half-written file. One replacement is a machine with three steps, because others may run between
them; `replace` runs them in a row.
-/

namespace SplitDns.Files

open SplitDns.Text

/-- How far a replacement has come. -/
inductive Progress where
  | started
  /-- The contents stand in the temporary file. -/
  | written
  /-- A step failed; the temporary file is still to be removed. -/
  | failed (cause : IoError)
  | finished (result : Except IoError Unit)

structure Replacement where
  path : String
  temporary : String
  contents : ByteArray
  progress : Progress

namespace Replacement

def start (path temporary : String) (contents : ByteArray) : Replacement :=
  ⟨path, temporary, contents, .started⟩

/-- Goes on after an operation on the store. -/
def proceed (replacement : Replacement) (store : Store) (next : Progress) :
    Except IoError Store → Replacement × Store
  | .ok store => ({ replacement with progress := next }, store)
  | .error cause => ({ replacement with progress := .failed cause }, store)

/-- The next step. Removing the temporary file may fail without consequence. -/
def step (replacement : Replacement) (store : Store) : Replacement × Store :=
  match replacement.progress with
  | .started =>
      replacement.proceed store .written (store.write replacement.temporary replacement.contents)
  | .written =>
      replacement.proceed store (.finished (.ok ()))
        (store.rename replacement.temporary replacement.path)
  | .failed cause =>
      ({ replacement with progress := .finished (.error cause) },
        (store.remove replacement.temporary).toOption.getD store)
  | .finished _ => (replacement, store)

/-- The result of a replacement that came to its end. -/
def result (replacement : Replacement) : Except IoError Unit :=
  match replacement.progress with
  | .finished result => result
  | .failed cause => .error cause
  | _ => .ok ()

end Replacement

/-- Temporary names end in a process and the number of its call, which no other call has. -/
def temporarySuffix (process sequence : Nat) : String :=
  "." ++ decimal process ++ "." ++ decimal sequence ++ ".tmp"

/--
Who replaces files: a process, in the call with this number. Calls that do not overlap may have one
number.
-/
class Caller where
  process : Nat
  sequence : Nat

@[reducible]
def Caller.first : Caller :=
  ⟨1, 0⟩

variable [Caller]

/-- A name beside a path for its new contents. -/
def temporaryName (path : String) : String :=
  path ++ temporarySuffix Caller.process Caller.sequence

def Store.replace (store : Store) (path : String) (contents : ByteArray) :
    Except IoError Unit × Store :=
  let (replacement, store) := (Replacement.start path (temporaryName path) contents).step store
  let (replacement, store) := replacement.step store
  let (replacement, store) := replacement.step store
  (replacement.result, store)

def Store.replaceText (store : Store) (path text : String) : Except IoError Unit × Store :=
  store.replace path (utf8 text)

end SplitDns.Files
