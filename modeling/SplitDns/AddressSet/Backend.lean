import SplitDns.Address.Ip
import SplitDns.Duration
import SplitDns.IoError
import SplitDns.Text.Blank

/-!
# Address sets

Named sets of addresses that a firewall consults. A backend keeps them over a state of its own:
adding is repeatable, and removing or testing tells members from non-members. Nothing is tried
twice.
-/

namespace SplitDns.AddressSet

open SplitDns.Address
open SplitDns.Text

/-- How a run of the set tool ended. -/
inductive ExitStatus where
  | code (value : Nat)
  | killed
  deriving DecidableEq, Repr

def ExitStatus.text : ExitStatus → String
  | .code value => "exit status: " ++ decimal value
  | .killed => "signal: 9 (SIGKILL)"

def ExitStatus.isSuccess (status : ExitStatus) : Bool :=
  status == .code 0

inductive Error where
  | invalidName (set : String)
  | invalidFamily (address : Ip)
  | notFound (set : String)
  | commandFailed (command : String) (status : ExitStatus) (complaint : String)
  | spawn (cause : IoError)
  | timeout (limit : Duration)
  deriving DecidableEq, Repr

def Error.message : Error → String
  | .invalidName set => s!"Invalid set name: {set}"
  | .invalidFamily address => s!"Invalid address family for {address.text}"
  | .notFound set => s!"Set not found: {set}"
  | .commandFailed command status complaint =>
      "`" ++ command ++ "` failed (" ++ status.text ++ "): " ++ complaint
  | .spawn cause => s!"Failed to run address-set tool: {cause.message}"
  | .timeout limit => s!"Address-set tool did not finish within {limit.text}"

/-- One more than the longest set name, in octets. -/
def nameLimit : Nat := 32

/-- A set name is not empty, has fewer than 32 octets and no blank or control characters. -/
def isValidName (set : String) : Bool :=
  !set.isEmpty && set.utf8ByteSize < nameLimit &&
    set.toList.all fun character => !isBlank character && !isControl character

def checkName (set : String) : Except Error Unit :=
  if isValidName set then .ok () else .error (.invalidName set)

/-- The operations on address sets, over a state. -/
structure Backend (State : Type) where
  /-- Makes a set unless it exists. -/
  create : String → State → Except Error Unit × State
  /-- Makes an address a member. -/
  add : String → Ip → State → Except Error Unit × State
  /-- Takes a member out; says whether it was one. -/
  remove : String → Ip → State → Except Error Bool × State
  test : String → Ip → State → Except Error Bool × State
  /-- All sets in a text that restores them. -/
  save : State → Except Error String × State

inductive Call where
  | create (set : String)
  | add (set : String) (address : Ip)
  | remove (set : String) (address : Ip)
  | test (set : String) (address : Ip)
  | save
  deriving DecidableEq, Repr

end SplitDns.AddressSet
