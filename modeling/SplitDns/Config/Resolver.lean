import SplitDns.Config.Basic
import SplitDns.Text.Blank
import SplitDns.Text.Lines

/-!
# The resolver for names without class

It is taken from the configuration, else from the environment, else from the host's own list of
resolvers. Settings that are blank count as missing.
-/

namespace SplitDns

open SplitDns.Address
open SplitDns.Text

/-- What the surroundings of the program say about resolvers. -/
structure Surroundings where
  /-- The value of the environment variable. -/
  variableValue : Option String
  /-- The text of the host's resolver file. -/
  resolverText : Option String

/-- A setting that says something. -/
def nonBlank? (setting : Option String) : Option String :=
  setting.filter fun text => !(trim text.toList).isEmpty

/-- The address in the first line of a resolver file that gives one. -/
def firstNameserver? (text : String) : Option String :=
  (lines text.toList).findSome? fun line =>
    match words line with
    | keyword :: address :: _ =>
        if keyword = "nameserver".toList then some (String.ofList address) else none
    | _ => none

/-- The text of the address that counts. -/
def resolverSetting? (configured : Option String) (surroundings : Surroundings) : Option String :=
  (nonBlank? configured).or
    ((nonBlank? surroundings.variableValue).or
      (surroundings.resolverText.bind firstNameserver?))

def chooseDefaultResolver (configured : Option String) (surroundings : Surroundings) :
    Except Error Socket :=
  match resolverSetting? configured surroundings with
  | some text => (parseResolver text).mapError .ofResolver
  | none => .error (.config .noDefaultResolver)

def Config.defaultResolver (config : Config) (surroundings : Surroundings) :
    Except Error Socket :=
  chooseDefaultResolver config.server.resolver surroundings

end SplitDns
