import SplitDns.Admin.Edit
import SplitDns.Admin.Report
import SplitDns.Audit.Log

/-!
# Output of commands

The lines that the commands print. Columns are filled up with blanks; a text that is too long for
its column moves the rest of the line.
-/

namespace SplitDns.CommandLine

open SplitDns.Admin
open SplitDns.Text

/-- A text filled up to a number of characters. -/
def column (width : Nat) (text : String) : String :=
  text ++ String.ofList (List.replicate (width - text.length) ' ')

def unlines (lines : List String) : String :=
  String.join (lines.map (· ++ "\n"))

def classifiedLine (name pattern : String) (settings : ClassSettings) : String :=
  s!"{name} -> class {settings.name} (pattern '{pattern}'), " ++
    s!"upstream {settings.resolver}, set {settings.set}"

def directLine (name : String) (resolver : Except Error Address.Socket) : String :=
  let shown := match resolver with
    | .ok address => address.text
    | .error error => s!"unavailable ({error.message})"
  s!"{name} -> {Route.directName}, upstream {shown}"

def addedLines (change : Change) : List String :=
  let first :=
    if change.fileChanged then s!"Pattern '{change.pattern}' added to class {change.className}"
    else s!"Pattern '{change.pattern}' already in class {change.className}"
  [first] ++ change.movedFrom.map (fun name => s!"  removed from class {name}") ++
    [s!"  {decimal change.tally.added} historical address(es) added, " ++
      s!"{decimal change.tally.removed} removed from other sets"]

def removedLines (change : Change) : List String :=
  let first :=
    if change.fileChanged then
      s!"Pattern '{change.pattern}' removed from class {change.className}"
    else s!"Pattern '{change.pattern}' was not in class {change.className}"
  [first, s!"  {decimal change.tally.removed} historical address(es) removed from the set"]

def listingLines (listing : ClassListing) : List String :=
  s!"{listing.className} ({decimal listing.patterns.length} pattern(s))" ::
    listing.patterns.map fun entry =>
      "  " ++ column 40 entry.pattern ++ s!" {decimal entry.addresses} address(es)"

def addressLine (entry : AddressEntry) : String :=
  let sets :=
    if entry.memberOf.isEmpty then Route.directName else ", ".intercalate entry.memberOf
  "  " ++ column 40 entry.address ++ " " ++ sets

def nameLines (entry : NameEntry) : List String :=
  s!"{entry.name} [{entry.className}]" :: entry.addresses.map addressLine

def lookupLines (pattern : String) (entries : List NameEntry) : List String :=
  if entries.isEmpty then [s!"No recorded domains contain '{pattern}'"]
  else
    let total := entries.foldl (fun total entry => total + entry.addresses.length) 0
    s!"{decimal entries.length} domain(s), {decimal total} address(es)" ::
      entries.flatMap nameLines

def rowLine (row : Audit.Row) : String :=
  let route := if row.proxied then "proxied" else Route.directName
  row.time ++ "  " ++ column 8 route ++ " " ++ column 40 row.name ++ " " ++ row.address

/-- Rows are printed the oldest first. -/
def logLines (recent : List Audit.Row) : List String :=
  recent.reverse.map rowLine

end SplitDns.CommandLine
