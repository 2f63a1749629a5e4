import SplitDns.Text.Number

/-!
# Durations

Spans of time in whole milliseconds, and their short written form: seconds with the decimals that
are needed, or milliseconds when there is no whole second.
-/

namespace SplitDns

open SplitDns.Text

/-- A number of milliseconds. -/
abbrev Duration := Nat

namespace Duration

def ofSeconds (seconds : Nat) : Duration :=
  seconds * 1000

/-- Three decimals without the zeros at their end, after a point. -/
def decimals (thousandths : Nat) : List Char :=
  let digits := digitsOf 10 (1000 + thousandths)
  match (digits.drop 1).reverse.dropWhile (· == '0') with
  | [] => []
  | kept => '.' :: kept.reverse

def text (duration : Duration) : String :=
  if duration = 0 then "0ns"
  else if duration < 1000 then decimal duration ++ "ms"
  else decimal (duration / 1000) ++ String.ofList (decimals (duration % 1000)) ++ "s"

end Duration

end SplitDns
