import SplitDns.Text.CodeRanges
import SplitDns.Text.DisplayTable
import SplitDns.Text.Number

/-!
# Quoted text

A text in double quotes in which everything that a reader could mistake is escaped: the quote, the
backslash, and each character that draws nothing of its own or joins the one before it.
-/

namespace SplitDns.Text

/-- Whether a character is shown by its code. -/
def isHidden (character : Char) : Bool :=
  inRanges unprintableRanges character || inRanges extenderRanges character

/-- A character as it stands between double quotes. -/
def quotedChar (character : Char) : List Char :=
  match character with
  | '"' => ['\\', '"']
  | '\\' => ['\\', '\\']
  | '\n' => ['\\', 'n']
  | '\r' => ['\\', 'r']
  | '\t' => ['\\', 't']
  | '\x00' => ['\\', '0']
  | _ =>
      if isHidden character then
        ['\\', 'u', Char.ofNat 0x7B] ++ digitsOf 16 character.toNat ++ [Char.ofNat 0x7D]
      else [character]

def quoted (text : String) : String :=
  String.ofList ('"' :: text.toList.flatMap quotedChar ++ ['"'])

end SplitDns.Text
