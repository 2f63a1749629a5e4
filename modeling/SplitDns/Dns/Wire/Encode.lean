import SplitDns.Dns.Wire.Section

/-!
# Writing messages

A header with the counts of what follows, then questions and records. A section that does not fit
ends early, and the message is then marked as truncated.
-/

namespace SplitDns.Dns

namespace Wire

def flag (set : Bool) (index : Nat) : Nat :=
  if set then 1 <<< index else 0

def flagWord (header : Header) : UInt16 :=
  UInt16.ofNat <|
    flag header.response 15 + (header.opcode.val <<< 11) + flag header.authoritative 10 +
      flag header.truncated 9 + flag header.recursionDesired 8 +
      flag header.recursionAvailable 7 + flag header.authenticData 5 +
      flag header.checkingDisabled 4 + header.code.val

end Wire

/--
Writes a message. The questions have to fit. A section ends before its first record that does
not fit; octets of the last such record may follow the message.
-/
def Message.encode? (message : Message) : Option Octets :=
  let questions := Wire.questionWriter.writeMany [] [] 12 message.questions
  let place := 12 + questions.octets.length
  let answers := questions.followedBy place message.answers
  let place := place + answers.octets.length
  let authority := answers.followedBy place message.authority
  let place := place + authority.octets.length
  let additional := authority.followedBy place message.additional
  let place := place + additional.octets.length
  let extension := additional.followedBy place (message.edns.toList.map Edns.toRecord)
  let complete :=
    answers.complete && authority.complete && additional.complete && extension.complete
  let header := { message.header with truncated := message.header.truncated || !complete }
  if questions.complete then
    some (octets16 header.id ++ octets16 (Wire.flagWord header) ++
      octets16 (UInt16.ofNat questions.count) ++ octets16 (UInt16.ofNat answers.count) ++
      octets16 (UInt16.ofNat authority.count) ++
      octets16 (UInt16.ofNat (additional.count + extension.count)) ++
      questions.octets ++ answers.octets ++ authority.octets ++ additional.octets ++
      extension.octets ++ extension.left)
  else
    none

end SplitDns.Dns
