/-!
# Failures of the outside world

What a file system, a socket or a text decoder reports, with the wording that administrators
see.
-/

namespace SplitDns

inductive IoError where
  | notFound
  | permissionDenied
  | notADirectory
  | isADirectory
  | busy
  | nameTooLong
  | zeroInPath
  | zeroInArgument
  | messageTooLong
  | notUtf8
  | earlyEof
  | addressInUse
  | networkUnreachable
  | connectionRefused
  deriving DecidableEq, Repr

def IoError.message : IoError → String
  | .notFound => "No such file or directory (os error 2)"
  | .permissionDenied => "Permission denied (os error 13)"
  | .notADirectory => "Not a directory (os error 20)"
  | .isADirectory => "Is a directory (os error 21)"
  | .busy => "Device or resource busy (os error 16)"
  | .nameTooLong => "File name too long (os error 36)"
  | .zeroInPath => "file name contained an unexpected NUL byte"
  | .zeroInArgument => "nul byte found in provided data"
  | .messageTooLong => "Message too long (os error 90)"
  | .notUtf8 => "stream did not contain valid UTF-8"
  | .earlyEof => "early eof"
  | .addressInUse => "Address already in use (os error 98)"
  | .networkUnreachable => "Network is unreachable (os error 101)"
  | .connectionRefused => "Connection refused (os error 111)"

end SplitDns
