import DirPicker.Text.Basic

/-!
# Failures of the file system

What can go wrong when a file is read or the working directory is changed, with the message the
system gives for it.
-/

namespace DirPicker

inductive SystemError
  | notFound
  | noDevice
  | notDirectory
  | isDirectory
  | nameTooLong
  | linkLoop
  /-- What was read is no text. -/
  | notText
  /-- A name holds the character that ends names. -/
  | nulInName
  /-- Any other failure, by its message. -/
  | other (message : Text)
deriving DecidableEq, Repr

namespace SystemError

/-- The message of the system, with the number of the failure if it has one. -/
def message : SystemError → Text
  | .notFound => "No such file or directory (os error 2)".toList
  | .noDevice => "No such device or address (os error 6)".toList
  | .notDirectory => "Not a directory (os error 20)".toList
  | .isDirectory => "Is a directory (os error 21)".toList
  | .nameTooLong => "File name too long (os error 36)".toList
  | .linkLoop => "Too many levels of symbolic links (os error 40)".toList
  | .notText => "stream did not contain valid UTF-8".toList
  | .nulInName => "file name contained an unexpected NUL byte".toList
  | .other message => message

end SystemError

end DirPicker
