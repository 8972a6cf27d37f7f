/-! # Failures of input and output

Why an operation on a file, a stream or a process failed. Failures that the system reports are shown
with the system's text and number; the others arise before the system is asked. -/

namespace ToolingHost

/-- The cause of a failed operation. -/
inductive IoError where
  /-- Nothing is there, or a directory on the way is missing. -/
  | notFound
  /-- The process has not got the right to do it. -/
  | permissionDenied
  /-- Something is there already. -/
  | alreadyExists
  /-- A component on the way is not a directory. -/
  | notADirectory
  /-- A file was expected where there is a directory. -/
  | isADirectory
  /-- There is no device behind a special file. -/
  | noDevice
  /-- The stream was closed by the other side. -/
  | brokenPipe
  /-- The file is not a program that can be started. -/
  | badExecutable
  /-- The arguments of a program are longer than the system allows. -/
  | argumentsTooLong
  /-- A component is longer than the file system allows. -/
  | nameTooLong
  /-- Too many symbolic links were followed. -/
  | linkLoop
  /-- The path holds a NUL byte. -/
  | nulInPath
  /-- The content is not text. -/
  | notText
  /-- The stream ended before the content was complete. -/
  | unexpectedEnd
  deriving DecidableEq, Repr

/-- The text of a failure. -/
def IoError.message : IoError → String
  | .notFound => "No such file or directory (os error 2)"
  | .permissionDenied => "Permission denied (os error 13)"
  | .alreadyExists => "File exists (os error 17)"
  | .notADirectory => "Not a directory (os error 20)"
  | .isADirectory => "Is a directory (os error 21)"
  | .noDevice => "No such device or address (os error 6)"
  | .brokenPipe => "Broken pipe (os error 32)"
  | .badExecutable => "Exec format error (os error 8)"
  | .argumentsTooLong => "Argument list too long (os error 7)"
  | .nameTooLong => "File name too long (os error 36)"
  | .linkLoop => "Too many levels of symbolic links (os error 40)"
  | .nulInPath => "file name contained an unexpected NUL byte"
  | .notText => "stream did not contain valid UTF-8"
  | .unexpectedEnd => "early eof"

end ToolingHost
