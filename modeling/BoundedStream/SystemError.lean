import BoundedStream.Errno
import BoundedStream.Text.Quoted

/-!
# System errors

A request to the operating system fails with an error number, with a bare kind,
or with a kind and a text of its own.  The texts differ, the kind is always known.
-/

namespace BoundedStream

/-- A failed request to the operating system. -/
inductive SystemError where
  /-- The system answered an error number. -/
  | number (errno : Errno)
  /-- Only the kind of the failure is known. -/
  | bare (kind : FailureKind)
  /-- A refusal with fixed wording before the system was asked. -/
  | refused (kind : FailureKind) (text : String)
  /-- A failure with wording chosen by whoever reported it. -/
  | reported (kind : FailureKind) (text : String)
deriving DecidableEq, Repr, Inhabited

namespace SystemError

def kind : SystemError → FailureKind
  | number errno => errno.kind
  | bare kind => kind
  | refused kind _ => kind
  | reported kind _ => kind

/-- The text of a failure; an error number is shown after the system's wording. -/
def message : SystemError → String
  | number errno => errno.libraryText ++ " (os error " ++ toString errno.code ++ ")"
  | bare kind => kind.text
  | refused _ text => text
  | reported _ text => text

def structural : SystemError → String
  | number errno =>
    Text.labelled "Os" [("code", toString errno.code), ("kind", errno.kind.name),
      ("message", Text.quote errno.libraryText)]
  | bare kind => Text.wrapped "Kind" kind.name
  | refused kind text =>
    Text.labelled "Error" [("kind", kind.name), ("message", Text.quote text)]
  | reported kind text =>
    Text.labelled "Custom" [("kind", kind.name), ("error", Text.quote text)]

/-- A path that holds the character NUL cannot be passed to the system. -/
def pathWithNul : SystemError :=
  .refused .invalidInput "file name contained an unexpected NUL byte"

/-- The content of a text file is not UTF-8. -/
def notText : SystemError :=
  .refused .invalidData "stream did not contain valid UTF-8"

end SystemError

end BoundedStream
