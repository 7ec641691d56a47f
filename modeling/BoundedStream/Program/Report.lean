import BoundedStream.Config
import BoundedStream.Error
import BoundedStream.Summary

/-!
# Reports of stream commands

A command that streamed to the end reports the length and the check value of what it
streamed, and a consumer also that it stayed below its limit.  A command that failed
reports an error, which it raised itself or passed on from the endpoint or from a region.
-/

namespace BoundedStream

/-- What a stream command did. -/
structure Report where
  role : Role
  kind : TransportKind
  summary : Summary
  /-- The number of bytes after which a consumer was to stop. -/
  limit : Option Nat
deriving DecidableEq, Repr

namespace Report

def missed? (report : Report) : Option Nat :=
  report.limit.filter fun limit => decide (report.summary.bytes < limit)

def verb : Role → String
  | .producer => "produced"
  | .consumer => "consumed"

/-- The line that warns of a stream that ended below its limit. -/
def warning (limit received : Nat) : String :=
  "WARN Stream ended early expected=" ++ toString limit ++ " received=" ++
    toString received

def line (report : Report) : String :=
  "INFO Stream " ++ verb report.role ++ " kind=" ++ report.kind.text ++ " bytes=" ++
    toString report.summary.bytes ++ " crc32=" ++ report.summary.checksumText

def lines (report : Report) : List String :=
  (report.missed?.map fun limit => warning limit report.summary.bytes).toList ++
    [report.line]

end Report

/-- Why a command failed. -/
inductive RunError where
  /-- The command raised it. -/
  | command (error : CommandError)
  /-- The endpoint raised it. -/
  | stream (error : StreamError)
  /-- A region raised it. -/
  | region (error : RegionError)
deriving DecidableEq, Repr, Inhabited

namespace RunError

/-- The structural form of an error names only the layers that it passed. -/
def structural : RunError → String
  | command error => error.structural
  | stream error => error.structural
  | region error => error.structural

end RunError

end BoundedStream
