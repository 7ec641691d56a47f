/-!
# FIFOs

A FIFO keeps its bytes in at most sixteen pages of 4096 bytes.  A write may add its odd
bytes to the last page; then it takes a fresh page for every 4096 bytes.  The ends that
are open are counted, also those still waiting for the other side, and so are all
openings so far.  When no end is open any more, the bytes are lost.
-/

namespace BoundedStream

/-- A page of a FIFO. -/
structure Page where
  /-- How much of the page was written, the bytes read since included. -/
  used : Nat
  /-- The bytes not read yet. -/
  bytes : List UInt8
deriving DecidableEq, Repr, Inhabited

/-- A FIFO. -/
structure Fifo where
  pages : List Page
  /-- Ends open for reading. -/
  readers : Nat
  /-- Ends open for writing. -/
  writers : Nat
  /-- All openings for reading so far. -/
  readerOpens : Nat
  /-- All openings for writing so far. -/
  writerOpens : Nat
deriving DecidableEq, Repr, Inhabited

namespace Fifo

def new : Fifo := ⟨[], 0, 0, 0, 0⟩

/-- The bytes of a page. -/
def pageSize : Nat := 4096

/-- The pages of a FIFO. -/
def pageLimit : Nat := 16

/-- The bytes that were written and not yet read. -/
def contents (fifo : Fifo) : List UInt8 := fifo.pages.flatMap Page.bytes

def openReader (fifo : Fifo) : Fifo :=
  { fifo with readers := fifo.readers + 1, readerOpens := fifo.readerOpens + 1 }

def openWriter (fifo : Fifo) : Fifo :=
  { fifo with writers := fifo.writers + 1, writerOpens := fifo.writerOpens + 1 }

def settle (fifo : Fifo) : Fifo :=
  if fifo.readers = 0 ∧ fifo.writers = 0 then { fifo with pages := [] } else fifo

def closeReader (fifo : Fifo) : Fifo :=
  settle { fifo with readers := fifo.readers - 1 }

def closeWriter (fifo : Fifo) : Fifo :=
  settle { fifo with writers := fifo.writers - 1 }

def takeFrom : List Page → Nat → List UInt8 × List Page
  | [], _ => ([], [])
  | page :: pages, count =>
    let taken := page.bytes.take count
    let left := page.bytes.drop count
    if left.isEmpty then
      let (more, rest) := takeFrom pages (count - taken.length)
      (taken ++ more, rest)
    else (taken, { page with bytes := left } :: pages)

/-- Read as many bytes as there are, up to a number. -/
def read (fifo : Fifo) (count : Nat) : List UInt8 × Fifo :=
  let (bytes, pages) := takeFrom fifo.pages count
  (bytes, { fifo with pages })

/-- Add bytes to the last page, if they all fit behind what was written there. -/
def extendLast : List Page → List UInt8 → Option (List Page)
  | [], _ => none
  | [page], data =>
    if page.used + data.length ≤ pageSize then
      some [⟨page.used + data.length, page.bytes ++ data⟩]
    else none
  | page :: pages, data => (extendLast pages data).map (page :: ·)

/-- Begin a write: its odd bytes may go to the last page.  The answer is what is left to
be written. -/
def beginWrite (fifo : Fifo) (data : List UInt8) : List UInt8 × Fifo :=
  let odd := data.length % pageSize
  if odd = 0 then (data, fifo)
  else
    match extendLast fifo.pages (data.take odd) with
    | some pages => (data.drop odd, { fifo with pages })
    | none => (data, fifo)

/-- Fill fresh pages.  The answer is what did not find a place. -/
def fillPages : Nat → Fifo → List UInt8 → List UInt8 × Fifo
  | 0, fifo, data => (data, fifo)
  | count + 1, fifo, data =>
    if data.isEmpty then (data, fifo)
    else
      let page : Page := ⟨(data.take pageSize).length, data.take pageSize⟩
      fillPages count { fifo with pages := fifo.pages ++ [page] } (data.drop pageSize)

/-- Write as much as the free pages take.  The answer is what is left to be written. -/
def continueWrite (fifo : Fifo) (data : List UInt8) : List UInt8 × Fifo :=
  fillPages (pageLimit - fifo.pages.length) fifo data

end Fifo

end BoundedStream
