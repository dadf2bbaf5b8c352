import RecordStore.Bytes

/-!
Sources of bytes.

A source is read piece by piece and may be interrupted, fail or panic at any point.
`bytes` is what it hands over before its end; `records` reads it through a buffer that
has room and cuts what arrives into records. Where the pieces end does not matter to either.
A buffer without room (`unseen`) shows none of them: the first byte that arrives finds no place
in it, and a buffer that is empty behind a read is taken for the end.
-/

namespace RecordStore

/-- What one read of a source yields. -/
inductive Delivery
  /-- A read that yields no byte is the end of a source, so empty data stand for no read at all. -/
  | data (bytes : Bytes)
  /-- The read has to be tried again. -/
  | interrupted
  /-- Somebody looks at the store while the read is under way; it yields nothing. -/
  | glance
  | failed (message : String)
  | panicked
  deriving DecidableEq, Repr

/-- The bytes that a read yields. -/
def Delivery.size : Delivery → Nat
  | .data bytes => bytes.length
  | _ => 0

/-- How a source ends. -/
inductive Ending
  | finished
  | failed (message : String)
  | panicked
  deriving DecidableEq, Repr

/-- A source, as the reads it yields. -/
abbrev Source := List Delivery

namespace Source

/-- The bytes that a source hands over. -/
def bytes : Source → Bytes
  | .data bytes :: source => bytes ++ Source.bytes source
  | .interrupted :: source => Source.bytes source
  | .glance :: source => Source.bytes source
  | _ => []

/-- How a source ends. -/
def ending : Source → Ending
  | [] => .finished
  | .data _ :: source => ending source
  | .interrupted :: source => ending source
  | .glance :: source => ending source
  | .failed message :: _ => .failed message
  | .panicked :: _ => .panicked

/-- How often somebody looks at the store before the source ends. -/
def glances : Source → Nat
  | .data _ :: source => glances source
  | .interrupted :: source => glances source
  | .glance :: source => glances source + 1
  | _ => 0

/-- The source that hands over a byte string at once. -/
def ofBytes (content : Bytes) : Source :=
  [.data content]

/-- Reads and bytes that are left. -/
def weight : Source → Nat
  | [] => 0
  | delivery :: source => delivery.size + 1 + weight source

end Source

/-- The records that were read, and how reading ended. -/
structure Scan where
  records : List Bytes
  ending : Ending
  deriving DecidableEq, Repr

namespace Scan

/-- Puts a record in front. -/
def cons (record : Bytes) (scan : Scan) : Scan :=
  ⟨record :: scan.records, scan.ending⟩

/-- The bytes of the records. -/
def size (scan : Scan) : Nat :=
  scan.records.flatten.length

end Scan

namespace Source

/-- Reads records through a buffer of `capacity + 1` bytes: `taken` is the start of a record
whose end was not seen, `buffer` what is left of the last read. A record without a newline at
the end of the source is dropped, and so is one that a failure cuts off. -/
def scan (capacity : Nat) (taken buffer : Bytes) (source : Source) : Scan :=
  match _found : Bytes.cutLine buffer with
  | some (line, after) => (scan capacity [] after source).cons (taken ++ line)
  | none =>
    match source with
    | [] => ⟨[], .finished⟩
    | .data bytes :: source =>
      if bytes.length ≤ capacity then scan capacity (taken ++ buffer) bytes source
      else
        scan capacity (taken ++ buffer) (bytes.take (capacity + 1))
          (.data (bytes.drop (capacity + 1)) :: source)
    | .interrupted :: source => scan capacity (taken ++ buffer) [] source
    | .glance :: source => scan capacity (taken ++ buffer) [] source
    | .failed message :: _ => ⟨[], .failed message⟩
    | .panicked :: _ => ⟨[], .panicked⟩
termination_by (source.weight, buffer.length)
decreasing_by
  · exact Prod.Lex.right _ (Bytes.length_lt_of_cutLine _found)
  · exact Prod.Lex.left _ _ (by simp [weight])
  · exact Prod.Lex.left _ _ (by simp [weight, Delivery.size]; omega)
  · exact Prod.Lex.left _ _ (by simp [weight])
  · exact Prod.Lex.left _ _ (by simp [weight])

/-- The bytes that a buffer usually holds. -/
def usualBuffer : Nat := 8192

/-- The records of a source, read through a buffer of that many bytes, at least one. -/
def records (buffer : Nat) (source : Source) : Scan :=
  scan (buffer - 1) [] [] source

/-- What is seen of a source through a buffer without room: no record, and what goes wrong before
the first byte. -/
def unseen : Source → Scan
  | [] => ⟨[], .finished⟩
  | .data [] :: source => unseen source
  | .data (_ :: _) :: _ => ⟨[], .finished⟩
  | .interrupted :: source => unseen source
  | .glance :: source => unseen source
  | .failed message :: _ => ⟨[], .failed message⟩
  | .panicked :: _ => ⟨[], .panicked⟩

/-- What is seen of a source through a buffer of any size. -/
def readThrough (buffer : Nat) (source : Source) : Scan :=
  if buffer = 0 then source.unseen else source.records buffer

end Source

end RecordStore
