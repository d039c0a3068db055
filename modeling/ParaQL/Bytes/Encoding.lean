/-
Encodings that count, write and read: `preencode` adds the length of a value to the
state, `encode` writes the value into the buffer of the state, and `decode` reads it
back.  The rules compose such steps one field after the other.
-/

import ParaQL.Bytes.Buffer

namespace Bytes

structure Cursor where
  start : Nat
  finish : Nat
  buffer : Buffer
  deriving DecidableEq, Repr

namespace Cursor

def initial : Cursor := { start := 0, finish := 0, buffer := [] }

def reading (buffer : Buffer) : Cursor :=
  { start := 0, finish := buffer.length, buffer := buffer }

def reserve (cursor : Cursor) (size : Nat) : Cursor :=
  { cursor with finish := cursor.finish + size }

def write (cursor : Cursor) (bytes : Buffer) : Cursor :=
  { cursor with
    start := cursor.start + bytes.length
    buffer := cursor.buffer.splice cursor.start bytes }

def advance (cursor : Cursor) (size : Nat) : Cursor :=
  { cursor with start := cursor.start + size }

theorem reserve_reserve (cursor : Cursor) (first second : Nat) :
    (cursor.reserve first).reserve second = cursor.reserve (first + second) := by
  simp only [reserve, Nat.add_assoc]

theorem advance_advance (cursor : Cursor) (first second : Nat) :
    (cursor.advance first).advance second = cursor.advance (first + second) := by
  simp only [advance, Nat.add_assoc]

theorem write_nil (cursor : Cursor) : cursor.write [] = cursor := by
  simp only [write, Buffer.splice_nil, List.length_nil, Nat.add_zero]

theorem write_write (cursor : Cursor) (first second : Buffer)
    (room : cursor.start + (first ++ second).length ≤ cursor.buffer.length) :
    (cursor.write first).write second = cursor.write (first ++ second) := by
  simp only [write, Buffer.splice_splice _ _ _ _ room, List.length_append, Nat.add_assoc]

end Cursor

section Steps

variable {ε α β : Type}

def Counts (step : Cursor → Except ε Cursor) (bytes : Buffer) : Prop :=
  ∀ cursor, step cursor = .ok (cursor.reserve bytes.length)

def Writes (step : Cursor → Except ε Cursor) (bytes : Buffer) : Prop :=
  ∀ cursor : Cursor, cursor.start + bytes.length ≤ cursor.buffer.length →
    step cursor = .ok (cursor.write bytes)

def Reads (step : Cursor → Except ε (α × Cursor)) (bytes : Buffer) (value : α) : Prop :=
  ∀ (cursor : Cursor) (rest : Buffer), cursor.finish = cursor.buffer.length →
    cursor.buffer.drop cursor.start = bytes ++ rest →
      step cursor = .ok (value, cursor.advance bytes.length)

def Refuses (step : Cursor → Except ε α) : Prop :=
  ∀ cursor, ∃ thrown, step cursor = .error thrown

theorem Refuses.before {first : Cursor → Except ε α} (refuses : Refuses first)
    (second : α → Except ε β) : Refuses (fun cursor => first cursor >>= second) := by
  intro cursor
  obtain ⟨thrown, fails⟩ := refuses cursor
  refine ⟨thrown, ?_⟩
  show first cursor >>= second = _
  rw [fails]
  rfl

theorem Refuses.after {first : Cursor → Except ε Cursor} {second : Cursor → Except ε α}
    {bytes : Buffer} (refuses : Refuses second) (counts : Counts first bytes) :
    Refuses (fun cursor => first cursor >>= second) := by
  intro cursor
  obtain ⟨thrown, fails⟩ := refuses (cursor.reserve bytes.length)
  refine ⟨thrown, ?_⟩
  show first cursor >>= second = _
  rw [counts cursor]
  exact fails

theorem Counts.pure : Counts (ε := ε) (fun cursor => .ok cursor) [] := by
  intro cursor
  rfl

theorem Counts.andThen {first second : Cursor → Except ε Cursor} {bytes more : Buffer}
    (counts : Counts first bytes) (then_ : Counts second more) :
    Counts (fun cursor => first cursor >>= second) (bytes ++ more) := by
  intro cursor
  have both : second (cursor.reserve bytes.length) =
      .ok (cursor.reserve (bytes ++ more).length) := by
    rw [then_, Cursor.reserve_reserve, List.length_append]
  show first cursor >>= second = _
  rw [counts cursor]
  exact both

theorem Writes.pure : Writes (ε := ε) (fun cursor => .ok cursor) [] := by
  intro cursor _
  rw [Cursor.write_nil]

theorem Writes.andThen {first second : Cursor → Except ε Cursor} {bytes more : Buffer}
    (writes : Writes first bytes) (then_ : Writes second more) :
    Writes (fun cursor => first cursor >>= second) (bytes ++ more) := by
  intro cursor room
  have split := room
  rw [List.length_append] at split
  have fits : (cursor.write bytes).start + more.length ≤ (cursor.write bytes).buffer.length := by
    simp only [Cursor.write, Buffer.length_splice]
    omega
  have both : second (cursor.write bytes) = .ok (cursor.write (bytes ++ more)) := by
    rw [then_ _ fits, Cursor.write_write _ _ _ room]
  show first cursor >>= second = _
  rw [writes cursor (by omega)]
  exact both

theorem Reads.pure (value : α) : Reads (ε := ε) (fun cursor => .ok (value, cursor)) [] value := by
  intro cursor rest _ _
  rfl

theorem Reads.andThen {first : Cursor → Except ε (α × Cursor)} {bytes more : Buffer} {value : α}
    {last : β} (reads : Reads first bytes value) (second : α → Cursor → Except ε (β × Cursor))
    (then_ : Reads (second value) more last) :
    Reads (fun cursor => first cursor >>= fun (value, cursor) => second value cursor)
      (bytes ++ more) last := by
  intro cursor rest complete ahead
  have next : (cursor.advance bytes.length).buffer.drop (cursor.advance bytes.length).start =
      more ++ rest := by
    simp only [Cursor.advance]
    rw [← List.drop_drop, ahead, List.append_assoc, List.drop_left]
  have both : second value (cursor.advance bytes.length) =
      .ok (last, cursor.advance (bytes ++ more).length) := by
    rw [then_ (cursor.advance bytes.length) rest complete next, Cursor.advance_advance,
      List.length_append]
  have here := reads cursor (more ++ rest) complete (by rw [ahead, List.append_assoc])
  show (first cursor >>= fun (value, cursor) => second value cursor) = _
  rw [here]
  exact both

/-- A field is read, and put where it belongs. -/
theorem Reads.into {first : Cursor → Except ε (α × Cursor)} {bytes : Buffer} {value : α}
    (reads : Reads first bytes value) (place : α → β) :
    Reads (fun cursor => first cursor >>= fun (value, cursor) => .ok (place value, cursor))
      bytes (place value) := by
  intro cursor rest complete ahead
  show (first cursor >>= fun (value, cursor) => .ok (place value, cursor)) = _
  rw [reads cursor rest complete ahead]
  rfl

end Steps

/-! ### Encodings -/

structure Encoding (ε α : Type) where
  preencode : Cursor → α → Except ε Cursor
  encode : Cursor → α → Except ε Cursor
  decode : Cursor → Except ε (α × Cursor)

structure Allocator where
  allocate : Nat → Buffer
  length_allocate : ∀ size, (allocate size).length = size

def Allocator.zeroed : Allocator :=
  { allocate := Buffer.alloc, length_allocate := Buffer.length_alloc }

namespace Encoding

variable {ε α : Type}

def toBuffer (encoding : Encoding ε α) (allocator : Allocator) (value : α) : Except ε Buffer := do
  let counted ← encoding.preencode .initial value
  let written ← encoding.encode
    { counted with buffer := allocator.allocate counted.finish } value
  pure written.buffer

def fromBuffer (encoding : Encoding ε α) (buffer : Buffer) : Except ε α := do
  let (value, _) ← encoding.decode (.reading buffer)
  pure value

/-- A value is written as the given bytes, and these are read as `decoded`, whatever
comes after them. -/
structure Carries (encoding : Encoding ε α) (value decoded : α) (bytes : Buffer) : Prop where
  counts : Counts (encoding.preencode · value) bytes
  writes : Writes (encoding.encode · value) bytes
  reads : Reads encoding.decode bytes decoded

/-- A value has bytes that are read as `decoded`. -/
def RoundTrips (encoding : Encoding ε α) (value decoded : α) : Prop :=
  ∃ bytes, encoding.Carries value decoded bytes

/-- The bytes that are counted are the bytes that are written. -/
theorem Carries.written {encoding : Encoding ε α} {value decoded : α} {bytes : Buffer}
    (carries : encoding.Carries value decoded bytes) (allocator : Allocator) :
    ∃ counted written : Cursor,
      encoding.preencode .initial value = .ok counted ∧
      encoding.encode { counted with buffer := allocator.allocate counted.finish } value =
        .ok written ∧
      written.start = counted.finish ∧ counted.finish = bytes.length ∧ written.buffer = bytes := by
  let counted : Cursor := { start := 0, finish := bytes.length, buffer := [] }
  have length := allocator.length_allocate bytes.length
  have counts := carries.counts .initial
  have writes := carries.writes { counted with buffer := allocator.allocate counted.finish }
    (by simp only [counted, length]; omega)
  refine ⟨counted, _, ?_, writes, ?_, rfl, ?_⟩
  · simpa only [Cursor.reserve, Cursor.initial, Nat.zero_add] using counts
  · simp only [Cursor.write, counted, Nat.zero_add]
  · simp only [Cursor.write, counted, Buffer.splice_all _ _ length]

theorem Carries.toBuffer {encoding : Encoding ε α} {value decoded : α} {bytes : Buffer}
    (carries : encoding.Carries value decoded bytes) (allocator : Allocator) :
    encoding.toBuffer allocator value = .ok bytes := by
  obtain ⟨counted, written, counts, writes, _, _, content⟩ := carries.written allocator
  simp only [Encoding.toBuffer, counts]
  show (encoding.encode { counted with buffer := allocator.allocate counted.finish } value >>= fun
    written => pure written.buffer) = _
  rw [writes, ← content]
  rfl

theorem Carries.fromBuffer {encoding : Encoding ε α} {value decoded : α} {bytes : Buffer}
    (carries : encoding.Carries value decoded bytes) :
    encoding.fromBuffer bytes = .ok decoded := by
  have read := carries.reads (.reading bytes) [] rfl (by simp [Cursor.reading])
  simp only [Encoding.fromBuffer, read]
  rfl

theorem toBuffer_refuses {encoding : Encoding ε α} {value : α}
    (refuses : Refuses (encoding.preencode · value)) (allocator : Allocator) :
    ∃ thrown, encoding.toBuffer allocator value = .error thrown := by
  obtain ⟨thrown, fails⟩ := refuses .initial
  refine ⟨thrown, ?_⟩
  show (encoding.preencode .initial value >>= _) = _
  rw [show encoding.preencode .initial value = .error thrown from fails]
  rfl

/-- Values with the same bytes are read as the same value. -/
theorem Carries.decoded_eq {encoding : Encoding ε α} {value decoded other otherDecoded : α}
    {bytes : Buffer} (carries : encoding.Carries value decoded bytes)
    (same : encoding.Carries other otherDecoded bytes) : decoded = otherDecoded := by
  have first := carries.fromBuffer
  rw [same.fromBuffer] at first
  exact (Except.ok.inj first).symm

def ofBytes (bytes : α → Except ε Buffer) (read : Buffer → Except ε (α × Nat)) :
    Encoding ε α where
  preencode cursor value := (bytes value).map fun bytes => cursor.reserve bytes.length
  encode cursor value := (bytes value).map cursor.write
  decode cursor :=
    (read (cursor.buffer.drop cursor.start)).map fun (value, size) => (value, cursor.advance size)

theorem carries_ofBytes {encode : α → Except ε Buffer} {read : Buffer → Except ε (α × Nat)}
    {value decoded : α} {bytes : Buffer} (encoded : encode value = .ok bytes)
    (reads : ∀ rest, read (bytes ++ rest) = .ok (decoded, bytes.length)) :
    (ofBytes encode read).Carries value decoded bytes := by
  constructor
  · intro cursor
    simp only [ofBytes, encoded, Except.map]
  · intro cursor _
    simp only [ofBytes, encoded, Except.map]
  · intro cursor rest _ ahead
    simp only [ofBytes, ahead, reads, Except.map]

end Encoding
end Bytes
