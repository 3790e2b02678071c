import Mathlib.Data.Vector.Basic

/-! Numbers as runs of bytes, and reading a byte string front to back with a cursor. -/

namespace Bytes

/-! ### Little-endian numbers -/

/-- The number written in a run of bytes, least significant byte first. -/
def number : List UInt8 → Nat
  | [] => 0
  | byte :: rest => byte.toNat + 256 * number rest

/-- The low bytes of a number, as many as the width, least significant first. -/
def ofNumber : (width : Nat) → Nat → List UInt8
  | 0, _ => []
  | width + 1, value => .ofNat value :: ofNumber width (value / 256)

/-- A number is written in as many bytes as asked for. -/
@[simp] theorem length_ofNumber (width value : Nat) : (ofNumber width value).length = width := by
  induction width generalizing value with
  | zero => rfl
  | succ width ih => rw [ofNumber, List.length_cons, ih]

/-- The bytes of a number read back as its low part. -/
theorem number_ofNumber (width value : Nat) :
    number (ofNumber width value) = value % 256 ^ width := by
  induction width generalizing value with
  | zero => rw [ofNumber, number, Nat.pow_zero, Nat.mod_one]
  | succ width ih =>
    -- The lowest byte is the remainder, and the others hold the quotient.
    have low : (UInt8.ofNat value).toNat = value % 256 := UInt8.toNat_ofNat'
    rw [ofNumber, number, ih, low, Nat.pow_succ', Nat.mod_mul]

/-- A number that fits in the width reads back as itself. -/
theorem number_ofNumber_of_lt {width value : Nat} (fits : value < 256 ^ width) :
    number (ofNumber width value) = value := by
  rw [number_ofNumber, Nat.mod_eq_of_lt fits]

/-! ### Reading with a cursor -/

/-- A reader of a byte string from a cursor, which it moves, or nothing past the end. -/
abbrev Reader (α : Type) : Type := ReaderT (List UInt8) (StateT Nat Option) α

/-- Run a reader with its cursor at a position. -/
def Reader.from {α : Type} (reader : Reader α) (data : List UInt8) (start : Nat) :
    Option (α × Nat) :=
  (ReaderT.run reader data).run start

/-- The next bytes, as many as the width. -/
def next (width : Nat) : Reader (List.Vector UInt8 width) := fun data start =>
  if room : start + width ≤ data.length then
    some (⟨(data.drop start).take width, by simp; omega⟩, start + width)
  else none

/-- Wherever the bytes stand, the reader reads them as the value and moves right behind them. -/
def Decodes {α : Type} (reader : Reader α) (bytes : List UInt8) (value : α) : Prop :=
  ∀ data start, bytes <+: data.drop start →
    reader.from data start = some (value, start + bytes.length)

/-- Behind the first of two runs of bytes stands the second. -/
theorem prefix_behind {first second data : List UInt8} {start : Nat}
    (stands : first ++ second <+: data.drop start) :
    second <+: data.drop (start + first.length) := by
  obtain ⟨rest, whole⟩ := stands
  -- Dropping the first run leaves the second at the front.
  refine ⟨rest, ?_⟩
  rw [← List.drop_drop, ← whole, List.append_assoc, List.drop_left]

/-- Bytes standing at a position are as many as the position leaves room for. -/
theorem room_of_prefix {bytes data : List UInt8} {start : Nat} (wide : 0 < bytes.length)
    (stands : bytes <+: data.drop start) : start + bytes.length ≤ data.length := by
  have fits := stands.length_le
  rw [List.length_drop] at fits
  omega

section Decodes

variable {α β : Type}

/-- A reader that reads nothing decodes nothing, wherever it is. -/
theorem Decodes.pure (value : α) : Decodes (Pure.pure value) [] value := by
  intro data start _
  rfl

/-- Two runs of bytes are decoded by reading the first and then the second. -/
theorem Decodes.bind {reader : Reader α} {rest : α → Reader β} {first second : List UInt8}
    {value : α} {result : β} (head : Decodes reader first value)
    (tail : Decodes (rest value) second result) :
    Decodes (reader >>= rest) (first ++ second) result := by
  intro data start stands
  -- The first reader leaves the cursor where the second run begins.
  have opened := head data start ((List.prefix_append first second).trans stands)
  have closed := tail data (start + first.length) (prefix_behind stands)
  rw [List.length_append, ← Nat.add_assoc, ← closed]
  unfold Reader.from at opened ⊢
  rw [ReaderT.run_bind, StateT.run_bind, opened]
  rfl

/-- A value computed from what was read is decoded from the same bytes. -/
theorem Decodes.map {reader : Reader α} {bytes : List UInt8} {value : α} (convert : α → β)
    (read : Decodes reader bytes value) : Decodes (convert <$> reader) bytes (convert value) := by
  intro data start stands
  -- The reader is run, and what it read converted.
  have opened := read data start stands
  unfold Reader.from at opened ⊢
  rw [ReaderT.run_map, StateT.run_map, opened]
  rfl

/-- The next bytes are decoded as themselves. -/
theorem Decodes.next {width : Nat} (bytes : List.Vector UInt8 width) (wide : 0 < width) :
    Decodes (next width) bytes.toList bytes := by
  intro data start stands
  have long : bytes.toList.length = width := bytes.toList_length
  -- The position leaves room for the bytes, and they are what is taken there.
  have room := room_of_prefix (by rwa [long]) stands
  have taken := List.prefix_iff_eq_take.mp stands
  rw [long] at room taken ⊢
  change Bytes.next width data start = _
  rw [Bytes.next, dif_pos room]
  exact congrArg some (Prod.ext (List.Vector.eq _ _ taken.symm) rfl)

end Decodes

/-- The next number of a width. -/
def nextNumber (width : Nat) : Reader Nat := (fun bytes => number bytes.toList) <$> next width

/-- A number that fits in the width is decoded from its bytes. -/
theorem Decodes.nextNumber {width value : Nat} (wide : 0 < width) (fits : value < 256 ^ width) :
    Decodes (nextNumber width) (ofNumber width value) value := by
  -- The bytes are the vector that is read, and they stand for the number.
  have read := Decodes.next ⟨ofNumber width value, length_ofNumber width value⟩ wide
  have converted := read.map fun bytes => number bytes.toList
  rw [List.Vector.toList_mk, number_ofNumber_of_lt fits] at converted
  exact converted

/-- Read as often as asked, into a list. -/
def repeated {α : Type} : (count : Nat) → Reader α → Reader (List α)
  | 0, _ => Pure.pure []
  | count + 1, reader => do
    let value ← reader
    let rest ← repeated count reader
    return value :: rest

/-- Values written one after the other are decoded by reading as often. -/
theorem Decodes.repeated {α : Type} {reader : Reader α} {write : α → List UInt8}
    (each : ∀ value, Decodes reader (write value) value) (values : List α) :
    Decodes (repeated values.length reader) (values.flatMap write) values := by
  -- Each value is read where the one before it ends.
  induction values with
  | nil => exact .pure []
  | cons value rest ih =>
    rw [List.flatMap_cons]
    refine (each value).bind ?_
    rw [← List.append_nil (rest.flatMap write)]
    exact ih.bind (.pure _)

/-! ### Readers that undo a writer -/

/-- The number in a run of bytes fits in the run. -/
theorem number_lt (bytes : List UInt8) : number bytes < 256 ^ bytes.length := by
  -- A byte more multiplies the bound by what a byte holds.
  induction bytes with
  | nil => exact Nat.one_pos
  | cons byte rest ih =>
    have low := byte.toNat_lt
    rw [number, List.length_cons, Nat.pow_succ']
    omega

/-- The number in a run of bytes, written again, is the run. -/
theorem ofNumber_number (bytes : List UInt8) : ofNumber bytes.length (number bytes) = bytes := by
  induction bytes with
  | nil => rfl
  | cons byte rest ih =>
    -- The lowest byte is the remainder, and the quotient is the number of the others.
    have low := byte.toNat_lt
    have quotient : (byte.toNat + 256 * number rest) / 256 = number rest := by omega
    have remainder : UInt8.ofNat (byte.toNat + 256 * number rest) = byte := by
      apply UInt8.toNat_inj.mp
      rw [UInt8.toNat_ofNat']
      omega
    rw [number, List.length_cons, ofNumber, quotient, remainder, ih]

/-- Reading in two steps reads the second from where the first stopped. -/
theorem from_bind {α β : Type} (reader : Reader α) (rest : α → Reader β) (data : List UInt8)
    (start : Nat) : (reader >>= rest).from data start
      = (reader.from data start).bind fun read => (rest read.1).from data read.2 := by
  unfold Reader.from
  rw [ReaderT.run_bind, StateT.run_bind]
  rfl

/-- A value that is converted is read from where the value was. -/
theorem from_map {α β : Type} (convert : α → β) (reader : Reader α) (data : List UInt8)
    (start : Nat) : (convert <$> reader).from data start
      = (reader.from data start).map fun read => (convert read.1, read.2) := by
  unfold Reader.from
  rw [ReaderT.run_map, StateT.run_map]
  rfl

/-- Two runs of bytes stand at a position when the second stands right behind the first. -/
theorem append_prefix_iff {first second bytes : List UInt8} :
    first ++ second <+: bytes ↔ first <+: bytes ∧ second <+: bytes.drop first.length := by
  -- What stands behind the first run of bytes is what is left when it is dropped.
  constructor
  · intro stands
    obtain ⟨rest, rfl⟩ := stands
    rw [List.append_assoc, List.drop_left]
    exact ⟨List.prefix_append _ _, List.prefix_append _ _⟩
  · intro facts
    obtain ⟨⟨rest, rfl⟩, behind⟩ := facts
    rw [List.drop_left] at behind
    exact (List.prefix_append_right_inj first).mpr behind

/--
Of the values it allows, the reader reads exactly the one whose bytes stand at the cursor.

It moves right behind them, and reads nothing where no such value stands.
-/
def Reads {α : Type} (reader : Reader α) (allowed : α → Prop) (write : α → List UInt8) : Prop :=
  ∀ data start value behind, reader.from data start = some (value, behind) ↔
    allowed value ∧ write value <+: data.drop start ∧ behind = start + (write value).length

section Reads

variable {α β : Type}

/-- Reading without moving allows one value. -/
theorem Reads.pure (value : α) : Reads (Pure.pure value) (fun read => read = value) fun _ => [] := by
  intro data start read behind
  change some (value, start) = some (read, behind) ↔ _
  simp [eq_comm]

/-- What a reader allows, and what is written for it, may be said in other words. -/
theorem Reads.congr {reader : Reader α} {allowed allowedAlso : α → Prop}
    {write writeAlso : α → List UInt8} (read : Reads reader allowed write)
    (same : ∀ value, allowed value ↔ allowedAlso value)
    (bytes : ∀ value, allowed value → writeAlso value = write value) :
    Reads reader allowedAlso writeAlso := by
  intro data start value behind
  -- The writers need to agree only on what may be written.
  rw [read data start value behind, ← same value]
  refine and_congr_right fun allows => ?_
  rw [bytes value allows]

/--
A record is read field by field.

The rest may depend on the field, and reads only the records that have it.
-/
theorem Reads.field {reader : Reader α} {rest : α → Reader β} {allowed : β → Prop}
    {write : α → List UInt8} {writeRest : β → List UInt8} (part : β → α)
    (head : Reads reader (fun _ => True) write)
    (tail : ∀ value, Reads (rest value)
      (fun result => part result = value ∧ allowed result) writeRest) :
    Reads (reader >>= rest) allowed fun result => write (part result) ++ writeRest result := by
  intro data start result behind
  rw [from_bind, Option.bind_eq_some_iff, append_prefix_iff, List.drop_drop]
  constructor
  · intro taken
    obtain ⟨⟨value, middle⟩, opened, closed⟩ := taken
    obtain ⟨-, stands, rfl⟩ := (head _ _ _ _).mp opened
    obtain ⟨⟨rfl, allowedTail⟩, standsRest, rfl⟩ := (tail value _ _ _ _).mp closed
    refine ⟨allowedTail, ⟨stands, standsRest⟩, ?_⟩
    rw [List.length_append, Nat.add_assoc]
  · intro facts
    obtain ⟨allowedTail, ⟨stands, standsRest⟩, rfl⟩ := facts
    -- The field's bytes come first, and the rest stand where they end.
    refine ⟨(part result, start + (write (part result)).length),
      (head _ _ _ _).mpr ⟨trivial, stands, rfl⟩,
      (tail _ _ _ _ _).mpr ⟨⟨rfl, allowedTail⟩, standsRest, ?_⟩⟩
    rw [List.length_append, Nat.add_assoc]

/-- A value converted from what is read is read where the bytes it comes from stand. -/
theorem Reads.map {reader : Reader α} {allowed : α → Prop} {write : α → List UInt8}
    {convert : α → β} {allowedAfter : β → Prop} {writeAfter : β → List UInt8}
    (read : Reads reader allowed write)
    (image : ∀ result, allowedAfter result ↔ ∃ value, allowed value ∧ convert value = result)
    (bytes : ∀ value, allowed value → writeAfter (convert value) = write value) :
    Reads (convert <$> reader) allowedAfter writeAfter := by
  intro data start result behind
  -- What is read after the conversion is the image of what was read before it.
  rw [from_map, Option.map_eq_some_iff, image]
  constructor
  · intro taken
    obtain ⟨⟨value, middle⟩, opened, same⟩ := taken
    obtain ⟨rfl, rfl⟩ := Prod.mk.inj same
    obtain ⟨allowedValue, stands, rfl⟩ := (read _ _ _ _).mp opened
    rw [bytes value allowedValue]
    exact ⟨⟨value, allowedValue, rfl⟩, stands, rfl⟩
  · intro facts
    obtain ⟨⟨value, allowedValue, rfl⟩, stands, rfl⟩ := facts
    rw [bytes value allowedValue] at stands ⊢
    exact ⟨(value, _), (read _ _ _ _).mpr ⟨allowedValue, stands, rfl⟩, rfl⟩

/-- The next bytes are whatever stands there, as many as the width. -/
theorem Reads.next {width : Nat} (wide : 0 < width) :
    Reads (next width) (fun _ => True) List.Vector.toList := by
  intro data start bytes behind
  change Bytes.next width data start = some (bytes, behind) ↔ _
  rw [true_and, bytes.toList_length]
  -- So many bytes are there, or none are read.
  constructor
  · intro taken
    unfold Bytes.next at taken
    split at taken
    · obtain ⟨rfl, rfl⟩ := Prod.mk.inj (Option.some.inj taken)
      exact ⟨List.take_prefix _ _, rfl⟩
    · cases taken
  · intro facts
    obtain ⟨stands, rfl⟩ := facts
    have taken := Decodes.next bytes wide data start stands
    rw [bytes.toList_length] at taken
    exact taken

end Reads

/-! ### Readers of a fixed width -/

/-- The reader succeeds exactly where the bytes are long enough, and moves by the width. -/
def Takes {α : Type} (reader : Reader α) (width : Nat) : Prop :=
  ∀ data start, start ≤ data.length →
    (start + width ≤ data.length → ∃ value, reader.from data start = some (value, start + width)) ∧
      (data.length < start + width → reader.from data start = none)

section Takes

variable {α β : Type}

/-- A value that is given takes no byte. -/
theorem Takes.pure (value : α) : Takes (Pure.pure value) 0 := by
  intro data start within
  refine ⟨fun _ => ⟨value, rfl⟩, fun short => ?_⟩
  omega

/-- So many bytes are taken where there are as many, and none where there are fewer. -/
theorem Takes.next (width : Nat) : Takes (next width) width := by
  intro data start _
  change (_ → ∃ value, Bytes.next width data start = _) ∧ (_ → Bytes.next width data start = none)
  -- Whether there is room is what the reader itself asks.
  unfold Bytes.next
  constructor
  · intro room
    rw [dif_pos room]
    exact ⟨_, rfl⟩
  · intro short
    rw [dif_neg (Nat.not_le.mpr short)]

/-- A conversion takes no byte of its own. -/
theorem Takes.map {reader : Reader α} {width : Nat} (convert : α → β)
    (takes : Takes reader width) : Takes (convert <$> reader) width := by
  intro data start within
  -- The conversion neither fails nor moves on.
  obtain ⟨reads, stops⟩ := takes data start within
  rw [from_map]
  constructor
  · intro room
    obtain ⟨value, read⟩ := reads room
    rw [read]
    exact ⟨convert value, rfl⟩
  · intro short
    rw [stops short]
    rfl

/-- Two readers in a row take the bytes of both. -/
theorem Takes.bind {reader : Reader α} {rest : α → Reader β} {width more : Nat}
    (takes : Takes reader width) (further : ∀ value, Takes (rest value) more) :
    Takes (reader >>= rest) (width + more) := by
  intro data start within
  obtain ⟨reads, stops⟩ := takes data start within
  rw [from_bind]
  constructor
  · intro room
    obtain ⟨value, read⟩ := reads (by omega)
    obtain ⟨result, readRest⟩ := (further value data (start + width) (by omega)).1 (by omega)
    rw [read]
    exact ⟨result, by rw [Option.bind_some, readRest, Nat.add_assoc]⟩
  · intro short
    -- Either the first reader already finds too little, or the second does.
    by_cases room : start + width ≤ data.length
    · obtain ⟨value, read⟩ := reads room
      rw [read, Option.bind_some]
      exact (further value data (start + width) room).2 (by omega)
    · rw [stops (by omega)]
      rfl

end Takes

end Bytes
