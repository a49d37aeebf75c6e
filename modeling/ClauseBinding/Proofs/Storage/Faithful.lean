import Mathlib.Data.List.Basic
import ClauseBinding.Schema.Bytes

/-!
Contract: stored forms that give back what they were made from, and nothing else.

Owns:
- what it is that a reader takes a value off the front of some bytes;
- the laws of a faithful form: a form is read back whatever follows it, and what was
  read is the form of the value and the bytes that follow;
- the forms of numbers, truth values, texts and lists, and forms put together.

Does not own: the forms of the parts of a catalog.

A form is read back if a length in eight bytes can count its bytes. A list or a text
longer than that has no form, as its length has none.
-/

namespace ClauseBinding.Stored

open ClauseBinding

variable {α β : Type}

/-! ## Readers -/

namespace Reader

theorem bind_eq_some_iff
    {read : Reader α}
    {next : α → Reader β}
    {bytes rest : List UInt8}
    {result : β} :
    (read >>= next) bytes = some (result, rest) ↔
      ∃ value between, read bytes = some (value, between) ∧
        next value between = some (result, rest) := by
  show ((read bytes).bind fun taken => next taken.1 taken.2) = some (result, rest) ↔ _
  simp [Option.bind_eq_some_iff]

theorem pure_eq_some_iff
    {value result : α}
    {bytes rest : List UInt8} :
    (pure value : Reader α) bytes = some (result, rest) ↔ value = result ∧ bytes = rest := by
  show some (value, bytes) = some (result, rest) ↔ _
  simp

theorem map_eq_some_iff
    {read : Reader α}
    {make : α → β}
    {bytes rest : List UInt8}
    {result : β} :
    (make <$> read) bytes = some (result, rest) ↔
      ∃ value, read bytes = some (value, rest) ∧ make value = result := by
  rw [map_eq_pure_bind, bind_eq_some_iff]
  constructor
  · rintro ⟨value, between, readable, made⟩
    obtain ⟨rfl, rfl⟩ := pure_eq_some_iff.mp made
    exact ⟨value, readable, rfl⟩
  · rintro ⟨value, readable, rfl⟩
    exact ⟨value, rest, readable, rfl⟩

end Reader

/-- A reader takes a value off some bytes, all of them, whatever follows. -/
def Takes
    (read : Reader α)
    (bytes : List UInt8)
    (value : α) : Prop :=
  ∀ trailing, read (bytes ++ trailing) = some (value, trailing)

namespace Takes

theorem pure (value : α) : Takes (pure value) [] value :=
  fun _ => rfl

theorem bind
    {read : Reader α}
    {next : α → Reader β}
    {bytes more : List UInt8}
    {value : α}
    {result : β}
    (first : Takes read bytes value)
    (second : Takes (next value) more result) : Takes (read >>= next) (bytes ++ more) result := by
  intro trailing
  rw [List.append_assoc]
  exact Reader.bind_eq_some_iff.mpr ⟨value, more ++ trailing, first _, second trailing⟩

theorem map
    {read : Reader α}
    {bytes : List UInt8}
    {value : α}
    (make : α → β)
    (taken : Takes read bytes value) : Takes (make <$> read) bytes (make value) :=
  fun trailing => Reader.map_eq_some_iff.mpr ⟨value, taken trailing, rfl⟩

theorem bind_pure
    {read : Reader α}
    {bytes : List UInt8}
    {value : α}
    (make : α → β)
    (taken : Takes read bytes value) :
    Takes (read >>= fun value => Pure.pure (make value)) bytes (make value) := by
  rw [← map_eq_pure_bind]
  exact taken.map make

end Takes

/-! ## Faithful forms -/

/-- Fewer bytes than a length in eight bytes can count, as whatever fits a memory has. -/
def Countable (bytes : List UInt8) : Prop :=
  bytes.length < Nat.pow 256 8

theorem Countable.of_append
    {first second : List UInt8}
    (countable : Countable (first ++ second)) : Countable first ∧ Countable second := by
  rw [Countable, List.length_append] at countable
  exact ⟨by rw [Countable]; omega, by rw [Countable]; omega⟩

/-- A way to write values and a way to read them that belong together. -/
structure Faithful
    (write : α → List UInt8)
    (read : Reader α) : Prop where
  /-- Every value takes bytes. -/
  nonempty : ∀ value, 0 < (write value).length
  /-- What was written is read, and nothing of what follows. -/
  reads : ∀ value, Countable (write value) → Takes read (write value) value
  /-- What was read is what would be written. -/
  writes : ∀ bytes value rest, read bytes = some (value, rest) → write value ++ rest = bytes

namespace Faithful

variable {write : α → List UInt8} {read : Reader α}
  {write' : β → List UInt8} {read' : Reader β}

/-- A reader refuses the bytes of a value that are cut off anywhere: were they read,
they would be read from the whole form too, with the missing bytes left over. -/
theorem refuses_cut
    (faithful : Faithful write read)
    {value : α}
    {part missing : List UInt8}
    (countable : Countable (write value))
    (whole : part ++ missing = write value)
    (cut : missing ≠ []) : read part = none := by
  rw [Option.eq_none_iff_forall_ne_some]
  rintro ⟨other, rest⟩ readable
  have written : write other ++ rest = part := faithful.writes _ _ _ readable
  have form : write other ++ (rest ++ missing) = write value := by
    rw [← List.append_assoc, written, whole]
  have otherCountable : Countable (write other) := by
    rw [← form] at countable
    exact countable.of_append.1
  have fromOther : read (write value) = some (other, rest ++ missing) := by
    rw [← form]
    exact faithful.reads other otherCountable _
  have fromValue : read (write value) = some (value, []) := by
    simpa using faithful.reads value countable []
  rw [fromOther] at fromValue
  have nothingLeft : rest ++ missing = [] := congrArg Prod.snd (Option.some.inj fromValue)
  exact cut (List.append_eq_nil_iff.mp nothingLeft).2

/-- One form after the other. -/
theorem pair
    (first : Faithful write read)
    (second : Faithful write' read') :
    Faithful
      (fun values : α × β => write values.1 ++ write' values.2)
      (do
        let value ← read
        let value' ← read'
        pure (value, value')) where
  nonempty values := by
    have positive := first.nonempty values.1
    rw [List.length_append]
    omega
  reads values countable := by
    obtain ⟨left, right⟩ := countable.of_append
    apply (first.reads values.1 left).bind
    exact (second.reads values.2 right).bind_pure fun value' => (values.1, value')
  writes bytes values rest readable := by
    obtain ⟨value, between, readFirst, remaining⟩ := Reader.bind_eq_some_iff.mp readable
    obtain ⟨value', after, readSecond, result⟩ := Reader.bind_eq_some_iff.mp remaining
    obtain ⟨rfl, rfl⟩ := Reader.pure_eq_some_iff.mp result
    rw [List.append_assoc, second.writes _ _ _ readSecond, first.writes _ _ _ readFirst]

/-- The same bytes for what is made of a value and can be split into it again. -/
theorem convert
    (parts : Faithful write read)
    (make : α → β)
    (split : β → α)
    (split_make : ∀ value, split (make value) = value)
    (make_split : ∀ value, make (split value) = value)
    (writing : ∀ value, write' value = write (split value))
    (reading : read' = make <$> read) : Faithful write' read' where
  nonempty value := by
    rw [writing]
    exact parts.nonempty _
  reads value countable := by
    rw [writing] at countable ⊢
    rw [reading]
    have made := (parts.reads _ countable).map make
    rwa [make_split] at made
  writes bytes value rest readable := by
    rw [reading] at readable
    obtain ⟨whole, readWhole, rfl⟩ := Reader.map_eq_some_iff.mp readable
    rw [writing, split_make]
    exact parts.writes _ _ _ readWhole

end Faithful

/-! ## Numbers -/

theorem length_number (width value : Nat) : (number width value).length = width := by
  induction width generalizing value with
  | zero => rfl
  | succ width inductionHypothesis => simp [number, inductionHypothesis]

private theorem pow_succ_256 (width : Nat) : Nat.pow 256 (width + 1) = Nat.pow 256 width * 256 :=
  rfl

theorem takes_number
    {width value : Nat}
    (fits : value < Nat.pow 256 width) : Takes (readNumber width) (number width value) value := by
  intro trailing
  induction width generalizing value with
  | zero =>
      have zero : value = 0 := by simpa using fits
      rw [zero]
      rfl
  | succ width inductionHypothesis =>
      have high : value / 256 < Nat.pow 256 width := by
        apply Nat.div_lt_of_lt_mul
        rwa [pow_succ_256, Nat.mul_comm] at fits
      have low : (UInt8.ofNat (value % 256)).toNat = value % 256 := by
        simp
      have joined : value % 256 + 256 * (value / 256) = value := Nat.mod_add_div value 256
      simp [number, readNumber, inductionHypothesis high, low, joined]

theorem number_of_readNumber
    {width value : Nat}
    {bytes rest : List UInt8}
    (readable : readNumber width bytes = some (value, rest)) :
    value < Nat.pow 256 width ∧ number width value ++ rest = bytes := by
  induction width generalizing bytes value with
  | zero =>
      obtain ⟨rfl, rfl⟩ : 0 = value ∧ bytes = rest := by simpa [readNumber] using readable
      exact ⟨by decide, rfl⟩
  | succ width inductionHypothesis =>
      cases bytes with
      | nil => simp [readNumber] at readable
      | cons byte bytes =>
          obtain ⟨⟨high, after⟩, readHigh, readable⟩ := Option.bind_eq_some_iff.mp readable
          obtain ⟨rfl, rfl⟩ : byte.toNat + 256 * high = value ∧ after = rest := by
            simpa using readable
          obtain ⟨fits, written⟩ := inductionHypothesis readHigh
          have byteFits : byte.toNat < 256 := byte.toNat_lt
          have low : (byte.toNat + 256 * high) % 256 = byte.toNat := by omega
          have above : (byte.toNat + 256 * high) / 256 = high := by omega
          constructor
          · rw [pow_succ_256]
            omega
          · simp [number, low, above, written]

/-! ## Single values -/

theorem truth_faithful : Faithful truth readTruth where
  nonempty value := by simp [truth]
  reads value _ := by
    intro trailing
    cases value <;> rfl
  writes bytes value rest readable := by
    cases bytes with
    | nil => simp [readTruth] at readable
    | cons byte bytes =>
        by_cases zero : byte = 0
        · obtain ⟨rfl, rfl⟩ : false = value ∧ bytes = rest := by
            simpa [readTruth, zero] using readable
          rw [zero]
          rfl
        · by_cases one : byte = 1
          · obtain ⟨rfl, rfl⟩ : true = value ∧ bytes = rest := by
              simpa [readTruth, one] using readable
            rw [one]
            rfl
          · simp [readTruth, zero, one] at readable

theorem int64_faithful : Faithful int64 readInt64 where
  nonempty value := by simp [int64, length_number]
  reads value _ := by
    have fits : value.toUInt64.toNat < Nat.pow 256 8 := value.toUInt64.toNat_lt
    have taken := (takes_number fits).bind_pure fun stored => (UInt64.ofNat stored).toInt64
    rwa [UInt64.ofNat_toNat, Int64.toInt64_toUInt64] at taken
  writes bytes value rest readable := by
    obtain ⟨stored, between, readStored, made⟩ := Reader.bind_eq_some_iff.mp readable
    obtain ⟨rfl, rfl⟩ := Reader.pure_eq_some_iff.mp made
    obtain ⟨fits, written⟩ := number_of_readNumber readStored
    have unchanged : (UInt64.ofNat stored).toNat = stored :=
      UInt64.toNat_ofNat_of_lt' fits
    rw [int64, UInt64.toUInt64_toInt64, unchanged, written]

/-! ## Texts -/

private theorem toList_loop
    (bytes : ByteArray)
    (index : Nat)
    (before : List UInt8) :
    ByteArray.toList.loop bytes index before = before.reverse ++ bytes.data.toList.drop index := by
  fun_induction ByteArray.toList.loop bytes index before with
  | case1 index before inside inductionHypothesis =>
      have inside' : index < bytes.data.toList.length := by simpa using inside
      rw [inductionHypothesis, List.drop_eq_getElem_cons inside']
      simp [ByteArray.get!, inside]
  | case2 index before outside =>
      rw [List.drop_eq_nil_of_le (by simpa using Nat.le_of_not_lt outside)]
      simp

private theorem toList_eq_data (bytes : ByteArray) : bytes.toList = bytes.data.toList := by
  simp [ByteArray.toList, toList_loop]

private theorem takes_bytes (bytes : List UInt8) : Takes (readBytes bytes.length) bytes bytes := by
  intro trailing
  simp [readBytes]

private theorem readBytes_eq_some
    {count : Nat}
    {bytes taken rest : List UInt8}
    (readable : readBytes count bytes = some (taken, rest)) :
    taken.length = count ∧ taken ++ rest = bytes := by
  by_cases enough : count ≤ bytes.length
  · obtain ⟨rfl, rfl⟩ : bytes.take count = taken ∧ bytes.drop count = rest := by
      simpa [readBytes, enough] using readable
    exact ⟨List.length_take_of_le enough, List.take_append_drop count bytes⟩
  · simp [readBytes, enough] at readable

private theorem fromUTF8?_toUTF8 (value : String) : String.fromUTF8? value.toUTF8 = some value := by
  simp [String.fromUTF8?, String.toUTF8, value.isValidUTF8, String.fromUTF8]

private theorem toUTF8_of_fromUTF8?
    {bytes : ByteArray}
    {value : String}
    (valid : String.fromUTF8? bytes = some value) : value.toUTF8 = bytes := by
  by_cases isValid : bytes.IsValidUTF8
  · obtain rfl : String.fromUTF8 bytes isValid = value := by
      simpa [String.fromUTF8?, isValid] using valid
    rfl
  · simp [String.fromUTF8?, isValid] at valid

theorem text_faithful : Faithful text readText where
  nonempty value := by
    rw [text, List.length_append, length_number]
    omega
  reads value countable := by
    have counted : value.toUTF8.toList.length < Nat.pow 256 8 := countable.of_append.2
    have decoded : String.fromUTF8? ⟨value.toUTF8.toList.toArray⟩ = some value := by
      rw [toList_eq_data]
      exact fromUTF8?_toUTF8 value
    apply (takes_number counted).bind
    intro trailing
    refine Reader.bind_eq_some_iff.mpr ⟨_, trailing, takes_bytes _ trailing, ?_⟩
    rw [decoded]
    rfl
  writes bytes value rest readable := by
    obtain ⟨count, afterCount, readCount, remaining⟩ := Reader.bind_eq_some_iff.mp readable
    obtain ⟨taken, afterText, readTaken, result⟩ := Reader.bind_eq_some_iff.mp remaining
    obtain ⟨-, writtenCount⟩ := number_of_readNumber readCount
    obtain ⟨rfl, writtenText⟩ := readBytes_eq_some readTaken
    cases decoded : String.fromUTF8? ⟨taken.toArray⟩ with
    | none =>
        rw [decoded] at result
        cases result
    | some decodedValue =>
        rw [decoded] at result
        obtain ⟨rfl, rfl⟩ := Reader.pure_eq_some_iff.mp result
        have same : decodedValue.toUTF8.toList = taken := by
          rw [toUTF8_of_fromUTF8? decoded, toList_eq_data]
        rw [text, same, List.append_assoc, writtenText, writtenCount]

/-! ## Lists -/

section Lists

variable {item : α → List UInt8} {readItem : Reader α}

private theorem length_le_flatMap
    (faithful : Faithful item readItem)
    (items : List α) : items.length ≤ (items.flatMap item).length := by
  induction items with
  | nil => simp
  | cons first rest inductionHypothesis =>
      have positive := faithful.nonempty first
      simp only [List.length_cons, List.flatMap_cons, List.length_append]
      omega

private theorem takes_items
    (faithful : Faithful item readItem)
    (items : List α)
    (countable : Countable (items.flatMap item)) :
    Takes (readItems readItem items.length) (items.flatMap item) items := by
  induction items with
  | nil => exact Takes.pure []
  | cons first rest inductionHypothesis =>
      rw [List.flatMap_cons] at countable ⊢
      obtain ⟨firstCountable, restCountable⟩ := countable.of_append
      apply (faithful.reads first firstCountable).bind
      exact (inductionHypothesis restCountable).bind_pure fun others => first :: others

private theorem items_of_readItems
    (faithful : Faithful item readItem)
    {count : Nat}
    {bytes rest : List UInt8}
    {items : List α}
    (readable : readItems readItem count bytes = some (items, rest)) :
    items.length = count ∧ items.flatMap item ++ rest = bytes := by
  induction count generalizing bytes items with
  | zero =>
      obtain ⟨rfl, rfl⟩ := Reader.pure_eq_some_iff.mp readable
      exact ⟨rfl, rfl⟩
  | succ count inductionHypothesis =>
      obtain ⟨first, between, readFirst, remaining⟩ := Reader.bind_eq_some_iff.mp readable
      obtain ⟨others, after, readOthers, result⟩ := Reader.bind_eq_some_iff.mp remaining
      obtain ⟨rfl, rfl⟩ := Reader.pure_eq_some_iff.mp result
      obtain ⟨length, written⟩ := inductionHypothesis readOthers
      refine ⟨by rw [List.length_cons, length], ?_⟩
      rw [List.flatMap_cons, List.append_assoc, written, faithful.writes _ _ _ readFirst]

theorem list_faithful (faithful : Faithful item readItem) :
    Faithful (list item) (readList readItem) where
  nonempty items := by
    rw [list, List.length_append, length_number]
    omega
  reads items countable := by
    have itemsCountable := countable.of_append.2
    have counted : items.length < Nat.pow 256 8 :=
      Nat.lt_of_le_of_lt (length_le_flatMap faithful items) itemsCountable
    exact (takes_number counted).bind (takes_items faithful items itemsCountable)
  writes bytes items rest readable := by
    obtain ⟨count, between, readCount, remaining⟩ := Reader.bind_eq_some_iff.mp readable
    obtain ⟨-, writtenCount⟩ := number_of_readNumber readCount
    obtain ⟨rfl, written⟩ := items_of_readItems faithful remaining
    rw [list, List.append_assoc, written, writtenCount]

end Lists

end ClauseBinding.Stored
