import Mathlib.Data.String.Basic
import Mathlib.Tactic.SplitIfs

/-
  The `serdes` framework of the `bjnp` crate (`bjnp/src/serdes.rs`): byte strings, the two
  error types a decoder reports and how a nested decoder rebases them (`offset_by`), the
  `Serialize` and `Deserialize` contracts, the blanket `Deserialize` of a fixed-size record
  (`SizedDeserialize`), the empty payload, and the one-byte enumerations that
  `make_u8_field!` generates.

  A Rust call returns `Ok`, returns `Err`, or panics. `Outcome` has the three cases; a panic
  passes through every bind, as unwinding does, and through `map_err`. Serializers are
  modelled for the `Vec<u8>` sink the crate uses (`serialize_to_vec`): they return the bytes
  written, or the `io::Error` they raise themselves.

  Multi-byte integers are written and read through `toNat` with `/` and `%`, so the codec
  facts close by `omega`. Proved here: the `u16` and `u32` codecs are inverse; every
  `make_u8_field!` decoder inverts its encoder and reports an unknown byte as itself, at
  offset 0; the blanket sized decoder either reads exactly `SIZE` bytes or reports
  `UnexpectedEnd` with the buffer's length.
-/

namespace Bjnp

/-! ## Rust outcomes -/

/-- What a Rust call does: return `Ok a`, return `Err e`, or panic. -/
inductive Outcome (ε α : Type) where
  | ok (a : α)
  | err (e : ε)
  | panic
  deriving DecidableEq, Repr

namespace Outcome

variable {ε ε' α β : Type}

/-- `?` and sequencing: an `Err` returns early and a panic unwinds. -/
def bind : Outcome ε α → (α → Outcome ε β) → Outcome ε β
  | ok a, f => f a
  | err e, _ => err e
  | panic, _ => panic

instance : Monad (Outcome ε) where
  pure := ok
  bind := Outcome.bind

@[simp] theorem pure_eq (a : α) : (pure a : Outcome ε α) = ok a := rfl

@[simp] theorem ok_bind (a : α) (f : α → Outcome ε β) : (ok a >>= f) = f a := rfl

@[simp] theorem err_bind (e : ε) (f : α → Outcome ε β) : (err e >>= f) = err e := rfl

@[simp] theorem panic_bind (f : α → Outcome ε β) : (panic >>= f) = panic := rfl

theorem bind_eq_ok {x : Outcome ε α} {f : α → Outcome ε β} {b : β} :
    x >>= f = ok b ↔ ∃ a, x = ok a ∧ f a = ok b := by
  cases x <;> simp

theorem bind_eq_err {x : Outcome ε α} {f : α → Outcome ε β} {e : ε} :
    x >>= f = err e ↔ x = err e ∨ ∃ a, x = ok a ∧ f a = err e := by
  cases x <;> simp

theorem bind_eq_panic {x : Outcome ε α} {f : α → Outcome ε β} :
    x >>= f = panic ↔ x = panic ∨ ∃ a, x = ok a ∧ f a = panic := by
  cases x <;> simp

theorem exists_bind_eq_ok {x : Outcome ε α} {f : α → Outcome ε β} :
    (∃ b, x >>= f = ok b) ↔ ∃ a, x = ok a ∧ ∃ b, f a = ok b := by
  cases x <;> simp

theorem ite_bind (c : Prop) [Decidable c] (x y : Outcome ε α) (f : α → Outcome ε β) :
    (if c then x else y) >>= f = if c then x >>= f else y >>= f := by
  split <;> rfl

/-- `Result::map_err`. A panic is not an error value and passes through. -/
def mapErr (f : ε → ε') : Outcome ε α → Outcome ε' α
  | ok a => ok a
  | err e => err (f e)
  | panic => panic

@[simp] theorem mapErr_ok (f : ε → ε') (a : α) : (ok a : Outcome ε α).mapErr f = ok a := rfl

@[simp] theorem mapErr_err (f : ε → ε') (e : ε) : (err e : Outcome ε α).mapErr f = err (f e) :=
  rfl

@[simp] theorem mapErr_panic (f : ε → ε') : (panic : Outcome ε α).mapErr f = panic := rfl

/-- `Result::map`. -/
def map (f : α → β) : Outcome ε α → Outcome ε β
  | ok a => ok (f a)
  | err e => err e
  | panic => panic

@[simp] theorem map_ok (f : α → β) (a : α) : (ok a : Outcome ε α).map f = ok (f a) := rfl

@[simp] theorem map_err (f : α → β) (e : ε) : (err e : Outcome ε α).map f = err e := rfl

@[simp] theorem map_panic (f : α → β) : (panic : Outcome ε α).map f = panic := rfl

/-- `Result::unwrap` and `Option::unwrap` on a result: an `Err` panics. -/
def unwrap : Outcome ε α → Outcome ε' α
  | ok a => ok a
  | _ => panic

/-- `Option::ok_or`. -/
def okOr (o : Option α) (e : ε) : Outcome ε α :=
  match o with
  | some a => ok a
  | none => err e

/-- `Option::unwrap` inside a computation that may panic. -/
def ofOption : Option α → Outcome ε α
  | some a => ok a
  | none => panic

@[simp] theorem okOr_some (a : α) (e : ε) : okOr (some a) e = ok a := rfl

@[simp] theorem okOr_none (e : ε) : okOr (none : Option α) e = err e := rfl

@[simp] theorem ofOption_some (a : α) : (ofOption (some a) : Outcome ε α) = ok a := rfl

@[simp] theorem ofOption_none : (ofOption none : Outcome ε α) = panic := rfl

@[simp] theorem okOr_eq_ok {o : Option α} {e : ε} {a : α} : okOr o e = ok a ↔ o = some a := by
  cases o <;> simp

@[simp] theorem ofOption_eq_ok {o : Option α} {a : α} :
    (ofOption o : Outcome ε α) = ok a ↔ o = some a := by
  cases o <;> simp

@[simp] theorem map_eq_ok {f : α → β} {x : Outcome ε α} {b : β} :
    x.map f = ok b ↔ ∃ a, x = ok a ∧ f a = b := by
  cases x <;> simp

@[simp] theorem mapErr_eq_ok {f : ε → ε'} {x : Outcome ε α} {a : α} :
    x.mapErr f = ok a ↔ x = ok a := by
  cases x <;> simp

@[simp] theorem map_eq_panic {f : α → β} {x : Outcome ε α} : x.map f = panic ↔ x = panic := by
  cases x <;> simp

@[simp] theorem mapErr_eq_panic {f : ε → ε'} {x : Outcome ε α} :
    x.mapErr f = panic ↔ x = panic := by
  cases x <;> simp

@[simp] theorem okOr_ne_panic (o : Option α) (e : ε) : okOr o e ≠ panic := by
  cases o <;> nofun

@[simp] theorem ofOption_eq_panic {o : Option α} : (ofOption o : Outcome ε α) = panic ↔ o = none := by
  cases o <;> simp

end Outcome

/-! ## Bytes and big-endian words -/

/-- A byte string: `&[u8]`, `Vec<u8>`, or a packed `[u8; N]`. -/
abbrev Bytes := List UInt8

/-- `u16::to_be_bytes`. -/
def u16ToBeBytes (x : UInt16) : Bytes :=
  [UInt8.ofNat (x.toNat / 256), UInt8.ofNat x.toNat]

/-- `u16::from_be_bytes` of a `[u8; 2]`. -/
def u16FromBeBytes (b : Bytes) : UInt16 :=
  UInt16.ofNat ((b.getD 0 0).toNat * 256 + (b.getD 1 0).toNat)

/-- `u32::to_be_bytes`. -/
def u32ToBeBytes (x : UInt32) : Bytes :=
  [UInt8.ofNat (x.toNat / 16777216), UInt8.ofNat (x.toNat / 65536),
    UInt8.ofNat (x.toNat / 256), UInt8.ofNat x.toNat]

/-- `u32::from_be_bytes` of a `[u8; 4]`. -/
def u32FromBeBytes (b : Bytes) : UInt32 :=
  UInt32.ofNat ((b.getD 0 0).toNat * 16777216 + (b.getD 1 0).toNat * 65536 +
    (b.getD 2 0).toNat * 256 + (b.getD 3 0).toNat)

@[simp] theorem u8_toNat_ofNat (n : Nat) : (UInt8.ofNat n).toNat = n % 256 := by
  simp [UInt8.toNat, UInt8.ofNat]

@[simp] theorem u16_toNat_ofNat (n : Nat) : (UInt16.ofNat n).toNat = n % 65536 := by
  simp [UInt16.toNat, UInt16.ofNat]

@[simp] theorem u32_toNat_ofNat (n : Nat) : (UInt32.ofNat n).toNat = n % 4294967296 := by
  simp [UInt32.toNat, UInt32.ofNat]

@[simp] theorem u8_ofNat_toNat (a : UInt8) : UInt8.ofNat a.toNat = a :=
  UInt8.toNat.inj (by simpa using Nat.mod_eq_of_lt a.toNat_lt)

@[simp] theorem u16ToBeBytes_length (x : UInt16) : (u16ToBeBytes x).length = 2 := rfl

@[simp] theorem u32ToBeBytes_length (x : UInt32) : (u32ToBeBytes x).length = 4 := rfl

@[simp] theorem u16FromBeBytes_toBeBytes (x : UInt16) : u16FromBeBytes (u16ToBeBytes x) = x := by
  have := x.toNat_lt
  apply UInt16.toNat.inj
  simp [u16FromBeBytes, u16ToBeBytes]
  omega

@[simp] theorem u32FromBeBytes_toBeBytes (x : UInt32) : u32FromBeBytes (u32ToBeBytes x) = x := by
  have := x.toNat_lt
  apply UInt32.toNat.inj
  simp [u32FromBeBytes, u32ToBeBytes]
  omega

theorem u16ToBeBytes_fromBeBytes (b : Bytes) (h : b.length = 2) :
    u16ToBeBytes (u16FromBeBytes b) = b := by
  match b, h with
  | [x, y], _ =>
    have := x.toNat_lt; have := y.toNat_lt
    simp only [u16ToBeBytes, u16FromBeBytes, List.cons.injEq, and_true, List.getD_cons_zero,
      List.getD_cons_succ, u16_toNat_ofNat]
    constructor <;> apply UInt8.toNat.inj <;> rw [u8_toNat_ofNat] <;> omega

theorem u32ToBeBytes_fromBeBytes (b : Bytes) (h : b.length = 4) :
    u32ToBeBytes (u32FromBeBytes b) = b := by
  match b, h with
  | [x, y, z, w], _ =>
    have := x.toNat_lt; have := y.toNat_lt; have := z.toNat_lt; have := w.toNat_lt
    simp only [u32ToBeBytes, u32FromBeBytes, List.cons.injEq, and_true, List.getD_cons_zero,
      List.getD_cons_succ, u32_toNat_ofNat]
    refine ⟨?_, ?_, ?_, ?_⟩ <;> apply UInt8.toNat.inj <;> rw [u8_toNat_ofNat] <;> omega

/-- `buffer.get(start..stop)`: the sub-slice, or `None` when the range is not inside. -/
def sliceGet (buffer : Bytes) (start stop : Nat) : Option Bytes :=
  if start ≤ stop ∧ stop ≤ buffer.length then some ((buffer.drop start).take (stop - start))
  else none

theorem sliceGet_eq_some {buffer : Bytes} {start stop : Nat} (h : start ≤ stop)
    (hs : stop ≤ buffer.length) :
    sliceGet buffer start stop = some ((buffer.drop start).take (stop - start)) := by
  simp [sliceGet, h, hs]

theorem sliceGet_eq_none {buffer : Bytes} {start stop : Nat} (h : buffer.length < stop) :
    sliceGet buffer start stop = none := by
  simp [sliceGet]
  omega

/-! ## Errors and their offsets -/

/-- `FormatError`: a defect located in the wire bytes. -/
inductive FormatError where
  | invalidByte (byte : UInt8) (offset : Nat) (message : String)
  | invalidSlice (start stop : Nat) (message : String)
  deriving DecidableEq, Repr

/-- `ParseError`: a format defect, or a buffer shorter than the record. -/
inductive ParseError where
  | invalidFormat (e : FormatError)
  | unexpectedEnd (expected actual : Nat)
  deriving DecidableEq, Repr

/-- `trait OffsetError`: rebase an error reported by a nested decoder. -/
class OffsetError (ε : Type) where
  offsetBy : ε → Nat → ε

/-- `OffsetError for FormatError`: shift the offset, or both ends of the span. -/
def FormatError.offsetBy : FormatError → Nat → FormatError
  | .invalidByte byte offset message, n => .invalidByte byte (offset + n) message
  | .invalidSlice start stop message, n => .invalidSlice (start + n) (stop + n) message

/-- `OffsetError for ParseError`: `UnexpectedEnd` shifts `expected` and keeps `actual`. -/
def ParseError.offsetBy : ParseError → Nat → ParseError
  | .invalidFormat e, n => .invalidFormat (e.offsetBy n)
  | .unexpectedEnd expected actual, n => .unexpectedEnd (expected + n) actual

instance : OffsetError FormatError := ⟨FormatError.offsetBy⟩

instance : OffsetError ParseError := ⟨ParseError.offsetBy⟩

/-- `OffsetError for Result<U, T>`. -/
def Outcome.offsetBy {ε α : Type} [OffsetError ε] (r : Outcome ε α) (n : Nat) : Outcome ε α :=
  r.mapErr (OffsetError.offsetBy · n)

@[simp] theorem offsetBy_ok {ε α : Type} [OffsetError ε] (a : α) (n : Nat) :
    (Outcome.ok a : Outcome ε α).offsetBy n = .ok a := rfl

@[simp] theorem offsetBy_panic {ε α : Type} [OffsetError ε] (n : Nat) :
    (Outcome.panic : Outcome ε α).offsetBy n = .panic := rfl

@[simp] theorem offsetBy_err {ε α : Type} [OffsetError ε] (e : ε) (n : Nat) :
    (Outcome.err e : Outcome ε α).offsetBy n = .err (OffsetError.offsetBy e n) := rfl

@[simp] theorem offsetBy_eq_ok {ε α : Type} [OffsetError ε] {x : Outcome ε α} {n : Nat} {a : α} :
    x.offsetBy n = .ok a ↔ x = .ok a := by
  cases x <;> simp [Outcome.offsetBy]

@[simp] theorem offsetBy_eq_panic {ε α : Type} [OffsetError ε] {x : Outcome ε α} {n : Nat} :
    x.offsetBy n = .panic ↔ x = .panic := by
  cases x <;> simp [Outcome.offsetBy]

/-! ## The codec contracts -/

/-- `io::ErrorKind`, as far as the crate raises one itself. -/
inductive IoErrorKind where
  | invalidInput
  deriving DecidableEq, Repr

/-- `io::Error::new(kind, message)`. -/
structure IoError where
  kind : IoErrorKind
  message : String
  deriving DecidableEq, Repr

/-- `trait Serialize`, for the `Vec<u8>` sink: the bytes written, and `size()`. -/
class Serialize (α : Type) where
  serialize : α → Outcome IoError Bytes
  size : α → Nat

/-- `Serialize::serialize_to_vec`: the bytes, or `none` where the `unwrap` panics. -/
def serializeToVec {α : Type} [Serialize α] (x : α) : Option Bytes :=
  match Serialize.serialize x with
  | .ok b => some b
  | _ => none

theorem serializeToVec_eq {α : Type} [Serialize α] {x : α} {b : Bytes}
    (h : Serialize.serialize x = .ok b) : serializeToVec x = some b := by
  simp [serializeToVec, h]

/-- `trait Deserialize`: a value decoded from a prefix, and how many bytes it took. -/
class Deserialize (α : Type) where
  deserialize : Bytes → Outcome ParseError (α × Nat)

/-- The blanket `impl<T: SizedDeserialize> Deserialize for T`, given `T::SIZE` and
    `T::deserialize_exact`. -/
def sizedDeserialize {α : Type} (SIZE : Nat) (deserializeExact : Bytes → Outcome FormatError α)
    (buffer : Bytes) : Outcome ParseError (α × Nat) :=
  if buffer.length < SIZE then .err (.unexpectedEnd SIZE buffer.length)
  else do
    let v ← (deserializeExact buffer).mapErr .invalidFormat
    pure (v, SIZE)

section Sized

variable {α : Type} {SIZE : Nat} {exact : Bytes → Outcome FormatError α} {buffer : Bytes}

theorem sizedDeserialize_short (h : buffer.length < SIZE) :
    sizedDeserialize SIZE exact buffer = .err (.unexpectedEnd SIZE buffer.length) := by
  simp [sizedDeserialize, h]

theorem sizedDeserialize_long (h : SIZE ≤ buffer.length) :
    sizedDeserialize SIZE exact buffer = ((exact buffer).mapErr .invalidFormat >>= fun v =>
      pure (v, SIZE)) := by
  simp [sizedDeserialize, Nat.not_lt.mpr h]

/-- The blanket decoder panics only where `deserialize_exact` does, on a buffer long enough. -/
theorem sizedDeserialize_eq_panic :
    sizedDeserialize SIZE exact buffer = .panic ↔ SIZE ≤ buffer.length ∧ exact buffer = .panic := by
  unfold sizedDeserialize
  split
  · simp; omega
  · simp [Outcome.bind_eq_panic]; omega

/-- A record whose conversion never panics decodes without panicking. -/
theorem sizedDeserialize_ne_panic (h : ∀ b, exact b ≠ .panic) :
    sizedDeserialize SIZE exact buffer ≠ .panic :=
  fun hp => h _ (sizedDeserialize_eq_panic.mp hp).2

/-- The blanket decoder consumes exactly `SIZE` bytes when it succeeds. -/
theorem sizedDeserialize_eq_ok {v : α} {n : Nat}
    (h : sizedDeserialize SIZE exact buffer = .ok (v, n)) :
    n = SIZE ∧ SIZE ≤ buffer.length ∧ exact buffer = .ok v := by
  unfold sizedDeserialize at h
  split at h
  · cases h
  · rcases hx : exact buffer with a | e | _ <;> simp_all [Outcome.mapErr]

end Sized

/-- `serdes::Empty`, the payload of no bytes. -/
structure Empty where
  deriving DecidableEq, Repr

instance : Serialize Empty := ⟨fun _ => .ok [], fun _ => 0⟩

instance : Deserialize Empty := ⟨fun _ => .ok (⟨⟩, 0)⟩

/-! ## One-byte enumerations (`make_u8_field!`) -/

/-- An enumeration declared with `make_u8_field!`: its display name, its variants and their
    codes (`variant as u8`). The codes are distinct. -/
class U8Field (α : Type) where
  fieldName : String
  variants : List α
  code : α → UInt8
  mem_variants : ∀ v, v ∈ variants
  code_injective : Function.Injective code

/-- The `TryFrom<u8>` that `make_u8_field!` generates. -/
def U8Field.tryFrom {α : Type} [U8Field α] (value : UInt8) : Outcome FormatError α :=
  match (U8Field.variants : List α).find? (fun v => U8Field.code v == value) with
  | some v => .ok v
  | none => .err (.invalidByte value 0 ("unknown " ++ @U8Field.fieldName α _))

/-- `value` is the code of a variant: the bytes `try_from` accepts. -/
def U8Field.isCode (α : Type) [U8Field α] (value : UInt8) : Bool :=
  (U8Field.variants : List α).any fun v => U8Field.code v == value

namespace U8Field

variable {α : Type} [U8Field α]

@[simp] theorem tryFrom_code (v : α) : tryFrom (code v) = .ok v := by
  unfold tryFrom
  split
  · next w hw =>
    have := List.find?_some hw
    simp only [beq_iff_eq] at this
    rw [code_injective this]
  · next hn =>
    have := List.find?_eq_none.mp hn v (mem_variants v)
    simp at this

theorem tryFrom_eq_ok {b : UInt8} {v : α} (h : tryFrom b = .ok v) : code v = b := by
  unfold tryFrom at h
  split at h
  · next w hw => cases h; simpa using List.find?_some hw
  · cases h

/-- An unknown byte is reported as itself, at offset 0 of the byte. -/
theorem tryFrom_eq_err {b : UInt8} {e : FormatError} (h : (tryFrom b : Outcome _ α) = .err e) :
    ∃ message, e = .invalidByte b 0 message := by
  unfold tryFrom at h
  split at h
  · cases h
  · cases h; exact ⟨_, rfl⟩

theorem tryFrom_ne_panic (b : UInt8) : (tryFrom b : Outcome _ α) ≠ .panic := by
  unfold tryFrom
  split <;> simp

/-- A byte decodes exactly when it is the code of a variant. -/
theorem exists_tryFrom_eq_ok (b : UInt8) :
    (∃ v : α, tryFrom b = .ok v) ↔ ∃ v : α, code v = b :=
  ⟨fun ⟨v, h⟩ => ⟨v, tryFrom_eq_ok h⟩, fun ⟨v, h⟩ => ⟨v, h ▸ tryFrom_code v⟩⟩

theorem isCode_iff {b : UInt8} : isCode α b = true ↔ ∃ v : α, code v = b := by
  simp [isCode, mem_variants]

/-- A byte that is no variant's code is refused as itself, at offset 0, naming the field. -/
theorem tryFrom_of_isCode_false {b : UInt8} (h : isCode α b = false) :
    (tryFrom b : Outcome _ α) = .err (.invalidByte b 0 ("unknown " ++ @fieldName α _)) := by
  cases hv : (tryFrom b : Outcome _ α) with
  | ok v =>
    have : isCode α b = true := isCode_iff.mpr ⟨v, tryFrom_eq_ok hv⟩
    rw [h] at this
    cases this
  | err e =>
    unfold tryFrom at hv
    split at hv <;> cases hv
    rfl
  | panic => exact absurd hv (tryFrom_ne_panic b)

end U8Field

end Bjnp
