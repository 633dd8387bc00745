import Mathlib.Algebra.Order.Ring.Nat
import Mathlib.Data.List.AList
import ScannerButton.Bjnp.Serdes

/-
  The response to a get-identity command (`bjnp/src/identity.rs`): a big-endian `u16` total
  length, then `KEY:VALUE;` records. The `HashMap<String, String>` is an association list
  without duplicate keys, in the map's iteration order, and a `String` is its UTF-8 bytes:
  `;` and `:` are ASCII, so splitting the validated text at those bytes is splitting it at
  those characters.

  `str::from_utf8` is modelled as the standard library's `run_utf8_validation`: on failure it
  reports `valid_up_to` and `error_len`, which the decoder turns into an error value.

  Proved here: a response whose records are at most `u16::MAX` bytes long serializes, to
  `size()` bytes (`serialize_identity`). The decoder consumes exactly the length its prefix
  declares (`deserialize_consumed`), while the encoder writes `as_str_len`, not `2 +
  as_str_len`: no response round-trips (`deserialize_serialize_ne`), and the decoder reads
  two bytes short (`deserialize_serialize_one`). An invalid lead byte at the start of the body
  makes the decoder compute `valid_up_to() - 1` on 0, and panic (`deserialize_invalid_first`).
-/

namespace Bjnp.Identity

/-! ## UTF-8 validation -/

/-- `Utf8Error`: the length of the valid prefix, and the length of the invalid sequence after
    it, or `None` when the input ends inside a sequence. -/
structure Utf8Error where
  validUpTo : Nat
  errorLen : Option Nat
  deriving DecidableEq, Repr

/-- `utf8_char_width`. -/
def utf8CharWidth (b : UInt8) : Nat :=
  if b < 0x80 then 1 else if b < 0xC2 then 0 else if b < 0xE0 then 2
  else if b < 0xF0 then 3 else if b < 0xF5 then 4 else 0

/-- A continuation byte, `0x80..=0xBF` (`next as i8 < -64`). -/
def isCont (b : UInt8) : Bool := 0x80 ≤ b && b < 0xC0

/-- The second bytes `run_utf8_validation` accepts after a three-byte lead. -/
def secondOk3 (first second : UInt8) : Bool :=
  (first == 0xE0 && 0xA0 ≤ second && second ≤ 0xBF) ||
  (0xE1 ≤ first && first ≤ 0xEC && 0x80 ≤ second && second ≤ 0xBF) ||
  (first == 0xED && 0x80 ≤ second && second ≤ 0x9F) ||
  (0xEE ≤ first && first ≤ 0xEF && 0x80 ≤ second && second ≤ 0xBF)

/-- The second bytes `run_utf8_validation` accepts after a four-byte lead. -/
def secondOk4 (first second : UInt8) : Bool :=
  (first == 0xF0 && 0x90 ≤ second && second ≤ 0xBF) ||
  (0xF1 ≤ first && first ≤ 0xF3 && 0x80 ≤ second && second ≤ 0xBF) ||
  (first == 0xF4 && 0x80 ≤ second && second ≤ 0x8F)

/-- `run_utf8_validation`, from byte offset `offset`. Each `next!()` reports `None` when the
    input ends before the byte it reads. -/
def runUtf8Validation : Bytes → Nat → Outcome Utf8Error Unit
  | [], _ => .ok ()
  | first :: rest, offset =>
    if first < 0x80 then runUtf8Validation rest (offset + 1)
    else match utf8CharWidth first, rest with
      | 2, [] => .err ⟨offset, none⟩
      | 2, b1 :: rest =>
        if isCont b1 then runUtf8Validation rest (offset + 2) else .err ⟨offset, some 1⟩
      | 3, [] => .err ⟨offset, none⟩
      | 3, [b1] => .err ⟨offset, if secondOk3 first b1 then none else some 1⟩
      | 3, b1 :: b2 :: rest =>
        if !secondOk3 first b1 then .err ⟨offset, some 1⟩
        else if !isCont b2 then .err ⟨offset, some 2⟩
        else runUtf8Validation rest (offset + 3)
      | 4, [] => .err ⟨offset, none⟩
      | 4, [b1] => .err ⟨offset, if secondOk4 first b1 then none else some 1⟩
      | 4, [b1, b2] =>
        .err ⟨offset, if !secondOk4 first b1 then some 1 else if !isCont b2 then some 2
          else none⟩
      | 4, b1 :: b2 :: b3 :: rest =>
        if !secondOk4 first b1 then .err ⟨offset, some 1⟩
        else if !isCont b2 then .err ⟨offset, some 2⟩
        else if !isCont b3 then .err ⟨offset, some 3⟩
        else runUtf8Validation rest (offset + 4)
      | _, _ => .err ⟨offset, some 1⟩

/-- `str::from_utf8`, as far as its result is `Ok` or its `Utf8Error`. -/
def fromUtf8 (v : Bytes) : Outcome Utf8Error Unit := runUtf8Validation v 0

/-! ## Splitting the text -/

/-- `b';'` and `b':'`. -/
def SEMICOLON : UInt8 := 0x3B
def COLON : UInt8 := 0x3A

/-- `str::split_terminator(sep)`: `split`, without a trailing empty piece. -/
def splitTerminator (sep : UInt8) (text : Bytes) : List Bytes :=
  let parts := text.splitOn sep
  if parts.getLast? = some [] then parts.dropLast else parts

/-- `str::split_once(sep)`. -/
def splitOnce (sep : UInt8) (text : Bytes) : Option (Bytes × Bytes) :=
  match text.span (· != sep) with
  | (_, []) => none
  | (key, _ :: value) => some (key, value)

/-! ## The response -/

/-- `identity::Response(HashMap<String, String>)`. -/
structure Response where
  map : AList fun _ : Bytes => Bytes

theorem Response.ext_iff_entries {a b : Response} : a = b ↔ a.map.entries = b.map.entries := by
  constructor
  · rintro rfl; rfl
  · intro h; cases a; cases b; congr 1; exact AList.ext h

instance : DecidableEq Response := fun _ _ =>
  decidable_of_iff _ Response.ext_iff_entries.symm

/-- `collect::<HashMap<_, _>>()`: later records replace earlier ones with the same key. -/
def collect (records : List (Bytes × Bytes)) : Response :=
  ⟨records.foldl (fun m kv => m.insert kv.1 kv.2) ∅⟩

/-- `Response::as_str_len`. -/
def Response.asStrLen (r : Response) : Nat :=
  (r.map.entries.map fun kv => kv.1.length + kv.2.length + 2).sum

/-- `Display for Response`: `{key}:{value};` for every entry, in iteration order. -/
def Response.display (r : Response) : Bytes :=
  r.map.entries.flatMap fun kv => kv.1 ++ [COLON] ++ kv.2 ++ [SEMICOLON]

/-- `Serialize::serialize for Response`. -/
def Response.serialize (r : Response) : Outcome IoError Bytes :=
  if r.asStrLen < 65536 then .ok (u16ToBeBytes (UInt16.ofNat r.asStrLen) ++ r.display)
  else .err ⟨.invalidInput, "length of identity exceeds maximum limit (u16::MAX)"⟩

instance : Serialize Response := ⟨Response.serialize, fun r => 2 + r.asStrLen⟩

/-- The error the decoder builds from a `Utf8Error` of the declared body, where `buffer` is the
    input after the length field. -/
def utf8Failure (buffer : Bytes) (identityLen : Nat) (e : Utf8Error) : Outcome ParseError Bytes :=
  match e.errorLen with
  | some len =>
    if len > 1 then
      .err (.invalidFormat (.invalidSlice e.validUpTo (e.validUpTo + len) "invalid UTF-8 bytes"))
    -- `e.valid_up_to() - 1` underflows at 0: an overflow panic, or an out-of-bounds index
    else if e.validUpTo = 0 then .panic
    else .err (.invalidFormat (.invalidByte (buffer.getD (e.validUpTo - 1) 0) (e.validUpTo - 1)
      "invalid UTF-8 byte"))
  | none => .err (.unexpectedEnd (identityLen + 1) identityLen)

/-- `Deserialize for Response`. -/
def Response.deserialize (buffer : Bytes) : Outcome ParseError (Response × Nat) := do
  let identityLen ← Outcome.okOr (sliceGet buffer 0 2) (.unexpectedEnd 2 buffer.length)
  let identityLen := (u16FromBeBytes identityLen).toNat
  let buffer := buffer.drop 2
  if identityLen < 2 then
    .err (.invalidFormat (.invalidSlice 0 2 "invalid length of identity, should always be >=2"))
  else
    let identityLen := identityLen - 2
    let identity ← (Outcome.okOr (sliceGet buffer 0 identityLen)
      (.unexpectedEnd identityLen buffer.length)).offsetBy 2
    let identity ← match fromUtf8 identity with
      | .ok () => pure identity
      | .err e => utf8Failure buffer identityLen e
      | .panic => .panic
    let identityMap := collect ((splitTerminator SEMICOLON identity).filterMap (splitOnce COLON))
    pure (identityMap, identityLen + 2)

instance : Deserialize Response := ⟨Response.deserialize⟩

/-! ## Size law -/

theorem display_length (r : Response) : r.display.length = r.asStrLen := by
  simp only [Response.display, Response.asStrLen]
  induction r.map.entries with
  | nil => rfl
  | cons kv rest ih =>
    simp only [List.flatMap_cons, List.length_append, List.map_cons, List.sum_cons, ih,
      List.length_cons, List.length_singleton, List.length_nil]
    omega

/-- A response of at most `u16::MAX` record bytes serializes, to `size()` bytes. -/
theorem serialize_identity (r : Response) (h : r.asStrLen < 65536) :
    Serialize.serialize r = .ok (u16ToBeBytes (UInt16.ofNat r.asStrLen) ++ r.display) ∧
      (u16ToBeBytes (UInt16.ofNat r.asStrLen) ++ r.display).length = Serialize.size r := by
  refine ⟨if_pos h, ?_⟩
  simp [display_length]
  rfl

/-! ## Decoding -/

/-- The decoder consumes exactly the length its prefix declares. -/
theorem deserialize_consumed {buffer : Bytes} {r : Response} {n : Nat}
    (h : Response.deserialize buffer = .ok (r, n)) :
    n = (u16FromBeBytes (buffer.take 2)).toNat := by
  obtain ⟨len, hlen, h⟩ := Outcome.bind_eq_ok.mp h
  unfold sliceGet at hlen
  split at hlen
  · cases hlen
    simp only [Nat.sub_zero, List.drop_zero] at h
    split at h
    · cases h
    · obtain ⟨_, -, h⟩ := Outcome.bind_eq_ok.mp h
      split at h <;> obtain ⟨_, -, h⟩ := Outcome.bind_eq_ok.mp h <;> cases h <;> omega
  · cases hlen

/-- The identity codec does not round-trip: whatever the response and the trailing bytes, the
    decoder never returns the response with `size()` consumed, since the encoder's prefix is
    `as_str_len` and the decoder consumes exactly the prefix. -/
theorem deserialize_serialize_ne (r : Response) (t bytes : Bytes)
    (h : Serialize.serialize r = .ok bytes) :
    Response.deserialize (bytes ++ t) ≠ .ok (r, Serialize.size r) := by
  intro hd
  have hr : r.asStrLen < 65536 := by
    by_contra hn
    simp [Serialize.serialize, Response.serialize, hn] at h
  obtain ⟨h1, -⟩ := serialize_identity r hr
  rw [h1] at h
  cases h
  have := deserialize_consumed hd
  simp [Serialize.size, Nat.mod_eq_of_lt hr] at this

theorem deserialize_serialize_ne_one :
    Serialize.serialize (collect [([0x41], [0x42])]) = .ok [0x00, 0x04, 0x41, 0x3A, 0x42, 0x3B] ∧
      Response.deserialize ([0x00, 0x04, 0x41, 0x3A, 0x42, 0x3B] ++ []) ≠
        .ok (collect [([0x41], [0x42])], Serialize.size (collect [([0x41], [0x42])])) :=
  have h : Serialize.serialize (collect [([0x41], [0x42])]) =
      .ok [0x00, 0x04, 0x41, 0x3A, 0x42, 0x3B] := by decide
  ⟨h, deserialize_serialize_ne _ [] _ h⟩

/-- `{"A": "B"}` is written with the prefix 4; the decoder reads the body `A:` and returns
    `{"A": ""}`, consuming 4 of the 6 bytes. -/
theorem deserialize_serialize_one :
    serializeToVec (collect [([0x41], [0x42])]) = some [0x00, 0x04, 0x41, 0x3A, 0x42, 0x3B] ∧
      Response.deserialize [0x00, 0x04, 0x41, 0x3A, 0x42, 0x3B] = .ok (collect [([0x41], [])], 4) ∧
      Serialize.size (collect [([0x41], [0x42])]) = 6 := by
  decide

/-- A body whose first byte is a stray continuation byte: `from_utf8` reports
    `valid_up_to() = 0` and `error_len() = Some(1)`, and the decoder panics computing
    `valid_up_to() - 1`. -/
theorem deserialize_invalid_first :
    fromUtf8 [0x80] = .err ⟨0, some 1⟩ ∧ Response.deserialize [0x00, 0x03, 0x80] = .panic := by
  decide

end Bjnp.Identity
