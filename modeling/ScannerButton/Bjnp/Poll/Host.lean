import Mathlib.Algebra.BigOperators.Group.List
import Mathlib.Algebra.Divisibility.Basic
import Mathlib.Tactic.IntervalCases
import ScannerButton.Bjnp.Serdes

/-
  The display hostname of a poll command (`bjnp/src/poll/command.rs`, `Host`): 64 bytes, the
  big-endian encoding of 32 UTF-16 code units. `Host::new` copies the characters' code units
  into a `[u16; 32]` buffer until one does not fit; it then backs off, character by
  character, until three `.` fit, using `prev_len`, a `u8` holding the UTF-16 lengths of the
  last four characters in 2-bit fields. The back-off is a `while` loop with no bound of its
  own, so `backOff` takes the number of iterations it may run as `fuel`.

  Proved here (`host_new_eq`): for every string, `Host::new` finishes with four iterations of
  the back-off to spare, and `into_buf` of the result is the string's code units padded with
  zeros when they fit in 32, and otherwise the code units of the longest prefix that fits in
  29, then `...`, then zeros. `fitPrefix` is that prefix (`fitPrefix_longest`).

  `Display for Host` decodes all 32 units with `String::from_utf16_lossy` (`fromUtf16Lossy`),
  which inverts the encoder on every character sequence (`fromUtf16Lossy_utf16`). So the display
  of `Host::new(s)` is the characters it stored followed by a NUL for each zero unit
  (`host_display_new`), and `Host::new("a")` displays as `a` and 31 NULs (`host_display_a`).
-/

namespace Bjnp.Poll

/-! ## UTF-16 -/

/-- `char::len_utf16`. -/
def lenUtf16 (c : Char) : Nat := if c.toNat < 0x10000 then 1 else 2

/-- `char::encode_utf16`: one code unit, or a surrogate pair. -/
def encodeUtf16 (c : Char) : List UInt16 :=
  if c.toNat < 0x10000 then [UInt16.ofNat c.toNat]
  else [UInt16.ofNat (0xD800 + (c.toNat - 0x10000) / 1024),
    UInt16.ofNat (0xDC00 + (c.toNat - 0x10000) % 1024)]

/-- The code units of a character sequence (`str::encode_utf16`). -/
def utf16 (cs : List Char) : List UInt16 := cs.flatMap encodeUtf16

/-- The UTF-16 length of a character sequence. -/
def utf16Len (cs : List Char) : Nat := (cs.map lenUtf16).sum

@[simp] theorem encodeUtf16_length (c : Char) : (encodeUtf16 c).length = lenUtf16 c := by
  unfold encodeUtf16 lenUtf16; split <;> rfl

theorem lenUtf16_pos (c : Char) : 1 ≤ lenUtf16 c := by unfold lenUtf16; split <;> omega

theorem lenUtf16_le (c : Char) : lenUtf16 c ≤ 2 := by unfold lenUtf16; split <;> omega

@[simp] theorem utf16Len_nil : utf16Len [] = 0 := rfl

@[simp] theorem utf16Len_cons (c : Char) (cs : List Char) :
    utf16Len (c :: cs) = lenUtf16 c + utf16Len cs := by simp [utf16Len]

@[simp] theorem utf16Len_append (xs ys : List Char) :
    utf16Len (xs ++ ys) = utf16Len xs + utf16Len ys := by simp [utf16Len]

@[simp] theorem utf16_append (xs ys : List Char) : utf16 (xs ++ ys) = utf16 xs ++ utf16 ys := by
  simp [utf16]

@[simp] theorem utf16_singleton (c : Char) : utf16 [c] = encodeUtf16 c := by simp [utf16]

@[simp] theorem utf16Len_reverse (cs : List Char) : utf16Len cs.reverse = utf16Len cs := by
  simp [utf16Len, List.sum_reverse]

@[simp] theorem utf16_length (cs : List Char) : (utf16 cs).length = utf16Len cs := by
  induction cs with
  | nil => rfl
  | cons c cs ih => simp [utf16, utf16Len] at *; omega

theorem length_le_utf16Len (cs : List Char) : cs.length ≤ utf16Len cs := by
  induction cs with
  | nil => rfl
  | cons c cs ih => have := lenUtf16_pos c; simp; omega

theorem utf16Len_le_length (cs : List Char) : utf16Len cs ≤ 2 * cs.length := by
  induction cs with
  | nil => rfl
  | cons c cs ih => have := lenUtf16_le c; simp; omega

/-! ## Lossy UTF-16 decoding -/

/-- `u16::is_utf16_surrogate`. -/
def isUtf16Surrogate (u : UInt16) : Bool := 0xD800 ≤ u.toNat && u.toNat ≤ 0xDFFF

/-- `char::REPLACEMENT_CHARACTER`, U+FFFD. -/
def REPLACEMENT_CHARACTER : Char := Char.ofNat 0xFFFD

/-- `String::from_utf16_lossy`: `char::decode_utf16`, each error replaced by U+FFFD. A unit
    outside the surrogates is its own character; a high surrogate and a low one after it are
    one character; any other surrogate is an error, and the unit after a lone high surrogate
    is decoded afresh. -/
def fromUtf16Lossy : List UInt16 → List Char
  | [] => []
  | u :: rest =>
    if !isUtf16Surrogate u then Char.ofNat u.toNat :: fromUtf16Lossy rest
    else if 0xDC00 ≤ u.toNat then REPLACEMENT_CHARACTER :: fromUtf16Lossy rest
    else match rest with
      | [] => [REPLACEMENT_CHARACTER]
      | u2 :: rest2 =>
        if u2.toNat < 0xDC00 || 0xDFFF < u2.toNat then
          REPLACEMENT_CHARACTER :: fromUtf16Lossy (u2 :: rest2)
        else Char.ofNat ((((u &&& 0x3FF).toNat <<< 10) ||| (u2 &&& 0x3FF).toNat) + 0x10000) ::
          fromUtf16Lossy rest2

example : fromUtf16Lossy [0x61, 0xD83D, 0xDE00, 0xD800, 0x62, 0xDC00, 0] =
    ['a', Char.ofNat 0x1F600, REPLACEMENT_CHARACTER, 'b', REPLACEMENT_CHARACTER, Char.ofNat 0] := by
  decide

/-- A `char` is a Unicode scalar value: below the surrogates, or above them and below
    `0x110000`. -/
theorem char_toNat_valid (c : Char) :
    c.toNat < 0xD800 ∨ (0xDFFF < c.toNat ∧ c.toNat < 0x110000) := by
  rcases c.valid with h | ⟨h1, h2⟩
  · exact .inl h
  · exact .inr ⟨h1, h2⟩

theorem and_low_ten (u : UInt16) : (u &&& 0x3FF).toNat = u.toNat % 1024 := by
  rw [UInt16.and_toNat]
  exact Nat.and_pow_two_sub_one_eq_mod u.toNat 10

theorem shiftLeft_ten_or (a b : Nat) (hb : b < 1024) : a <<< 10 ||| b = a * 1024 + b := by
  rw [Nat.shiftLeft_eq, Nat.mul_comm, ← Nat.mul_add_lt_is_or (show b < 2 ^ 10 from hb)]

theorem fromUtf16Lossy_cons_of_lt {u : UInt16} (h : ¬ (0xD800 ≤ u.toNat ∧ u.toNat ≤ 0xDFFF))
    (rest : List UInt16) : fromUtf16Lossy (u :: rest) = Char.ofNat u.toNat :: fromUtf16Lossy rest := by
  cases rest <;> simp [fromUtf16Lossy, isUtf16Surrogate, h]

theorem fromUtf16Lossy_pair {hi lo : UInt16} (hhi : 0xD800 ≤ hi.toNat ∧ hi.toNat < 0xDC00)
    (hlo : 0xDC00 ≤ lo.toNat ∧ lo.toNat ≤ 0xDFFF) (rest : List UInt16) :
    fromUtf16Lossy (hi :: lo :: rest) =
      Char.ofNat (hi.toNat % 1024 * 1024 + lo.toNat % 1024 + 0x10000) :: fromUtf16Lossy rest := by
  have hs : isUtf16Surrogate hi = true := by simp [isUtf16Surrogate]; omega
  simp only [fromUtf16Lossy, hs, Bool.not_true, Bool.false_eq_true, if_false,
    if_neg (show ¬ 0xDC00 ≤ hi.toNat by omega)]
  rw [if_neg (by simp; omega), and_low_ten, and_low_ten, shiftLeft_ten_or _ _ (by omega)]

theorem fromUtf16Lossy_encodeUtf16 (c : Char) (rest : List UInt16) :
    fromUtf16Lossy (encodeUtf16 c ++ rest) = c :: fromUtf16Lossy rest := by
  have hc := char_toNat_valid c
  unfold encodeUtf16
  split_ifs with hlt
  · have hu : (UInt16.ofNat c.toNat).toNat = c.toNat := by
      rw [u16_toNat_ofNat, Nat.mod_eq_of_lt (by omega)]
    rw [List.singleton_append, fromUtf16Lossy_cons_of_lt (by rw [hu]; omega), hu, Char.ofNat_toNat]
  · have hhi : (UInt16.ofNat (0xD800 + (c.toNat - 0x10000) / 1024)).toNat =
        0xD800 + (c.toNat - 0x10000) / 1024 := by
      rw [u16_toNat_ofNat, Nat.mod_eq_of_lt (by omega)]
    have hlo : (UInt16.ofNat (0xDC00 + (c.toNat - 0x10000) % 1024)).toNat =
        0xDC00 + (c.toNat - 0x10000) % 1024 := by
      rw [u16_toNat_ofNat, Nat.mod_eq_of_lt (by omega)]
    have hn : (0xD800 + (c.toNat - 0x10000) / 1024) % 1024 * 1024 +
        (0xDC00 + (c.toNat - 0x10000) % 1024) % 1024 + 0x10000 = c.toNat := by omega
    rw [List.cons_append, List.singleton_append,
      fromUtf16Lossy_pair (by rw [hhi]; omega) (by rw [hlo]; omega), hhi, hlo, hn,
      Char.ofNat_toNat]

theorem fromUtf16Lossy_utf16 (cs : List Char) (rest : List UInt16) :
    fromUtf16Lossy (utf16 cs ++ rest) = cs ++ fromUtf16Lossy rest := by
  induction cs with
  | nil => rfl
  | cons c cs ih =>
    rw [show utf16 (c :: cs) = encodeUtf16 c ++ utf16 cs by simp [utf16], List.append_assoc,
      fromUtf16Lossy_encodeUtf16, ih, List.cons_append]

theorem fromUtf16Lossy_replicate_zero (k : Nat) :
    fromUtf16Lossy (List.replicate k 0) = List.replicate k (Char.ofNat 0) := by
  induction k with
  | zero => rfl
  | succ k ih => rw [List.replicate_succ, fromUtf16Lossy_cons_of_lt (by decide), ih]; rfl

/-! ## The longest prefix that fits -/

/-- The longest prefix of `cs` whose UTF-16 length is at most `n`. -/
def fitPrefix : List Char → Nat → List Char
  | [], _ => []
  | c :: cs, n => if lenUtf16 c ≤ n then c :: fitPrefix cs (n - lenUtf16 c) else []

theorem fitPrefix_of_le {cs : List Char} {n : Nat} (h : utf16Len cs ≤ n) : fitPrefix cs n = cs := by
  induction cs generalizing n with
  | nil => rfl
  | cons c cs ih =>
    simp at h
    simp [fitPrefix, show lenUtf16 c ≤ n by omega, ih (show utf16Len cs ≤ n - lenUtf16 c by omega)]

theorem fitPrefix_append_of_lt {xs : List Char} {n : Nat} (ys : List Char) (h : n < utf16Len xs) :
    fitPrefix (xs ++ ys) n = fitPrefix xs n := by
  induction xs generalizing n with
  | nil => simp at h
  | cons c xs ih =>
    simp at h
    by_cases hc : lenUtf16 c ≤ n
    · simp [fitPrefix, hc, ih (show n - lenUtf16 c < utf16Len xs by omega)]
    · simp [fitPrefix, hc]

theorem fitPrefix_append_of_le {xs : List Char} {n : Nat} (ys : List Char)
    (h : utf16Len xs ≤ n) : fitPrefix (xs ++ ys) n = xs ++ fitPrefix ys (n - utf16Len xs) := by
  induction xs generalizing n with
  | nil => rfl
  | cons c xs ih =>
    simp at h
    simp [fitPrefix, show lenUtf16 c ≤ n by omega, ih (show utf16Len xs ≤ n - lenUtf16 c by omega),
      Nat.sub_sub]

/-- A character that does not fit changes nothing. -/
theorem fitPrefix_concat_of_lt {xs : List Char} {c : Char} {n : Nat}
    (h : n < utf16Len (xs ++ [c])) : fitPrefix (xs ++ [c]) n = fitPrefix xs n := by
  by_cases hx : utf16Len xs ≤ n
  · simp at h
    rw [fitPrefix_append_of_le _ hx, fitPrefix_of_le hx]
    simp [fitPrefix, show ¬ lenUtf16 c ≤ n - utf16Len xs by omega]
  · exact fitPrefix_append_of_lt _ (by omega)

theorem fitPrefix_prefix (cs : List Char) (n : Nat) : fitPrefix cs n <+: cs := by
  induction cs generalizing n with
  | nil => exact List.prefix_refl _
  | cons c cs ih =>
    unfold fitPrefix
    split
    · exact List.cons_prefix_cons.mpr ⟨rfl, ih _⟩
    · exact List.nil_prefix

theorem utf16Len_fitPrefix_le (cs : List Char) (n : Nat) : utf16Len (fitPrefix cs n) ≤ n := by
  induction cs generalizing n with
  | nil => simp [fitPrefix]
  | cons c cs ih =>
    unfold fitPrefix
    split
    · have := ih (n - lenUtf16 c); simp; omega
    · simp

/-- `fitPrefix cs n` is the longest prefix of `cs` of UTF-16 length at most `n`. -/
theorem fitPrefix_longest {cs q : List Char} {n : Nat} (hq : q <+: cs) (hn : utf16Len q ≤ n) :
    q.length ≤ (fitPrefix cs n).length := by
  induction cs generalizing q n with
  | nil => simp [List.prefix_nil.mp hq]
  | cons c cs ih =>
    rcases q with _ | ⟨d, q⟩
    · simp
    · obtain ⟨rfl, hq'⟩ := List.cons_prefix_cons.mp hq
      simp at hn
      simp [fitPrefix, show lenUtf16 d ≤ n by omega,
        ih hq' (show utf16Len q ≤ n - lenUtf16 d by omega)]

theorem fitPrefix_mono (cs : List Char) {m n : Nat} (h : m ≤ n) :
    fitPrefix cs m <+: fitPrefix cs n := by
  induction cs generalizing m n with
  | nil => exact List.prefix_refl _
  | cons c cs ih =>
    unfold fitPrefix
    by_cases hm : lenUtf16 c ≤ m
    · simp only [hm, show lenUtf16 c ≤ n by omega, if_true]
      exact List.cons_prefix_cons.mpr ⟨rfl, ih (by omega)⟩
    · simp only [hm, if_false]; exact List.nil_prefix

/-- Where the copy loop overflows: the longest prefix that fits, then a character that does
    not. -/
theorem eq_fitPrefix_append {cs : List Char} {n : Nat} (h : n < utf16Len cs) :
    ∃ c rest, cs = fitPrefix cs n ++ c :: rest ∧ n < utf16Len (fitPrefix cs n) + lenUtf16 c := by
  induction cs generalizing n with
  | nil => simp at h
  | cons c cs ih =>
    simp at h
    by_cases hc : lenUtf16 c ≤ n
    · obtain ⟨d, rest, hcs, hd⟩ := ih (show n - lenUtf16 c < utf16Len cs by omega)
      refine ⟨d, rest, ?_, ?_⟩
      · simp only [fitPrefix, hc, if_true, List.cons_append]; exact congrArg _ hcs
      · simp [fitPrefix, hc]; omega
    · exact ⟨c, cs, by simp [fitPrefix, hc], by simp [fitPrefix, hc]; omega⟩

/-! ## `Host::new` -/

/-- `Host([u8; 64])`. -/
structure Host where
  bytes : Bytes
  length_eq : bytes.length = 64
  deriving DecidableEq

/-- `u16_buffer.len()`, that is `Host::MAX_HOST_LENGTH / 2`. -/
def BUFFER_LENGTH : Nat := 32

/-- `c.encode_utf16(&mut u16_buffer[start..])`: the units written from `start` on. -/
def writeUnits : List UInt16 → Nat → List UInt16 → List UInt16
  | buffer, _, [] => buffer
  | buffer, i, u :: us => writeUnits (buffer.set i u) (i + 1) us

/-- `(prev_len << 2) | (c.len_utf16() as u8)`. -/
def packLen (prevLen : UInt8) (c : Char) : UInt8 := (prevLen <<< 2) ||| UInt8.ofNat (lenUtf16 c)

/-- The copy loop `for c in host.chars()`: the buffer, `cur_len`, `prev_len`, and
    `overflowing`. -/
def copyLoop : List Char → List UInt16 → Nat → UInt8 → List UInt16 × Nat × UInt8 × Bool
  | [], buffer, curLen, prevLen => (buffer, curLen, prevLen, false)
  | c :: cs, buffer, curLen, prevLen =>
    let curStart := curLen
    let curLen := curLen + lenUtf16 c
    let prevLen := packLen prevLen c
    if curLen > buffer.length then (buffer, curLen, prevLen, true)
    else copyLoop cs (writeUnits buffer curStart (encodeUtf16 c)) curLen prevLen

/-- The back-off loop `while cur_len > u16_buffer.len() - 3`, allowed `fuel` iterations, and
    `none` when they run out. Inside the loop `cur_len` is above 29, so subtracting a 2-bit
    field does not underflow. -/
def backOff : Nat → Nat → UInt8 → Option Nat
  | 0, curLen, _ => if curLen > BUFFER_LENGTH - 3 then none else some curLen
  | fuel + 1, curLen, prevLen =>
    if curLen > BUFFER_LENGTH - 3 then backOff fuel (curLen - (prevLen &&& 3).toNat) (prevLen >>> 2)
    else some curLen

/-- `u16_buffer[start..stop].fill(v)`, or `none` where the range is out of bounds (a panic). -/
def fillRange (buffer : List UInt16) (start stop : Nat) (v : UInt16) : Option (List UInt16) :=
  if start ≤ stop ∧ stop ≤ buffer.length then
    some (buffer.take start ++ List.replicate (stop - start) v ++ buffer.drop stop)
  else none

/-- The `[u16; 32]` buffer of `Host::new`, before the byte swap. -/
def Host.units (fuel : Nat) (host : String) : Option (List UInt16) :=
  match copyLoop host.data (List.replicate BUFFER_LENGTH 0) 0 0 with
  | (buffer, curLen, prevLen, overflowing) =>
    if overflowing then do
      let curLen ← backOff fuel curLen prevLen
      let buffer ← fillRange buffer curLen (curLen + 3) 0x2E
      fillRange buffer (curLen + 3) buffer.length 0
    else some buffer

/-- `to_be` on every unit, then the transmute to `[u8; 64]`. -/
def unitsToBytes (units : List UInt16) : Bytes := units.flatMap u16ToBeBytes

/-- The transmute back to `[u16; 32]`, then `u16::from_be` on every unit. -/
def bytesToUnits : Bytes → List UInt16
  | a :: b :: rest => u16FromBeBytes [a, b] :: bytesToUnits rest
  | _ => []

@[simp] theorem unitsToBytes_length (units : List UInt16) :
    (unitsToBytes units).length = 2 * units.length := by
  induction units with
  | nil => rfl
  | cons u us ih => simp [unitsToBytes] at *; omega

@[simp] theorem bytesToUnits_unitsToBytes (units : List UInt16) :
    bytesToUnits (unitsToBytes units) = units := by
  induction units with
  | nil => rfl
  | cons u us ih =>
    show u16FromBeBytes (u16ToBeBytes u) :: bytesToUnits (unitsToBytes us) = u :: us
    rw [u16FromBeBytes_toBeBytes, ih]

theorem writeUnits_length (buffer : List UInt16) (i : Nat) (us : List UInt16) :
    (writeUnits buffer i us).length = buffer.length := by
  induction us generalizing buffer i with
  | nil => rfl
  | cons u us ih => simp [writeUnits, ih]

theorem copyLoop_length (cs : List Char) (buffer : List UInt16) (curLen : Nat) (prevLen : UInt8) :
    (copyLoop cs buffer curLen prevLen).1.length = buffer.length := by
  induction cs generalizing buffer curLen prevLen with
  | nil => rfl
  | cons c cs ih =>
    simp only [copyLoop]
    split
    · rfl
    · rw [ih, writeUnits_length]

theorem fillRange_length {buffer out : List UInt16} {start stop : Nat} {v : UInt16}
    (h : fillRange buffer start stop v = some out) : out.length = buffer.length := by
  unfold fillRange at h
  split at h
  · cases h; simp; omega
  · cases h

theorem Host.units_length {fuel : Nat} {host : String} {units : List UInt16}
    (h : Host.units fuel host = some units) : units.length = 32 := by
  have hc := copyLoop_length host.data (List.replicate BUFFER_LENGTH 0) 0 0
  unfold Host.units at h
  split at h
  · next buffer curLen prevLen overflowing heq =>
    rw [heq] at hc
    simp only [List.length_replicate] at hc
    split at h
    · obtain ⟨k, -, h⟩ := Option.bind_eq_some.mp h
      obtain ⟨b, hb, h⟩ := Option.bind_eq_some.mp h
      rw [fillRange_length h, fillRange_length hb, hc]; rfl
    · cases h; exact hc

/-- `Host::new`, with `fuel` iterations allowed to the back-off loop. -/
def Host.new (fuel : Nat) (host : String) : Option Host :=
  match h : Host.units fuel host with
  | some units => some ⟨unitsToBytes units, by rw [unitsToBytes_length, Host.units_length h]⟩
  | none => none

/-- `Host::into_buf`. -/
def Host.intoBuf (host : Host) : List UInt16 := bytesToUnits host.bytes

/-! ## The copy loop -/

/-- The buffer after copying `done`: its code units, then zeros. -/
def bufOf (done : List Char) : List UInt16 :=
  utf16 done ++ List.replicate (BUFFER_LENGTH - utf16Len done) 0

theorem writeUnits_append (xs ys us : List UInt16) (h : us.length ≤ ys.length) :
    writeUnits (xs ++ ys) xs.length us = xs ++ us ++ ys.drop us.length := by
  induction us generalizing xs ys with
  | nil => simp [writeUnits]
  | cons u us ih =>
    obtain ⟨y, ys, rfl⟩ := List.exists_cons_of_length_pos (show 0 < ys.length by simp at h; omega)
    have hs : (xs ++ y :: ys).set xs.length u = (xs ++ [u]) ++ ys := by
      simp [List.set_append_right]
    simp only [writeUnits, hs]
    rw [show xs.length + 1 = (xs ++ [u]).length by simp, ih _ _ (by simp at h; omega)]
    simp

theorem writeUnits_bufOf (done : List Char) (c : Char)
    (h : utf16Len done + lenUtf16 c ≤ BUFFER_LENGTH) :
    writeUnits (bufOf done) (utf16Len done) (encodeUtf16 c) = bufOf (done ++ [c]) := by
  have hw := writeUnits_append (utf16 done) (List.replicate (BUFFER_LENGTH - utf16Len done) 0)
    (encodeUtf16 c) (by simp; omega)
  rw [utf16_length] at hw
  rw [bufOf, hw, bufOf]
  simp [Nat.sub_sub]

theorem bufOf_length (done : List Char) (h : utf16Len done ≤ BUFFER_LENGTH) :
    (bufOf done).length = BUFFER_LENGTH := by
  simp [bufOf]; omega

theorem copyLoop_fit (done cs : List Char) (prevLen : UInt8)
    (h : utf16Len (done ++ cs) ≤ BUFFER_LENGTH) :
    copyLoop cs (bufOf done) (utf16Len done) prevLen =
      (bufOf (done ++ cs), utf16Len (done ++ cs), cs.foldl packLen prevLen, false) := by
  induction cs generalizing done prevLen with
  | nil => simp [copyLoop]
  | cons c cs ih =>
    simp only [utf16Len_append, utf16Len_cons] at h
    have hfit : ¬ utf16Len done + lenUtf16 c > (bufOf done).length := by
      rw [bufOf_length _ (by omega)]; omega
    simp only [copyLoop, hfit, if_false]
    rw [writeUnits_bufOf _ _ (by omega), show utf16Len done + lenUtf16 c = utf16Len (done ++ [c])
      by simp, ih _ _ (by simp; omega)]
    simp

theorem copyLoop_overflow (done pre : List Char) (c : Char) (rest : List Char) (prevLen : UInt8)
    (h1 : utf16Len (done ++ pre) ≤ BUFFER_LENGTH)
    (h2 : BUFFER_LENGTH < utf16Len (done ++ pre) + lenUtf16 c) :
    copyLoop (pre ++ c :: rest) (bufOf done) (utf16Len done) prevLen =
      (bufOf (done ++ pre), utf16Len (done ++ pre) + lenUtf16 c,
        (pre ++ [c]).foldl packLen prevLen, true) := by
  induction pre generalizing done prevLen with
  | nil =>
    have hlen := bufOf_length done (by simpa using h1)
    simp only [List.append_nil] at h1 h2
    simp [copyLoop, hlen, h2]
  | cons p pre ih =>
    simp only [utf16Len_append, utf16Len_cons] at h1 h2
    have hfit : ¬ utf16Len done + lenUtf16 p > (bufOf done).length := by
      rw [bufOf_length _ (by omega)]; omega
    rw [List.cons_append, copyLoop.eq_2]
    simp only [hfit, if_false]
    rw [writeUnits_bufOf _ _ (by omega), show utf16Len done + lenUtf16 p = utf16Len (done ++ [p])
      by simp, ih _ _ (by simp; omega) (by simp; omega)]
    simp

/-! ## The back-off loop -/

theorem packLen_toNat (x : UInt8) (c : Char) :
    (packLen x c).toNat = (x.toNat * 4 + lenUtf16 c) % 256 := by
  have hl := lenUtf16_le c
  show (x.toBitVec <<< (UInt8.mod 2 8).toBitVec ||| (BitVec.ofNat 8 (lenUtf16 c))).toNat = _
  rw [BitVec.toNat_or, BitVec.shiftLeft_eq', BitVec.toNat_shiftLeft, BitVec.toNat_ofNat]
  show (x.toNat <<< 2) % 256 ||| lenUtf16 c % 256 = _
  rw [Nat.shiftLeft_eq, Nat.mod_eq_of_lt (by omega : lenUtf16 c < 256)]
  have h : x.toNat * 2 ^ 2 % 256 = 2 ^ 2 * (x.toNat % 64) := by omega
  rw [h, ← Nat.mul_add_lt_is_or (by omega : lenUtf16 c < 2 ^ 2)]
  omega

theorem and_three_toNat (x : UInt8) : (x &&& 3).toNat = x.toNat % 4 := by
  rw [UInt8.and_toNat]
  exact Nat.and_pow_two_sub_one_eq_mod x.toNat 2

theorem shiftRight_two_toNat (x : UInt8) : (x >>> 2).toNat = x.toNat / 4 := by
  show (x.toBitVec >>> (UInt8.mod 2 8).toBitVec).toNat = _
  rw [BitVec.ushiftRight_eq', BitVec.toNat_ushiftRight]
  exact Nat.shiftRight_eq_div_pow _ 2

theorem packLen_mod_four (x : UInt8) (c : Char) : (packLen x c).toNat % 4 = lenUtf16 c := by
  have := packLen_toNat x c
  have := lenUtf16_le c
  omega

theorem packLen_div_four (x : UInt8) (c : Char) : (packLen x c).toNat / 4 = x.toNat % 64 := by
  have := packLen_toNat x c
  have := lenUtf16_le c
  omega

/-- `prev_len` after the copy loop over `cs` holds the lengths of its last four characters, the
    most recent in the low bits. -/
theorem foldl_packLen_digit (cs : List Char) (x : UInt8) {i : Nat} (hi : i < 4)
    (hlen : i < cs.length) :
    (cs.foldl packLen x).toNat / 4 ^ i % 4 = (cs.reverse.map lenUtf16).getD i 0 := by
  induction cs using List.reverseRecOn generalizing i with
  | nil => simp at hlen
  | append_singleton cs c ih =>
    rw [List.foldl_append, List.foldl_cons, List.foldl_nil, List.reverse_append,
      List.reverse_singleton, List.singleton_append, List.map_cons]
    cases i with
    | zero => rw [pow_zero, Nat.div_one, packLen_mod_four, List.getD_cons_zero]
    | succ j =>
      have h64 : 64 = 4 ^ j * 4 ^ (3 - j) := by rw [← pow_add, Nat.add_sub_cancel' (by omega)]; rfl
      rw [List.getD_cons_succ, ← ih (by omega) (by simp at hlen; omega), Nat.pow_succ',
        ← Nat.div_div_eq_div_mul, packLen_div_four, h64, Nat.mod_mul_right_div_self,
        Nat.mod_mod_of_dvd _ (dvd_pow_self 4 (by omega))]

/-- The back-off pops the packed lengths `R` (most recent first) while the buffer is over
    29: it stops at the longest prefix of `Q ++ R.reverse` that fits in 29, provided `Q` fits
    and `prev_len` still holds every length of `R`. -/
theorem backOff_pop (Q R : List Char) (fuel : Nat) (x : UInt8) (hQ : utf16Len Q ≤ 29)
    (hfuel : R.length ≤ fuel)
    (hx : ∀ i < R.length, x.toNat / 4 ^ i % 4 = (R.map lenUtf16).getD i 0) :
    backOff fuel (utf16Len Q + utf16Len R) x = some (utf16Len (fitPrefix (Q ++ R.reverse) 29)) := by
  induction R generalizing fuel x with
  | nil => cases fuel <;> simp [backOff, BUFFER_LENGTH, fitPrefix_of_le hQ] <;> omega
  | cons r R ih =>
    obtain ⟨fuel, rfl⟩ : ∃ f, fuel = f + 1 := ⟨fuel - 1, by simp at hfuel; omega⟩
    have h0 : (x &&& 3).toNat = lenUtf16 r := by
      have := hx 0 (Nat.succ_pos _)
      rwa [pow_zero, Nat.div_one, List.map_cons, List.getD_cons_zero, ← and_three_toNat] at this
    by_cases hover : utf16Len Q + utf16Len (r :: R) > 29
    · have hx' : ∀ i < R.length, (x >>> 2).toNat / 4 ^ i % 4 = (R.map lenUtf16).getD i 0 := by
        intro i hi
        rw [shiftRight_two_toNat, Nat.div_div_eq_div_mul, ← Nat.pow_succ']
        have := hx (i + 1) (Nat.succ_lt_succ hi)
        rwa [List.map_cons, List.getD_cons_succ] at this
      simp only [backOff, BUFFER_LENGTH, show 32 - 3 = 29 from rfl, hover, if_true, h0]
      rw [show utf16Len Q + utf16Len (r :: R) - lenUtf16 r = utf16Len Q + utf16Len R by
          rw [utf16Len_cons]; omega,
        ih fuel _ (by simp at hfuel; omega) hx', List.reverse_cons, ← List.append_assoc,
        fitPrefix_concat_of_lt (by simp at hover ⊢; omega)]
    · simp only [backOff, BUFFER_LENGTH, show 32 - 3 = 29 from rfl, hover, if_false]
      rw [fitPrefix_of_le (by simp at hover ⊢; omega)]
      simp; omega

theorem exists_eq_append_three {P : List Char} (h : 3 ≤ P.length) :
    ∃ Q p1 p2 p3, P = Q ++ [p1, p2, p3] := by
  have hl : 3 ≤ P.reverse.length := by simpa using h
  rcases hr : P.reverse with _ | ⟨p3, _ | ⟨p2, _ | ⟨p1, Q⟩⟩⟩
  · simp [hr] at hl
  · simp [hr] at hl
  · simp [hr] at hl
  · exact ⟨Q.reverse, p1, p2, p3, by rw [← List.reverse_reverse P, hr]; simp⟩

/-- On overflow, `prev_len` still holds the lengths of the last four characters, and the
    back-off stops at the longest prefix that fits in 29. -/
theorem backOff_overflow (P : List Char) (c : Char) (fuel : Nat)
    (h1 : utf16Len P ≤ BUFFER_LENGTH) (h2 : BUFFER_LENGTH < utf16Len P + lenUtf16 c) :
    backOff (fuel + 4) (utf16Len P + lenUtf16 c) ((P ++ [c]).foldl packLen 0) =
      some (utf16Len (fitPrefix (P ++ [c]) 29)) := by
  have hlen : 3 ≤ P.length := by
    have := utf16Len_le_length P; have := lenUtf16_le c; simp [BUFFER_LENGTH] at *; omega
  obtain ⟨Q, p1, p2, p3, rfl⟩ := exists_eq_append_three hlen
  have hx := backOff_pop Q [c, p3, p2, p1] (fuel + 4) ((Q ++ [p1, p2, p3] ++ [c]).foldl packLen 0)
    (by have := lenUtf16_pos p1; have := lenUtf16_pos p2; have := lenUtf16_pos p3
        simp [BUFFER_LENGTH] at h1; omega) (by simp) (fun i hi => by
      simp only [List.length_cons, List.length_nil] at hi
      rw [foldl_packLen_digit _ _ hi (by simp; omega)]
      simp only [List.reverse_append, List.reverse_cons, List.reverse_nil, List.nil_append,
        List.singleton_append, List.cons_append, List.map_cons]
      interval_cases i <;> rfl)
  simp only [utf16Len_append, utf16Len_cons, utf16Len_nil, List.reverse_cons, List.reverse_nil,
    List.nil_append, List.cons_append, List.append_assoc] at hx ⊢
  refine (congrArg (fun n => backOff (fuel + 4) n _) ?_).trans hx
  omega

/-- The two `fill`s after the back-off: `...` at `cur_len`, then zeros. -/
theorem fill_dots (P F : List Char) (hF : F <+: P) (hk : utf16Len F ≤ 29)
    (hP : utf16Len P ≤ BUFFER_LENGTH) :
    (do
      let buffer ← fillRange (bufOf P) (utf16Len F) (utf16Len F + 3) 0x2E
      fillRange buffer (utf16Len F + 3) buffer.length 0) =
      some (utf16 F ++ [0x2E, 0x2E, 0x2E] ++ List.replicate (29 - utf16Len F) 0) := by
  obtain ⟨G, rfl⟩ := hF
  simp only [utf16Len_append] at hP
  have hb := bufOf_length (F ++ G) (by simpa using hP)
  have htake : (bufOf (F ++ G)).take (utf16Len F) = utf16 F := by
    simp [bufOf, List.take_append_eq_append_take]
  have h1 : fillRange (bufOf (F ++ G)) (utf16Len F) (utf16Len F + 3) 0x2E =
      some (utf16 F ++ [0x2E, 0x2E, 0x2E] ++ (bufOf (F ++ G)).drop (utf16Len F + 3)) := by
    rw [fillRange, if_pos ⟨by omega, by rw [hb]; simp [BUFFER_LENGTH]; omega⟩, htake,
      Nat.add_sub_cancel_left]
    rfl
  have hlen : (utf16 F ++ [0x2E, 0x2E, 0x2E] ++ (bufOf (F ++ G)).drop (utf16Len F + 3)).length =
      BUFFER_LENGTH := by
    simp [hb, BUFFER_LENGTH]; omega
  rw [h1]
  show fillRange _ _ _ 0 = _
  rw [fillRange, if_pos ⟨by rw [hlen]; simp [BUFFER_LENGTH]; omega, le_refl _⟩, hlen,
    List.take_left' (by simp), List.drop_of_length_le (by rw [hlen])]
  simp [BUFFER_LENGTH]

/-! ## What `Host::new` stores -/

/-- The code units `Host::new` leaves in its buffer: the string's own, padded with zeros,
    when they fit in 32; otherwise those of the longest prefix that fits in 29, then `...`,
    then zeros. -/
def hostUnits (s : String) : List UInt16 :=
  if utf16Len s.data ≤ BUFFER_LENGTH then
    utf16 s.data ++ List.replicate (BUFFER_LENGTH - utf16Len s.data) 0
  else
    utf16 (fitPrefix s.data 29) ++ [0x2E, 0x2E, 0x2E] ++
      List.replicate (29 - utf16Len (fitPrefix s.data 29)) 0

theorem copyLoop_start (cs : List Char) :
    copyLoop cs (List.replicate BUFFER_LENGTH 0) 0 0 = copyLoop cs (bufOf []) (utf16Len []) 0 :=
  rfl

/-- The buffer of `Host::new` is `hostUnits`, with four iterations of the back-off allowed. -/
theorem Host.units_eq (s : String) (fuel : Nat) : Host.units (fuel + 4) s = some (hostUnits s) := by
  by_cases hfit : utf16Len s.data ≤ BUFFER_LENGTH
  · have h := copyLoop_fit [] s.data 0 (by simpa using hfit)
    rw [Host.units, copyLoop_start, h]
    simp [hostUnits, hfit, bufOf]
  · have hpre := fitPrefix_mono s.data (show 29 ≤ BUFFER_LENGTH by decide)
    have hP := utf16Len_fitPrefix_le s.data BUFFER_LENGTH
    obtain ⟨c, rest, hs, hc⟩ := eq_fitPrefix_append (show BUFFER_LENGTH < utf16Len s.data by omega)
    generalize fitPrefix s.data BUFFER_LENGTH = P at hpre hP hs hc
    have hcopy := copyLoop_overflow [] P c rest 0 (by simpa using hP) (by simpa using hc)
    have hF : fitPrefix (P ++ [c]) 29 = fitPrefix s.data 29 := by
      rw [hs, show P ++ c :: rest = P ++ [c] ++ rest by simp,
        fitPrefix_append_of_lt rest (by simp [BUFFER_LENGTH] at hc ⊢; omega)]
    simp only [List.nil_append] at hcopy
    rw [Host.units, copyLoop_start, hs, hcopy]
    simp only [if_true]
    rw [backOff_overflow P c fuel hP hc, hF]
    simpa [hostUnits, hfit] using fill_dots P _ hpre (utf16Len_fitPrefix_le _ _) hP

theorem Host.new_bytes (s : String) (fuel : Nat) :
    ∃ h, Host.new (fuel + 4) s = some h ∧ h.bytes = unitsToBytes (hostUnits s) := by
  unfold Host.new
  split
  · next units h =>
    rw [Host.units_eq] at h
    cases h
    exact ⟨_, rfl, rfl⟩
  · next h => rw [Host.units_eq] at h; cases h

/-- `Host::new` returns for every string, and `into_buf` gives back `hostUnits`: the code
    units themselves when they fit, else the longest prefix that fits in 29 units, `...`, and
    zeros. -/
theorem host_new_eq (s : String) (fuel : Nat) :
    (∃ h, Host.new (fuel + 4) s = some h ∧ h.bytes = unitsToBytes (hostUnits s) ∧
      h.intoBuf = hostUnits s) ∧
    (fitPrefix s.data 29 <+: s.data ∧ utf16Len (fitPrefix s.data 29) ≤ 29 ∧
      ∀ q, q <+: s.data → utf16Len q ≤ 29 → q.length ≤ (fitPrefix s.data 29).length) := by
  obtain ⟨h, hnew, hbytes⟩ := Host.new_bytes s fuel
  exact ⟨⟨h, hnew, hbytes, by rw [Host.intoBuf, hbytes, bytesToUnits_unitsToBytes]⟩,
    fitPrefix_prefix _ _, utf16Len_fitPrefix_le _ _, fun q hq hn => fitPrefix_longest hq hn⟩

/-! ## Display -/

/-- `Display for Host`: the 64 bytes copied into a `[u16; 32]`, `u16::from_be` on each unit,
    and `String::from_utf16_lossy` of all 32 units. -/
def Host.display (host : Host) : String := ⟨fromUtf16Lossy (bytesToUnits host.bytes)⟩

/-- The characters whose code units `Host::new` stores: the string's own when they fit in 32
    units, otherwise the longest prefix that fits in 29, then `...`. -/
def hostChars (s : String) : List Char :=
  if utf16Len s.data ≤ BUFFER_LENGTH then s.data else fitPrefix s.data 29 ++ ['.', '.', '.']

/-- The buffer of `Host::new` is the code units of `hostChars`, then zeros. -/
theorem hostUnits_eq_utf16 (s : String) :
    hostUnits s =
      utf16 (hostChars s) ++ List.replicate (BUFFER_LENGTH - utf16Len (hostChars s)) 0 := by
  unfold hostUnits hostChars
  split_ifs with hfit
  · rfl
  · have hdots : utf16 ['.', '.', '.'] = [0x2E, 0x2E, 0x2E] := by decide
    have hcount : BUFFER_LENGTH - (utf16Len (fitPrefix s.data 29) + utf16Len ['.', '.', '.']) =
        29 - utf16Len (fitPrefix s.data 29) := by simp [BUFFER_LENGTH, lenUtf16]
    rw [utf16_append, hdots, utf16Len_append, hcount]

/-- The display of `Host::new(s)` decodes all 32 units of the buffer, the zero units
    included: the characters `Host::new` stored, then a NUL for each unit left over. -/
theorem host_display_new (s : String) (fuel : Nat) :
    ∃ h, Host.new (fuel + 4) s = some h ∧ h.display = ⟨fromUtf16Lossy (hostUnits s)⟩ ∧
      h.display = ⟨hostChars s ++
        List.replicate (BUFFER_LENGTH - utf16Len (hostChars s)) (Char.ofNat 0)⟩ ∧
      (utf16Len s.data ≤ BUFFER_LENGTH →
        h.display = ⟨s.data ++ List.replicate (BUFFER_LENGTH - utf16Len s.data) (Char.ofNat 0)⟩) := by
  obtain ⟨h, hnew, hbytes⟩ := Host.new_bytes s fuel
  have hdisplay : h.display = ⟨hostChars s ++
      List.replicate (BUFFER_LENGTH - utf16Len (hostChars s)) (Char.ofNat 0)⟩ := by
    rw [Host.display, hbytes, bytesToUnits_unitsToBytes, hostUnits_eq_utf16, fromUtf16Lossy_utf16,
      fromUtf16Lossy_replicate_zero]
  refine ⟨h, hnew, by rw [Host.display, hbytes, bytesToUnits_unitsToBytes], hdisplay,
    fun hfit => ?_⟩
  rw [hdisplay, hostChars, if_pos hfit]

/-- `Host::new("a")` displays as `a` and 31 NUL characters, not as `a`: the display does not stop
    at the first zero unit. -/
theorem host_display_a :
    (Host.new 4 "a").map Host.display = some ⟨'a' :: List.replicate 31 (Char.ofNat 0)⟩ ∧
      (⟨'a' :: List.replicate 31 (Char.ofNat 0)⟩ : String) ≠ "a" := by
  decide

end Bjnp.Poll
