import ScannerButton.Bjnp.Serdes

/-
  The parts of the `time` crate that a poll command's datetime field goes through: a
  `PrimitiveDateTime`, formatting it by a format description made of components, and
  `Parsed::parse_items` followed by the conversion from `Parsed`. The crate is not part of
  this repository; what is modelled is its behaviour on the components the command uses,
  with their default modifiers (zero padding, the full year with no mandatory sign, the
  24-hour clock), without the `large-dates` feature, so that years lie in `-9999..=9999`.

  A number is written as a fixed-width, zero-padded decimal (`formatNumberPadZero`), a
  negative year after a `-`. Reading a component takes an optional sign (the year only) and
  exactly its width of ASCII digits; `Parsed`'s setter then checks the component's own
  range, which for the second is `0..=60`, a leap second included. Whether the day exists in
  its month, and whether the second is one a `PrimitiveDateTime` holds (`0..=59`), are checked
  only by the conversion to `PrimitiveDateTime` (`Parsed.tryInto`).

  Proved here: a fixed-width number reads back as itself and a number read was written that
  way (`exactlyNDigits_formatNumberPadZero`, `exactlyNDigits_eq_some`); the same for the
  two-digit components and the year (`parseRanged_eq_some`, `parseYear_eq_some`); reading a
  non-negative date-time's formatted components, in any order, stores them
  (`parseItems_format`).
-/

namespace Time

open Bjnp

/-! ## Date-times -/

/-- `util::is_leap_year`. -/
def isLeapYear (year : Int) : Bool :=
  year % 4 == 0 && (year % 100 != 0 || year % 400 == 0)

/-- `util::days_in_year_month`; months are `1..=12`, and the last arm is February. -/
def daysInYearMonth (year : Int) : Nat → Nat
  | 1 | 3 | 5 | 7 | 8 | 10 | 12 => 31
  | 4 | 6 | 9 | 11 => 30
  | _ => if isLeapYear year then 29 else 28

theorem daysInYearMonth_le (year : Int) (month : Nat) : daysInYearMonth year month ≤ 31 := by
  unfold daysInYearMonth
  split <;> (try split) <;> omega

/-- `PrimitiveDateTime`: a calendar date and a time of day, each component in its range. -/
structure PrimitiveDateTime where
  year : Int
  month : Nat
  day : Nat
  hour : Nat
  minute : Nat
  second : Nat
  nanosecond : Nat
  year_range : -9999 ≤ year ∧ year ≤ 9999
  month_range : 1 ≤ month ∧ month ≤ 12
  day_range : 1 ≤ day ∧ day ≤ daysInYearMonth year month
  hour_lt : hour < 24
  minute_lt : minute < 60
  second_lt : second < 60
  nanosecond_lt : nanosecond < 1000000000
  deriving DecidableEq

/-- The date-time with its nanoseconds dropped: what a format down to the second keeps. -/
def PrimitiveDateTime.truncateToSecond (dt : PrimitiveDateTime) : PrimitiveDateTime :=
  { dt with nanosecond := 0, nanosecond_lt := by decide }

/-! ## Format descriptions and formatting -/

/-- The components of a format description (`FormatItem::Component`), each with its default
    modifiers. -/
inductive Component where
  | year
  | month
  | day
  | hour
  | minute
  | second
  deriving DecidableEq, Repr

/-- `format_number_pad_zero::<WIDTH>`: `value` in decimal, zero-padded on the left to
    `width` digits. Every value formatted here has at most `width` digits. -/
def formatNumberPadZero : Nat → Nat → Bytes
  | 0, _ => []
  | width + 1, value => formatNumberPadZero width (value / 10) ++ [UInt8.ofNat (48 + value % 10)]

/-- `format_component` of a date-time: the year after a `-` when it is negative, the other
    components in two digits. -/
def formatComponent (dt : PrimitiveDateTime) : Component → Bytes
  | .year => (if dt.year < 0 then [0x2D] else []) ++ formatNumberPadZero 4 dt.year.natAbs
  | .month => formatNumberPadZero 2 dt.month
  | .day => formatNumberPadZero 2 dt.day
  | .hour => formatNumberPadZero 2 dt.hour
  | .minute => formatNumberPadZero 2 dt.minute
  | .second => formatNumberPadZero 2 dt.second

/-- The bytes `PrimitiveDateTime::format_into` writes for a format description. -/
def format (dt : PrimitiveDateTime) (items : List Component) : Bytes :=
  items.flatMap (formatComponent dt)

/-- `format_into(&mut buffer.as_mut_slice(), ..)` on a zeroed `[u8; n]`: the buffer, when the
    bytes fit; otherwise the slice sink refuses the rest with `WriteZero` and `format_into`
    returns an error (`none`). -/
def formatIntoSlice (n : Nat) (dt : PrimitiveDateTime) (items : List Component) : Option Bytes :=
  let written := format dt items
  if written.length ≤ n then some (written ++ List.replicate (n - written.length) 0) else none

/-! ## Parsing -/

/-- `u8::is_ascii_digit`. -/
def isAsciiDigit (b : UInt8) : Bool := 48 ≤ b.toNat && b.toNat ≤ 57

/-- The value of a string of ASCII digits. -/
def digitsValue (digits : Bytes) : Nat :=
  digits.foldl (fun acc d => acc * 10 + (d.toNat - 48)) 0

/-- `exactly_n_digits::<N>`: exactly `n` ASCII digits and their value, and the input after
    them. -/
def exactlyNDigits (n : Nat) (input : Bytes) : Option (Nat × Bytes) :=
  let digits := input.take n
  if digits.length = n ∧ digits.all isAsciiDigit = true then
    some (digitsValue digits, input.drop n)
  else none

/-- `sign`: a leading `-` or `+`, if there is one. -/
def sign : Bytes → Option UInt8 × Bytes
  | b :: rest => if b = 0x2D ∨ b = 0x2B then (some b, rest) else (none, b :: rest)
  | [] => (none, [])

/-- `parse_year` for the full year: an optional sign, then exactly four digits. -/
def parseYear (input : Bytes) : Option (Int × Bytes) :=
  match sign input with
  | (s, input) => (exactlyNDigits 4 input).bind fun (year, input) =>
    if s = some 0x2D then some (-(year : Int), input)
    else if s = none ∧ 10000 ≤ year then none
    else some (year, input)

/-- `Parsed`: the components read so far. The second admits 60, a leap second. -/
structure Parsed where
  year : Option Int
  month : Option Nat
  day : Option Nat
  hour24 : Option Nat
  minute : Option Nat
  second : Option Nat
  deriving DecidableEq, Repr

/-- `Parsed::new`. -/
def Parsed.new : Parsed := ⟨none, none, none, none, none, none⟩

/-- A two-digit component, kept when it lies in `lo..=hi`, the range its setter admits. -/
def parseRanged (lo hi : Nat) (input : Bytes) : Option (Nat × Bytes) :=
  (exactlyNDigits 2 input).bind fun (value, rest) =>
    if lo ≤ value ∧ value ≤ hi then some (value, rest) else none

/-- `Parsed::parse_component`: read a component and store it, or `None` (the
    `InvalidComponent` error). -/
def Parsed.parseComponent (parsed : Parsed) (input : Bytes) : Component → Option (Parsed × Bytes)
  | .year => (parseYear input).bind fun (v, rest) =>
    if -9999 ≤ v ∧ v ≤ 9999 then some ({ parsed with year := some v }, rest) else none
  | .month => (parseRanged 1 12 input).map fun (v, rest) => ({ parsed with month := some v }, rest)
  | .day => (parseRanged 1 31 input).map fun (v, rest) => ({ parsed with day := some v }, rest)
  | .hour => (parseRanged 0 23 input).map fun (v, rest) => ({ parsed with hour24 := some v }, rest)
  | .minute =>
    (parseRanged 0 59 input).map fun (v, rest) => ({ parsed with minute := some v }, rest)
  | .second =>
    (parseRanged 0 60 input).map fun (v, rest) => ({ parsed with second := some v }, rest)

/-- `Parsed::parse_items`: the components in turn, and the input left after them. -/
def Parsed.parseItems (parsed : Parsed) (input : Bytes) : List Component → Option (Parsed × Bytes)
  | [] => some (parsed, input)
  | item :: items => (parsed.parseComponent input item).bind fun (parsed, input) =>
    parsed.parseItems input items

/-- `TryFrom<Parsed> for PrimitiveDateTime`: `Date::from_calendar_date` and
    `Time::from_hms_nano` on the stored components, the second and the nanosecond defaulting
    to 0; `None` when a component is missing or out of its range. -/
def Parsed.tryInto (parsed : Parsed) : Option PrimitiveDateTime :=
  match parsed.year, parsed.month, parsed.day, parsed.hour24, parsed.minute with
  | some year, some month, some day, some hour, some minute =>
    if h : (-9999 ≤ year ∧ year ≤ 9999) ∧ (1 ≤ month ∧ month ≤ 12) ∧
        (1 ≤ day ∧ day ≤ daysInYearMonth year month) ∧ hour < 24 ∧ minute < 60 ∧
        parsed.second.getD 0 < 60 then
      some ⟨year, month, day, hour, minute, parsed.second.getD 0, 0, h.1, h.2.1, h.2.2.1,
        h.2.2.2.1, h.2.2.2.2.1, h.2.2.2.2.2, by decide⟩
    else none
  | _, _, _, _, _ => none

/-- What reading `dt`'s component `c` stores. -/
def Parsed.store (parsed : Parsed) (dt : PrimitiveDateTime) : Component → Parsed
  | .year => { parsed with year := some dt.year }
  | .month => { parsed with month := some dt.month }
  | .day => { parsed with day := some dt.day }
  | .hour => { parsed with hour24 := some dt.hour }
  | .minute => { parsed with minute := some dt.minute }
  | .second => { parsed with second := some dt.second }

/-! ## Fixed-width numbers -/

@[simp] theorem formatNumberPadZero_length (width value : Nat) :
    (formatNumberPadZero width value).length = width := by
  induction width generalizing value with
  | zero => rfl
  | succ w ih => simp [formatNumberPadZero, ih]

theorem isAsciiDigit_iff (b : UInt8) : isAsciiDigit b = true ↔ 48 ≤ b.toNat ∧ b.toNat ≤ 57 := by
  simp [isAsciiDigit]

theorem all_isAsciiDigit_formatNumberPadZero (width value : Nat) :
    (formatNumberPadZero width value).all isAsciiDigit = true := by
  induction width generalizing value with
  | zero => rfl
  | succ w ih =>
    simp only [formatNumberPadZero, List.all_append, ih, List.all_cons, List.all_nil,
      isAsciiDigit_iff, u8_toNat_ofNat, Bool.true_and, Bool.and_true, decide_eq_true_eq]
    omega

theorem digitsValue_append_one (digits : Bytes) (d : UInt8) :
    digitsValue (digits ++ [d]) = digitsValue digits * 10 + (d.toNat - 48) := by
  simp [digitsValue, List.foldl_append]

theorem digitsValue_formatNumberPadZero (width value : Nat) :
    digitsValue (formatNumberPadZero width value) = value % 10 ^ width := by
  induction width generalizing value with
  | zero => simp [formatNumberPadZero, digitsValue, Nat.mod_one]
  | succ w ih =>
    rw [formatNumberPadZero, digitsValue_append_one, ih, u8_toNat_ofNat, pow_succ', Nat.mod_mul]
    omega

theorem digitsValue_lt (digits : Bytes) (h : digits.all isAsciiDigit = true) :
    digitsValue digits < 10 ^ digits.length := by
  induction digits using List.reverseRecOn with
  | nil => simp [digitsValue]
  | append_singleton ds d ih =>
    simp only [List.all_append, Bool.and_eq_true, List.all_cons, List.all_nil, Bool.and_true,
      isAsciiDigit_iff] at h
    rw [digitsValue_append_one, List.length_append, List.length_singleton, pow_succ]
    have := ih h.1
    omega

/-- A string of digits is the fixed-width decimal of its value. -/
theorem formatNumberPadZero_digitsValue (digits : Bytes) (h : digits.all isAsciiDigit = true) :
    formatNumberPadZero digits.length (digitsValue digits) = digits := by
  induction digits using List.reverseRecOn with
  | nil => rfl
  | append_singleton ds d ih =>
    simp only [List.all_append, Bool.and_eq_true, List.all_cons, List.all_nil, Bool.and_true,
      isAsciiDigit_iff] at h
    rw [List.length_append, List.length_singleton, formatNumberPadZero, digitsValue_append_one,
      show (digitsValue ds * 10 + (d.toNat - 48)) / 10 = digitsValue ds by omega, ih h.1]
    congr 2
    apply UInt8.toNat.inj
    simp only [u8_toNat_ofNat]
    omega

theorem exactlyNDigits_formatNumberPadZero {width value : Nat} (rest : Bytes)
    (h : value < 10 ^ width) :
    exactlyNDigits width (formatNumberPadZero width value ++ rest) = some (value, rest) := by
  simp [exactlyNDigits, all_isAsciiDigit_formatNumberPadZero, digitsValue_formatNumberPadZero,
    Nat.mod_eq_of_lt h]

/-- What `exactly_n_digits` reads was written by `format_number_pad_zero`. -/
theorem exactlyNDigits_eq_some {width value : Nat} {input rest : Bytes}
    (h : exactlyNDigits width input = some (value, rest)) :
    input = formatNumberPadZero width value ++ rest ∧ value < 10 ^ width := by
  unfold exactlyNDigits at h
  dsimp only at h
  split at h
  · next hd =>
    obtain ⟨hlen, hall⟩ := hd
    cases h
    have hv := digitsValue_lt _ hall
    have hf := formatNumberPadZero_digitsValue _ hall
    rw [hlen] at hv hf
    exact ⟨by rw [hf, List.take_append_drop], hv⟩
  · cases h

/-! ## Components -/

theorem parseRanged_formatNumberPadZero {lo hi value : Nat} (rest : Bytes)
    (h : lo ≤ value ∧ value ≤ hi) (hhi : hi < 100) :
    parseRanged lo hi (formatNumberPadZero 2 value ++ rest) = some (value, rest) := by
  simp [parseRanged, exactlyNDigits_formatNumberPadZero rest (show value < 10 ^ 2 by omega), h]

theorem parseRanged_eq_some {lo hi value : Nat} {input rest : Bytes}
    (h : parseRanged lo hi input = some (value, rest)) :
    input = formatNumberPadZero 2 value ++ rest ∧ lo ≤ value ∧ value ≤ hi := by
  obtain ⟨⟨v, r⟩, hd, h⟩ := Option.bind_eq_some.mp h
  by_cases hr : lo ≤ v ∧ v ≤ hi
  · simp only [hr, and_self, if_true, Option.some.injEq, Prod.mk.injEq] at h
    obtain ⟨rfl, rfl⟩ := h
    exact ⟨(exactlyNDigits_eq_some hd).1, hr⟩
  · simp [hr] at h

theorem sign_digit {b : UInt8} (rest : Bytes) (h : isAsciiDigit b = true) :
    sign (b :: rest) = (none, b :: rest) := by
  have : ¬ (b = 0x2D ∨ b = 0x2B) := by
    rintro (rfl | rfl) <;> exact absurd h (by decide)
  simp [sign, this]

theorem parseYear_formatNumberPadZero {year : Nat} (rest : Bytes) (h : year < 10000) :
    parseYear (formatNumberPadZero 4 year ++ rest) = some ((year : Int), rest) := by
  obtain ⟨b, bs, hb⟩ := List.exists_cons_of_length_pos
    (show 0 < (formatNumberPadZero 4 year).length by simp)
  have hdigit : isAsciiDigit b = true := by
    have := all_isAsciiDigit_formatNumberPadZero 4 year
    rw [hb, List.all_cons, Bool.and_eq_true] at this
    exact this.1
  unfold parseYear
  rw [hb, List.cons_append, sign_digit _ hdigit, ← List.cons_append, ← hb]
  simp [exactlyNDigits_formatNumberPadZero rest (show year < 10 ^ 4 by omega), h]

/-- A year read is either written as four digits, or takes a sign and four digits. -/
theorem parseYear_eq_some {year : Int} {input rest : Bytes}
    (h : parseYear input = some (year, rest)) :
    (0 ≤ year ∧ input = formatNumberPadZero 4 year.natAbs ++ rest) ∨
      input.length = rest.length + 5 := by
  unfold parseYear at h
  rcases input with _ | ⟨b, input⟩
  · simp [sign, exactlyNDigits] at h
  · by_cases hs : b = 0x2D ∨ b = 0x2B
    · simp only [sign, hs, if_true] at h
      obtain ⟨⟨v, r⟩, hd, h⟩ := Option.bind_eq_some.mp h
      have hr : r = rest := by split at h <;> [skip; split at h] <;> simp_all
      subst hr
      have := congrArg List.length (exactlyNDigits_eq_some hd).1
      simp at this
      right; simp; omega
    · simp only [sign, hs, if_false] at h
      obtain ⟨⟨v, r⟩, hd, h⟩ := Option.bind_eq_some.mp h
      simp only [reduceCtorEq, if_false, true_and] at h
      split at h
      · cases h
      · cases h
        exact .inl ⟨by omega, by simpa using (exactlyNDigits_eq_some hd).1⟩

/-- Reading a formatted component of a date-time with a non-negative year stores it. -/
theorem parseComponent_formatComponent (parsed : Parsed) (dt : PrimitiveDateTime)
    (hyear : 0 ≤ dt.year) (rest : Bytes) (c : Component) :
    parsed.parseComponent (formatComponent dt c ++ rest) c = some (parsed.store dt c, rest) := by
  have := dt.year_range; have := dt.month_range; have := dt.day_range
  have := dt.hour_lt; have := dt.minute_lt; have := dt.second_lt
  have hday : dt.day ≤ 31 := dt.day_range.2.trans (daysInYearMonth_le _ _)
  cases c with
  | year =>
    simp only [formatComponent, show ¬ dt.year < 0 by omega, if_false, List.nil_append,
      Parsed.parseComponent]
    rw [parseYear_formatNumberPadZero rest (by omega)]
    simp [Int.natAbs_of_nonneg hyear, Parsed.store, this]
    omega
  | month => simp [formatComponent, Parsed.parseComponent, Parsed.store,
      parseRanged_formatNumberPadZero rest (show 1 ≤ dt.month ∧ dt.month ≤ 12 by omega)]
  | day => simp [formatComponent, Parsed.parseComponent, Parsed.store,
      parseRanged_formatNumberPadZero rest (show 1 ≤ dt.day ∧ dt.day ≤ 31 by omega)]
  | hour => simp [formatComponent, Parsed.parseComponent, Parsed.store,
      parseRanged_formatNumberPadZero rest (show 0 ≤ dt.hour ∧ dt.hour ≤ 23 by omega)]
  | minute => simp [formatComponent, Parsed.parseComponent, Parsed.store,
      parseRanged_formatNumberPadZero rest (show 0 ≤ dt.minute ∧ dt.minute ≤ 59 by omega)]
  | second => simp [formatComponent, Parsed.parseComponent, Parsed.store,
      parseRanged_formatNumberPadZero rest (show 0 ≤ dt.second ∧ dt.second ≤ 60 by omega)]

/-- Reading a non-negative date-time formatted by any description stores its components. -/
theorem parseItems_format (parsed : Parsed) (dt : PrimitiveDateTime) (hyear : 0 ≤ dt.year)
    (items : List Component) (rest : Bytes) :
    parsed.parseItems (format dt items ++ rest) items =
      some (items.foldl (fun p c => p.store dt c) parsed, rest) := by
  induction items generalizing parsed with
  | nil => rfl
  | cons c items ih =>
    simp only [format, List.flatMap_cons, List.append_assoc] at ih ⊢
    simp only [Parsed.parseItems, parseComponent_formatComponent parsed dt hyear, Option.some_bind,
      List.foldl_cons]
    exact ih _

end Time
