import RecordStore.Json.Problem
import RecordStore.Text.Utf8

/-!
The smallest parts of a JSON text: blanks, literals, numbers and strings.

Every reader takes the bytes that are left and gives its value with the bytes after
it, or the first fault. The fault of a byte that cannot stand where it stands is
placed behind that byte, the fault of a missing one at the end of the text.
-/

namespace RecordStore.Json

/-- What a reader gives: a value and the bytes after it. -/
abbrev Reading (α : Type) := Except Fault (α × Bytes)

/-- The bytes after leading blanks. -/
def skipBlanks : Bytes → Bytes
  | [] => []
  | b :: rest => if b = 32 ∨ b = 10 ∨ b = 9 ∨ b = 13 then skipBlanks rest else b :: rest

/-- Reads the rest of a literal, letter by letter. -/
def literal : Bytes → Bytes → Except Fault Bytes
  | [], rest => .ok rest
  | _ :: _, [] => .error (.before .eofInValue [])
  | letter :: letters, b :: rest =>
    if b = letter then literal letters rest else .error (.before .literalExpected rest)

/-! ### Numbers -/

/-- Whether a byte is a decimal digit. -/
def isDigit (b : UInt8) : Bool :=
  48 ≤ b && b ≤ 57

/-- The value of a decimal digit. -/
def digitValue (b : UInt8) : Nat :=
  b.toNat - 48

/-- The largest integer that is kept exactly. -/
def maxNatural : Nat := (1 <<< 64) - 1

/-- The floating-point number nearest to a power of ten. -/
def powerOfTen (n : Nat) : Float :=
  Float.ofScientific 1 false n

/-- `f * 10 ^ e` in floating point, by one step for every 308 powers below zero;
`none` when it is infinite. -/
def scale (f : Float) (e : Int) : Option Float :=
  if 308 < e then if f == 0 then some f else none
  else if 0 ≤ e then
    let g := f * powerOfTen e.toNat
    if g.isInf then none else some g
  else if -308 ≤ e then some (f / powerOfTen (-e).toNat)
  else if f == 0 then some f
  else scale (f / powerOfTen 308) (e + 308)
termination_by (-e).toNat

/-- The floating-point number of a sign, a significand and a decimal exponent. -/
def real (positive : Bool) (significand : Nat) (exponent : Int) (rest : Bytes) : Reading Number :=
  match scale significand.toUInt64.toFloat exponent with
  | none => .error (.before .numberOutOfRange rest)
  | some f => .ok (.real (if positive then f else -f), rest)

/-- The bytes after leading digits. -/
def skipDigits : Bytes → Bytes
  | [] => []
  | b :: rest => if isDigit b then skipDigits rest else b :: rest

/-- The largest exponent that is counted. -/
def maxExponent : Nat := (1 <<< 31) - 1

/-- Reads the digits of an exponent. Beyond the largest, the number is zero or out of range. -/
def exponentDigits (positive upward : Bool) (significand : Nat) (start : Int) :
    Nat → Bytes → Reading Number
  | e, [] => real positive significand (if upward then start + e else start - e) []
  | e, b :: rest =>
    if isDigit b then
      if maxExponent < e * 10 + digitValue b then
        if significand ≠ 0 ∧ upward then .error (.before .numberOutOfRange rest)
        else .ok (.real (if positive then 0.0 else -0.0), skipDigits rest)
      else exponentDigits positive upward significand start (e * 10 + digitValue b) rest
    else real positive significand (if upward then start + e else start - e) (b :: rest)

/-- Reads an exponent behind its letter: a sign or none, then at least one digit. -/
def exponentPart (positive : Bool) (significand : Nat) (start : Int) (rest : Bytes) :
    Reading Number :=
  let (upward, digits) : Bool × Bytes :=
    match rest with
    | b :: after => if b = 43 then (true, after) else if b = 45 then (false, after) else (true, rest)
    | [] => (true, rest)
  match digits with
  | [] => .error (.before .eofInValue [])
  | b :: after =>
    if isDigit b then exponentDigits positive upward significand start (digitValue b) after
    else .error (.before .badNumber after)

/-- What follows the digits of a fraction: an exponent or the end of the number. -/
def afterFraction (positive : Bool) (significand : Nat) (exponent : Int) : Bytes → Reading Number
  | [] => real positive significand exponent []
  | b :: rest =>
    if b = 101 ∨ b = 69 then exponentPart positive significand exponent rest
    else real positive significand exponent (b :: rest)

/-- Reads the digits of a fraction. Digits beyond the largest significand are passed over. -/
def fractionDigits (positive : Bool) (whole : Int) : (count significand : Nat) → Bytes → Reading Number
  | count, significand, [] =>
    if count = 0 then .error (.before .eofInValue [])
    else afterFraction positive significand (whole - count) []
  | count, significand, b :: rest =>
    if isDigit b then
      if maxNatural < significand * 10 + digitValue b then
        afterFraction positive significand (whole - count) (skipDigits rest)
      else fractionDigits positive whole (count + 1) (significand * 10 + digitValue b) rest
    else if count = 0 then .error (.atHead .badNumber (b :: rest))
    else afterFraction positive significand (whole - count) (b :: rest)

/-- Counts the digits of an integer part beyond the largest significand. -/
def longInteger (positive : Bool) (significand : Nat) : Nat → Bytes → Reading Number
  | exponent, [] => real positive significand exponent []
  | exponent, b :: rest =>
    if isDigit b then longInteger positive significand (exponent + 1) rest
    else if b = 46 then fractionDigits positive exponent 0 significand rest
    else if b = 101 ∨ b = 69 then exponentPart positive significand exponent rest
    else real positive significand exponent (b :: rest)

/-- The number of an integer text: exact in the 64-bit ranges, minus zero aside. -/
def integer (positive : Bool) (n : Nat) : Number :=
  if positive then .natural n
  else if 0 < n ∧ n ≤ 1 <<< 63 then .negative n
  else .real (-n.toUInt64.toFloat)

/-- What follows an integer part. -/
def afterInteger (positive : Bool) (significand : Nat) : Bytes → Reading Number
  | [] => .ok (integer positive significand, [])
  | b :: rest =>
    if b = 46 then fractionDigits positive 0 0 significand rest
    else if b = 101 ∨ b = 69 then exponentPart positive significand 0 rest
    else .ok (integer positive significand, b :: rest)

/-- Reads the further digits of an integer part. -/
def integerDigits (positive : Bool) : Nat → Bytes → Reading Number
  | significand, [] => afterInteger positive significand []
  | significand, b :: rest =>
    if isDigit b then
      if maxNatural < significand * 10 + digitValue b then
        longInteger positive significand 1 rest
      else integerDigits positive (significand * 10 + digitValue b) rest
    else afterInteger positive significand (b :: rest)

/-- Reads a number behind its sign. Only a lone zero may start with zero. -/
def readNumber (positive : Bool) : Bytes → Reading Number
  | [] => .error (.before .eofInValue [])
  | b :: rest =>
    if b = 48 then
      match rest with
      | c :: _ =>
        if isDigit c then .error (.atHead .badNumber rest) else afterInteger positive 0 rest
      | [] => afterInteger positive 0 rest
    else if isDigit b then integerDigits positive (digitValue b) rest
    else .error (.before .badNumber rest)

/-! ### Strings -/

/-- The value of a hexadecimal digit. -/
def hexValue? (b : UInt8) : Option Nat :=
  if 48 ≤ b ∧ b ≤ 57 then some (b.toNat - 48)
  else if 97 ≤ b ∧ b ≤ 102 then some (b.toNat - 87)
  else if 65 ≤ b ∧ b ≤ 70 then some (b.toNat - 55)
  else none

/-- Reads the four digits of an escape; where they fail, all four are passed. -/
def hexEscape : Bytes → Reading Nat
  | a :: b :: c :: d :: rest =>
    match hexValue? a, hexValue? b, hexValue? c, hexValue? d with
    | some a, some b, some c, some d => .ok (a * 4096 + b * 256 + c * 16 + d, rest)
    | _, _, _, _ => .error (.before .badEscape rest)
  | _ => .error (.before .eofInString [])

/-- The byte of an escape of one letter. -/
def letterEscape? (b : UInt8) : Option UInt8 :=
  if b = 34 then some 34
  else if b = 92 then some 92
  else if b = 47 then some 47
  else if b = 98 then some 8
  else if b = 102 then some 12
  else if b = 110 then some 10
  else if b = 114 then some 13
  else if b = 116 then some 9
  else none

/-- Reads the second half of a pair of surrogates, the first half given. -/
def lowSurrogate (high : Nat) : Bytes → Reading Nat
  | [] => .error (.before .eofInString [])
  | b :: rest =>
    if b ≠ 92 then .error (.before .hexEscapeCut rest)
    else
      match rest with
      | [] => .error (.before .eofInString [])
      | c :: rest =>
        if c ≠ 117 then .error (.before .hexEscapeCut rest)
        else
          match hexEscape rest with
          | .error fault => .error fault
          | .ok (low, rest) =>
            if low < 0xDC00 ∨ 0xDFFF < low then .error (.before .loneSurrogate rest)
            else .ok ((high - 0xD800) * 1024 + (low - 0xDC00) + 0x10000, rest)

/-- Reads the code point of an escape behind its `u`; two surrogates make one code point. -/
def codePointEscape (bytes : Bytes) : Reading Nat :=
  match hexEscape bytes with
  | .error fault => .error fault
  | .ok (high, rest) =>
    if 0xDC00 ≤ high ∧ high ≤ 0xDFFF then .error (.before .loneSurrogate rest)
    else if high < 0xD800 ∨ 0xDBFF < high then .ok (high, rest)
    else lowSurrogate high rest

/-- Reads an escape behind its backslash, as the bytes it stands for. -/
def escape : Bytes → Reading Bytes
  | [] => .error (.before .eofInString [])
  | b :: rest =>
    match letterEscape? b with
    | some byte => .ok ([byte], rest)
    | none =>
      if b = 117 then
        match codePointEscape rest with
        | .error fault => .error fault
        | .ok (code, rest) => .ok (String.utf8EncodeChar (Char.ofNat code), rest)
      else .error (.before .badEscape rest)

theorem hexEscape_length {bytes rest : Bytes} {code : Nat}
    (read : hexEscape bytes = .ok (code, rest)) : rest.length < bytes.length := by
  unfold hexEscape at read
  split at read
  · split at read
    · cases read; simp; omega
    · cases read
  · cases read

theorem lowSurrogate_length {high code : Nat} {bytes rest : Bytes}
    (read : lowSurrogate high bytes = .ok (code, rest)) : rest.length < bytes.length := by
  unfold lowSurrogate at read
  split at read
  · cases read
  · split at read
    · cases read
    · split at read
      · cases read
      · split at read
        · cases read
        · split at read
          · cases read
          · rename_i second
            have := hexEscape_length second
            split at read
            · cases read
            · cases read
              simp
              omega

theorem codePointEscape_length {bytes rest : Bytes} {code : Nat}
    (read : codePointEscape bytes = .ok (code, rest)) : rest.length < bytes.length := by
  unfold codePointEscape at read
  split at read
  · cases read
  · rename_i first
    have shorter := hexEscape_length first
    split at read
    · cases read
    · split at read
      · cases read; exact shorter
      · exact Nat.lt_trans (lowSurrogate_length read) shorter

/-- An escape takes at least one byte behind its backslash. -/
theorem escape_length {bytes rest found : Bytes}
    (read : escape bytes = .ok (found, rest)) : rest.length < bytes.length := by
  unfold escape at read
  split at read
  · cases read
  · split at read
    · cases read; simp
    · split at read
      · split at read
        · cases read
        · rename_i point
          have := codePointEscape_length point
          cases read
          simp
          omega
      · cases read

/-- Reads the bytes of a string up to its closing mark, escapes resolved. -/
def stringBytes (taken : Bytes) : Bytes → Reading Bytes
  | [] => .error (.before .eofInString [])
  | b :: rest =>
    if b = 34 then .ok (taken.reverse, rest)
    else if b = 92 then
      match _read : escape rest with
      | .error fault => .error fault
      | .ok (found, after) => stringBytes (found.reverse ++ taken) after
    else if b < 32 then .error (.before .controlCharacter rest)
    else stringBytes (b :: taken) rest
termination_by bytes => bytes.length
decreasing_by
  · have := escape_length _read
    simp
    omega
  · simp

/-- Reads a string behind its opening mark. The place of an ill-formed unit is counted back from
the closing mark, one byte for each byte of the resolved string from that unit on; without
escapes that is the unit's first byte. -/
def readText (bytes : Bytes) : Reading String :=
  match stringBytes [] bytes with
  | .error fault => .error fault
  | .ok (found, rest) =>
    match Utf8.decode? found with
    | some chars => .ok (String.ofList chars, rest)
    | none =>
      let back := rest.length + (Utf8.fromIllFormed found).length
      .error (.before .badCodePoint (bytes.drop (bytes.length - back)))

end RecordStore.Json
