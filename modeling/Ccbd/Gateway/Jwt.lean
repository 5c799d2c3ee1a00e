import Ccbd.Lib.Digits
import Ccbd.Lib.Json
import Ccbd.Lib.Result
import Ccbd.Lib.Utf8

/-!
# The tokens workers hold

A worker never sees the real credential. It is given an unsigned token that names it, and
the gateway decodes that token by hand: three segments, the first two base64url texts of
JSON objects, the third empty.

The decoder's loop is a bit buffer (`Lib.Buffered`), so the bytes it returns are the
regrouping of the digits. The JSON reader is the parameter `parseJson` throughout.
-/

namespace Ccbd.Gateway

open Lib

/-! ## base64url -/

def base64urlTable : List Char :=
  "ABCDEFGHIJKLMNOPQRSTUVWXYZabcdefghijklmnopqrstuvwxyz0123456789-_".toList

/-- The character of a digit; the encoder never asks for one from 64 on. -/
def base64urlChar (digit : Nat) : Char := base64urlTable.getD digit 'A'

def base64urlEncode : List UInt8 → List Char
  | b0 :: b1 :: b2 :: rest =>
    let n := (b0.toNat <<< 16) ||| (b1.toNat <<< 8) ||| b2.toNat
    base64urlChar ((n >>> 18) &&& 0x3f) :: base64urlChar ((n >>> 12) &&& 0x3f) ::
      base64urlChar ((n >>> 6) &&& 0x3f) :: base64urlChar (n &&& 0x3f) :: base64urlEncode rest
  | [b0, b1] =>
    let n := (b0.toNat <<< 16) ||| (b1.toNat <<< 8)
    [base64urlChar ((n >>> 18) &&& 0x3f), base64urlChar ((n >>> 12) &&& 0x3f),
      base64urlChar ((n >>> 6) &&& 0x3f)]
  | [b0] =>
    let n := b0.toNat <<< 16
    [base64urlChar ((n >>> 18) &&& 0x3f), base64urlChar ((n >>> 12) &&& 0x3f)]
  | [] => []

/-- The digit a byte of the text stands for. -/
def base64urlValue (byte : UInt8) : Except String Nat :=
  let b := byte.toNat
  if 65 ≤ b ∧ b ≤ 90 then .ok (b - 65)
  else if 97 ≤ b ∧ b ≤ 122 then .ok (b - 97 + 26)
  else if 48 ≤ b ∧ b ≤ 57 then .ok (b - 48 + 52)
  else if b = 45 then .ok 62
  else if b = 95 then .ok 63
  else .error ("invalid base64url byte " ++ toString b)

def lowBitsMask (bitCount : Nat) : Nat :=
  if bitCount = 0 then 0 else 1 <<< bitCount - 1

/-- The variables of the decoder's loop. -/
structure Base64Buffer where
  bits : Nat := 0
  bitCount : Nat := 0
  out : List UInt8 := []

/-- One turn of the decoder's loop. -/
def Base64Buffer.push (buf : Base64Buffer) (value : Nat) : Base64Buffer :=
  let bits := (buf.bits <<< 6) % 2 ^ 32 ||| value
  let bitCount := buf.bitCount + 6
  if 8 ≤ bitCount then
    { bits := bits &&& lowBitsMask (bitCount - 8)
      bitCount := bitCount - 8
      out := buf.out ++ [UInt8.ofNat ((bits >>> (bitCount - 8)) &&& 0xff)] }
  else { buf with bits, bitCount }

def base64urlDecodeFrom (buf : Base64Buffer) : List UInt8 → Except String (List UInt8)
  | [] => .ok buf.out
  | byte :: bytes => do
    let value ← base64urlValue byte
    base64urlDecodeFrom (buf.push value) bytes

def base64urlDecode (input : List Char) : Except String (List UInt8) :=
  base64urlDecodeFrom {} (Utf8.encode input)

/-! ### What the decoder returns -/

/-- The bits the buffer was fed are the bytes it gave off and the bits it holds. -/
def Base64Buffer.Holds (buf : Base64Buffer) (digits : List Nat) : Prop :=
  Buffered 6 8 digits (buf.out.map UInt8.toNat) buf.bitCount buf.bits

open Base64Buffer

theorem Base64Buffer.holds_empty : Holds {} [] := Buffered.empty (by decide)

theorem and_lowBitsMask (n bitCount : Nat) : n &&& lowBitsMask bitCount = n % 2 ^ bitCount := by
  unfold lowBitsMask
  split
  case isTrue none => simp [none, Nat.mod_one]
  case isFalse => rw [Nat.one_shiftLeft, Nat.and_two_pow_sub_one_eq_mod]

/-- The shifted buffer with the new digit as a number; no bit is shifted out of it. -/
theorem shiftLeft_or_eq {bits count d : Nat} (below : bits < 2 ^ count) (few : count < 8)
    (hd : d < 2 ^ 6) : (bits <<< 6) % 2 ^ 32 ||| d = bits * 2 ^ 6 + d := by
  have small : 2 ^ count ≤ 2 ^ 8 := Nat.pow_le_pow_right (by decide) (by omega)
  rw [Nat.mod_eq_of_lt (by omega), ← Nat.shiftLeft_add_eq_or_of_lt hd, Nat.shiftLeft_eq]

variable {v : Json} {header payload segment : List Char} {digits : List Nat} {bytes : List UInt8}
    {token workerId : String}

namespace Base64Buffer

variable {buf : Base64Buffer} {d : Nat}

theorem push_keep (below : buf.bits < 2 ^ buf.bitCount) (room : buf.bitCount + 6 < 8)
    (hd : d < 2 ^ 6) :
    buf.push d = { buf with bits := buf.bits * 2 ^ 6 + d, bitCount := buf.bitCount + 6 } := by
  rw [push, if_neg (by omega), shiftLeft_or_eq below (by omega) hd]

theorem push_emit {rest : Nat} (below : buf.bits < 2 ^ buf.bitCount) (few : buf.bitCount < 8)
    (full : buf.bitCount + 6 = 8 + rest) (hd : d < 2 ^ 6) :
    buf.push d =
      { bits := (buf.bits * 2 ^ 6 + d) % 2 ^ rest
        bitCount := rest
        out := buf.out ++ [UInt8.ofNat ((buf.bits * 2 ^ 6 + d) / 2 ^ rest)] } := by
  have left : buf.bitCount + 6 - 8 = rest := by omega
  rw [push, if_pos (by omega), shiftLeft_or_eq below few hd, left, and_lowBitsMask,
    Nat.shiftRight_eq_div_pow, Nat.and_two_pow_sub_one_eq_mod _ 8, UInt8.ofNat_mod_size]

theorem Holds.push (h : buf.Holds digits) (hd : d < 2 ^ 6) :
    (buf.push d).Holds (digits ++ [d]) := by
  have few := h.partly
  by_cases room : buf.bitCount + 6 < 8
  · rw [push_keep h.below room hd]
    exact Buffered.keep h hd room
  · obtain ⟨rest, full⟩ : ∃ rest, buf.bitCount + 6 = 8 + rest := ⟨buf.bitCount - 2, by omega⟩
    have emitted := Buffered.emit h hd (by decide) full
    have byte := emitted.small _ (List.mem_append_right _ (List.mem_singleton_self _))
    rw [push_emit h.below few full hd]
    simpa only [Holds, List.map_append, List.map_cons, List.map_nil, Utf8.toNat_byte byte]
      using emitted

theorem Holds.foldl_push {more : List Nat} (h : buf.Holds digits) (hmore : ∀ d ∈ more, d < 64) :
    (more.foldl Base64Buffer.push buf).Holds (digits ++ more) := by
  induction more generalizing buf digits with
  | nil => simpa using h
  | cons d more ih =>
    rw [List.forall_mem_cons] at hmore
    have := ih (h.push hmore.1) hmore.2
    simpa using this

end Base64Buffer

theorem base64urlValue_eq_ok {byte : UInt8} {d : Nat} :
    base64urlValue byte = .ok d ↔ d < 64 ∧ String.utf8EncodeChar (base64urlChar d) = [byte] := by
  constructor
  · have all : ∀ n < 256, (base64urlValue (UInt8.ofNat n)).toOption.all (fun d =>
        d < 64 && String.utf8EncodeChar (base64urlChar d) == [UInt8.ofNat n]) = true := by
      decide +kernel
    intro h
    have this := all byte.toNat byte.toNat_lt
    rw [UInt8.ofNat_toNat, h] at this
    simpa [Except.toOption] using this
  · have all : ∀ d < 64, ∀ byte ∈ String.utf8EncodeChar (base64urlChar d),
        base64urlValue byte = .ok d := by
      decide +kernel
    rintro ⟨hd, byte⟩
    exact all d hd _ (by rw [byte]; exact List.mem_singleton_self _)

theorem base64urlDecodeFrom_char (buf : Base64Buffer) {d : Nat} (hd : d < 64) (rest : List Char) :
    base64urlDecodeFrom buf (Utf8.encode (base64urlChar d :: rest)) =
      base64urlDecodeFrom (buf.push d) (Utf8.encode rest) := by
  obtain ⟨byte, encoded⟩ : ∃ byte, String.utf8EncodeChar (base64urlChar d) = [byte] := by
    have single : ∀ d < 64, (String.utf8EncodeChar (base64urlChar d)).length = 1 := by
      decide +kernel
    exact List.length_eq_one_iff.mp (single d hd)
  have value := base64urlValue_eq_ok.mpr ⟨hd, encoded⟩
  simp only [Utf8.encode_cons, encoded, List.singleton_append, base64urlDecodeFrom, value]
  rfl

theorem base64urlDecodeFrom_digits (buf : Base64Buffer) (hdigits : ∀ d ∈ digits, d < 64) :
    base64urlDecodeFrom buf (Utf8.encode (digits.map base64urlChar)) =
      .ok (digits.foldl push buf).out := by
  induction digits generalizing buf with
  | nil => rfl
  | cons d digits ih =>
    rw [List.forall_mem_cons] at hdigits
    rw [List.map_cons, base64urlDecodeFrom_char buf hdigits.1, List.foldl_cons]
    exact ih _ hdigits.2

theorem exists_digits_of_decodeFrom {buf : Base64Buffer} {out : List UInt8}
    (h : base64urlDecodeFrom buf bytes = .ok out) :
    ∃ digits : List Nat, (∀ d ∈ digits, d < 64) ∧
      bytes = Utf8.encode (digits.map base64urlChar) ∧
      out = (digits.foldl push buf).out := by
  induction bytes generalizing buf with
  | nil => exact ⟨[], by simp, rfl, (Except.ok.inj h).symm⟩
  | cons byte bytes ih =>
    cases value : base64urlValue byte with
    | error e => simp [base64urlDecodeFrom, value, bind, Except.bind] at h
    | ok d =>
      simp only [base64urlDecodeFrom, value] at h
      obtain ⟨digits, hdigits, spelled, result⟩ := ih h
      obtain ⟨hd, encoded⟩ := base64urlValue_eq_ok.mp value
      refine ⟨d :: digits, List.forall_mem_cons.mpr ⟨hd, hdigits⟩, ?_, result⟩
      rw [List.map_cons, Utf8.encode_cons, encoded, ← spelled]
      rfl

/-- The decoder accepts exactly the texts of the alphabet, and returns the whole bytes in the
bits of their digits. -/
theorem base64urlDecode_eq_ok {input : List Char} :
    base64urlDecode input = .ok bytes ↔
      ∃ digits : List Nat, (∀ d ∈ digits, d < 64) ∧ input = digits.map base64urlChar ∧
        Regroups 6 8 digits (bytes.map UInt8.toNat) := by
  have decoded : ∀ digits : List Nat, (∀ d ∈ digits, d < 64) →
      Regroups 6 8 digits ((digits.foldl Base64Buffer.push {}).out.map UInt8.toNat) := by
    intro digits hdigits
    exact (Base64Buffer.holds_empty.foldl_push hdigits).regroups
  constructor
  · intro h
    obtain ⟨digits, hdigits, spelled, rfl⟩ := exists_digits_of_decodeFrom h
    exact ⟨digits, hdigits, Utf8.encode_injective spelled, decoded digits hdigits⟩
  · rintro ⟨digits, hdigits, rfl, regroups⟩
    have same := regroups.unique (by decide) (decoded digits hdigits)
    rw [base64urlDecode, base64urlDecodeFrom_digits {} hdigits]
    exact congrArg Except.ok (List.map_injective_iff.mpr (fun _ _ => UInt8.toNat_inj.mp) same).symm

/-! ### Decoding what was encoded -/

namespace Base64Buffer

variable {out : List UInt8} {d d' r : Nat}

-- The decoder's loop over the four characters of a chunk: after them it is empty again.

theorem push_push_empty (hd : d < 64) (hd' : d' < 64) :
    ((mk 0 0 out).push d).push d' = ⟨d' % 16, 4, out ++ [UInt8.ofNat (d * 4 + d' / 16)]⟩ := by
  have kept : (mk 0 0 out).push d = ⟨0 * 2 ^ 6 + d, 6, out⟩ :=
    push_keep (by simp) (by simp) hd
  have emitted : (mk (0 * 2 ^ 6 + d) 6 out).push d' =
      ⟨((0 * 2 ^ 6 + d) * 2 ^ 6 + d') % 2 ^ 4, 4,
        out ++ [UInt8.ofNat (((0 * 2 ^ 6 + d) * 2 ^ 6 + d') / 2 ^ 4)]⟩ :=
    push_emit (by simpa using hd) (by simp) rfl hd'
  rw [kept, emitted]
  congr 1
  · omega
  · congr 3; omega

theorem push_four (hr : r < 16) (hd : d < 64) :
    (mk r 4 out).push d = ⟨d % 4, 2, out ++ [UInt8.ofNat (r * 16 + d / 4)]⟩ := by
  have emitted : (mk r 4 out).push d =
      ⟨(r * 2 ^ 6 + d) % 2 ^ 2, 2, out ++ [UInt8.ofNat ((r * 2 ^ 6 + d) / 2 ^ 2)]⟩ :=
    push_emit (by simpa using hr) (by simp) rfl hd
  rw [emitted]
  congr 1
  · omega
  · congr 3; omega

theorem push_two (hr : r < 4) (hd : d < 64) :
    (mk r 2 out).push d = ⟨0, 0, out ++ [UInt8.ofNat (r * 64 + d)]⟩ := by
  have emitted : (mk r 2 out).push d =
      ⟨(r * 2 ^ 6 + d) % 2 ^ 0, 0, out ++ [UInt8.ofNat ((r * 2 ^ 6 + d) / 2 ^ 0)]⟩ :=
    push_emit (by simpa using hr) (by simp) rfl hd
  rw [emitted]
  congr 1
  · omega
  · congr 3; omega

end Base64Buffer

theorem and_sixBits (n : Nat) : n &&& 0x3f = n % 64 := Nat.and_two_pow_sub_one_eq_mod n 6

theorem chunk_word {b0 b1 b2 : Nat} (h1 : b1 < 256) (h2 : b2 < 256) :
    (b0 <<< 16) ||| (b1 <<< 8) ||| b2 = b0 * 65536 + b1 * 256 + b2 := by
  have high : (b0 <<< 16) ||| (b1 <<< 8) = (b0 * 256 + b1) <<< 8 := by
    rw [← Nat.shiftLeft_add_eq_or_of_lt (by omega)]
    omega
  rw [high, ← Nat.shiftLeft_add_eq_or_of_lt h2, Nat.shiftLeft_eq]
  omega

theorem ofNat_eq_of_toNat {n : Nat} {b : UInt8} (h : n = b.toNat) : UInt8.ofNat n = b := by
  rw [h, UInt8.ofNat_toNat]

theorem base64urlDecodeFrom_encode (out bytes : List UInt8) :
    base64urlDecodeFrom { out } (Utf8.encode (base64urlEncode bytes)) = .ok (out ++ bytes) := by
  induction bytes using base64urlEncode.induct generalizing out with
  | case1 b0 b1 b2 rest ih =>
    have h0 := b0.toNat_lt
    have h1 := b1.toNat_lt
    have h2 := b2.toNat_lt
    have six : ∀ n : Nat, n % 64 < 64 := fun n => Nat.mod_lt n (by decide)
    simp only [base64urlEncode, chunk_word h1 h2, and_sixBits, base64urlDecodeFrom_char _ (six _),
      push_push_empty (six _) (six _),
      push_four (Nat.mod_lt _ (by decide)) (six _),
      push_two (Nat.mod_lt _ (by decide)) (six _)]
    rw [ih, ofNat_eq_of_toNat (b := b0) (by omega), ofNat_eq_of_toNat (b := b1) (by omega),
      ofNat_eq_of_toNat (b := b2) (by omega)]
    simp
  | case2 b0 b1 =>
    have h0 := b0.toNat_lt
    have h1 := b1.toNat_lt
    have word := @chunk_word b0.toNat _ _ h1 (by decide : 0 < 256)
    have six : ∀ n : Nat, n % 64 < 64 := fun n => Nat.mod_lt n (by decide)
    rw [Nat.or_zero, Nat.add_zero] at word
    simp only [base64urlEncode, and_sixBits, base64urlDecodeFrom_char _ (six _),
      push_push_empty (six _) (six _),
      push_four (Nat.mod_lt _ (by decide)) (six _)]
    rw [ofNat_eq_of_toNat (b := b0) (by omega), ofNat_eq_of_toNat (b := b1) (by omega)]
    simp [base64urlDecodeFrom]
  | case3 b0 =>
    have h0 := b0.toNat_lt
    have six : ∀ n : Nat, n % 64 < 64 := fun n => Nat.mod_lt n (by decide)
    simp only [base64urlEncode, and_sixBits, base64urlDecodeFrom_char _ (six _),
      push_push_empty (six _) (six _)]
    rw [ofNat_eq_of_toNat (b := b0) (by omega)]
    rfl
  | case4 => simp [base64urlEncode, base64urlDecodeFrom]

theorem base64urlDecode_encode (bytes : List UInt8) :
    base64urlDecode (base64urlEncode bytes) = .ok bytes :=
  base64urlDecodeFrom_encode [] bytes

/-! ## The token -/

def jsonEscape (input : List Char) : List Char :=
  input.flatMap fun ch =>
    if ch = '"' then "\\\"".toList
    else if ch = '\\' then "\\\\".toList
    else if ch = '\n' then "\\n".toList
    else if ch = '\r' then "\\r".toList
    else if ch = '\t' then "\\t".toList
    else [ch]

def jwtHeader : List Char := "\x7b\"alg\":\"none\",\"typ\":\"JWT\"\x7d".toList

def jwtPayloadStart : List Char :=
  "\x7b\"exp\":32503680000,\"sub\":\"ah-worker-session\",\"worker_id\":\"".toList

def jwtPayload (workerId : String) : List Char :=
  jwtPayloadStart ++ (jsonEscape workerId.toList ++ "\"\x7d".toList)

def fakeWorkerJwt (workerId : String) : String :=
  String.ofList (base64urlEncode (Utf8.encode jwtHeader) ++
    '.' :: (base64urlEncode (Utf8.encode (jwtPayload workerId)) ++ ['.']))

section

variable (parseJson : List UInt8 → Except String Json)

def decodeJsonSegment (segment : List Char) : Except String Json := do
  let bytes ← base64urlDecode segment
  (parseJson bytes).mapError ("invalid fake gateway JWT JSON: " ++ ·)

def fakeJwtWorkerId (token : String) : Except String String :=
  match token.toList.splitOn '.' with
  | [header, payload, []] => do
    let header ← decodeJsonSegment parseJson header
    if header.strField? "alg" ≠ some "none" ∨ header.strField? "typ" ≠ some "JWT" then
      .error "fake gateway JWT header is not alg:none JWT"
    else
      let payload ← decodeJsonSegment parseJson payload
      if (payload.get? "exp").bind Json.asI64? ≠ some 32503680000 then
        .error "fake gateway JWT exp does not match design contract"
      else if payload.strField? "sub" ≠ some "ah-worker-session" then
        .error "fake gateway JWT subject does not match design contract"
      else
        ((payload.strField? "worker_id").filter (· ≠ "")).elim
          (.error "fake gateway JWT missing worker_id") .ok
  | _ => .error "fake gateway JWT must be alg:none three-segment token"

/-- A segment that is the base64url text of a JSON value. -/
def SegmentHolds (segment : List Char) (v : Json) : Prop :=
  ∃ (digits : List Nat) (bytes : List UInt8), (∀ d ∈ digits, d < 64) ∧
    segment = digits.map base64urlChar ∧ Regroups 6 8 digits (bytes.map UInt8.toNat) ∧
    parseJson bytes = .ok v

/-- What a token of the worker `workerId` is, apart from how it is read: unsigned, for the
gateway's subject, and of that worker. -/
structure IsFakeWorkerJwt (token workerId : String) : Prop where
  segments : ∃ (header payload : List Char) (h p : Json),
    token.toList = header ++ '.' :: (payload ++ ['.']) ∧
    SegmentHolds parseJson header h ∧ SegmentHolds parseJson payload p ∧
    h.strField? "alg" = some "none" ∧ h.strField? "typ" = some "JWT" ∧
    (p.get? "exp").bind Json.asI64? = some 32503680000 ∧
    p.strField? "sub" = some "ah-worker-session" ∧ p.strField? "worker_id" = some workerId
  named : workerId ≠ ""

variable {parseJson}

theorem decodeJsonSegment_eq_ok :
    decodeJsonSegment parseJson segment = .ok v ↔ SegmentHolds parseJson segment v := by
  simp only [decodeJsonSegment, bind_eq_ok, base64urlDecode_eq_ok, mapError_eq_ok]
  constructor
  · rintro ⟨bytes, ⟨digits, hdigits, spelled, regroups⟩, value⟩
    exact ⟨digits, bytes, hdigits, spelled, regroups, value⟩
  · rintro ⟨digits, bytes, hdigits, spelled, regroups, value⟩
    exact ⟨bytes, ⟨digits, hdigits, spelled, regroups⟩, value⟩

theorem SegmentHolds.dot_notMem (h : SegmentHolds parseJson segment v) : '.' ∉ segment := by
  obtain ⟨digits, -, hdigits, rfl, -⟩ := h
  have other : ∀ d < 64, base64urlChar d ≠ '.' := by decide +kernel
  intro mem
  obtain ⟨d, hd, char⟩ := List.mem_map.mp mem
  exact other d (hdigits d hd) char

theorem splitOn_dot_iff {token : List Char} (hh : '.' ∉ header) (hp : '.' ∉ payload) :
    token.splitOn '.' = [header, payload, []] ↔ token = header ++ '.' :: (payload ++ ['.']) := by
  constructor
  · intro h
    have whole : ['.'].intercalate (token.splitOn '.') = token := List.intercalate_splitOn '.'
    rw [h] at whole
    rw [← whole]
    simp
  · rintro rfl
    rw [List.splitOn_append_cons_self, List.splitOn_append_cons_self, List.splitOn_eq_singleton hh,
      List.splitOn_eq_singleton hp]
    rfl

theorem fakeJwtWorkerId_segments (h : fakeJwtWorkerId parseJson token = .ok workerId) :
    ∃ header payload, token.toList.splitOn '.' = [header, payload, []] := by
  unfold fakeJwtWorkerId at h
  split at h
  case h_1 header payload cut => exact ⟨header, payload, cut⟩
  case h_2 => cases h

theorem fakeJwtWorkerId_of_segments (cut : token.toList.splitOn '.' = [header, payload, []]) :
    fakeJwtWorkerId parseJson token = .ok workerId ↔
      ∃ h, SegmentHolds parseJson header h ∧
        (h.strField? "alg" = some "none" ∧ h.strField? "typ" = some "JWT") ∧
        ∃ p, SegmentHolds parseJson payload p ∧
          (p.get? "exp").bind Json.asI64? = some 32503680000 ∧
          p.strField? "sub" = some "ah-worker-session" ∧
          p.strField? "worker_id" = some workerId ∧ workerId ≠ "" := by
  simp only [fakeJwtWorkerId, cut, bind_eq_ok, check_eq_ok, decodeJsonSegment_eq_ok, not_or,
    not_not, elim_eq_ok, Option.filter_eq_some_iff, decide_eq_true_iff]

/-- The decoder accepts exactly the tokens of the design, each for the worker it names. -/
theorem fakeJwtWorkerId_eq_ok :
    fakeJwtWorkerId parseJson token = .ok workerId ↔ IsFakeWorkerJwt parseJson token workerId := by
  constructor
  · intro accepted
    obtain ⟨header, payload, cut⟩ := fakeJwtWorkerId_segments accepted
    obtain ⟨h, hh, ⟨alg, typ⟩, p, hp, exp, sub, worker, named⟩ :=
      (fakeJwtWorkerId_of_segments cut).mp accepted
    have whole := (splitOn_dot_iff hh.dot_notMem hp.dot_notMem).mp cut
    exact ⟨⟨header, payload, h, p, whole, hh, hp, alg, typ, exp, sub, worker⟩, named⟩
  · rintro ⟨⟨header, payload, h, p, whole, hh, hp, alg, typ, exp, sub, worker⟩, named⟩
    have cut := (splitOn_dot_iff hh.dot_notMem hp.dot_notMem).mpr whole
    exact (fakeJwtWorkerId_of_segments cut).mpr ⟨h, hh, ⟨alg, typ⟩, p, hp, exp, sub, worker, named⟩

/-- What is assumed of the JSON library: it reads the two texts of the worker's own token. -/
structure ReadsWorkerJwt (parseJson : List UInt8 → Except String Json) (workerId : String) :
    Prop where
  header : ∃ h, parseJson (Utf8.encode jwtHeader) = .ok h ∧
    h.strField? "alg" = some "none" ∧ h.strField? "typ" = some "JWT"
  payload : ∃ p, parseJson (Utf8.encode (jwtPayload workerId)) = .ok p ∧
    (p.get? "exp").bind Json.asI64? = some 32503680000 ∧
    p.strField? "sub" = some "ah-worker-session" ∧ p.strField? "worker_id" = some workerId

theorem segmentHolds_encode (value : parseJson bytes = .ok v) :
    SegmentHolds parseJson (base64urlEncode bytes) v := by
  obtain ⟨digits, hdigits, spelled, regroups⟩ :=
    base64urlDecode_eq_ok.mp (base64urlDecode_encode bytes)
  exact ⟨digits, bytes, hdigits, spelled, regroups, value⟩

theorem isFakeWorkerJwt_fakeWorkerJwt (reads : ReadsWorkerJwt parseJson workerId)
    (named : workerId ≠ "") : IsFakeWorkerJwt parseJson (fakeWorkerJwt workerId) workerId := by
  obtain ⟨h, hh, alg, typ⟩ := reads.header
  obtain ⟨p, hp, exp, sub, worker⟩ := reads.payload
  refine ⟨⟨_, _, h, p, ?_, segmentHolds_encode hh, segmentHolds_encode hp, alg, typ, exp, sub,
    worker⟩, named⟩
  rw [fakeWorkerJwt, String.toList_ofList]

end

end Ccbd.Gateway
