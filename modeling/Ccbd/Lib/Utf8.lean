import Mathlib.Algebra.Order.Ring.Int
import Mathlib.Data.List.Basic

/-!
# UTF-8 with replacement

The lossy decoder as a transducer: it holds the bytes of a character that is not complete
yet and emits a character, or the replacement character for a sequence that cannot become
one. At the end of the input an incomplete character is replaced.

The decoder emits at least one character for each byte that is no continuation byte, and a
piece that begins with a continuation byte makes it emit one more: this is how text is lost
when an encoded text is decoded in pieces.
-/

namespace Ccbd.Lib.Utf8

def replacement : Char := '�'

/-- The number of bytes of a character by its first byte; 0 if no character begins so. -/
def width (b : UInt8) : Nat :=
  if b.toNat < 0x80 then 1
  else if b.toNat < 0xC2 then 0
  else if b.toNat < 0xE0 then 2
  else if b.toNat < 0xF0 then 3
  else if b.toNat < 0xF5 then 4
  else 0

def isContinuation (b : UInt8) : Bool := 0x80 ≤ b.toNat && b.toNat < 0xC0

/-- `b` may follow the bytes already seen. After some first bytes not every continuation
byte can come second: the encoding would be longer than needed, a surrogate, or too
large. -/
def continues : List UInt8 → UInt8 → Bool
  | [a], b =>
    isContinuation b &&
      (if a.toNat = 0xE0 then 0xA0 ≤ b.toNat
        else if a.toNat = 0xED then b.toNat < 0xA0
        else if a.toNat = 0xF0 then 0x90 ≤ b.toNat
        else if a.toNat = 0xF4 then b.toNat < 0x90
        else true)
  | _, b => isContinuation b

/-- The number that the bytes of a character denote. -/
def scalar : List UInt8 → Nat
  | [] => 0
  | a :: rest =>
    let lead := if width a = 1 then a.toNat else a.toNat % 2 ^ (7 - width a)
    rest.foldl (fun n b => n * 64 + b.toNat % 64) lead

def charOf (bytes : List UInt8) : Char := Char.ofNat (scalar bytes)

/-- What is emitted for a byte with nothing pending, and what is pending after it. -/
def begin (b : UInt8) : List Char × List UInt8 :=
  if width b = 0 then ([replacement], [])
  else if width b = 1 then ([charOf [b]], [])
  else ([], [b])

def step : List UInt8 → UInt8 → List Char × List UInt8
  | [], b => begin b
  | a :: more, b =>
    if continues (a :: more) b then
      if more.length + 2 = width a then ([charOf (a :: more ++ [b])], [])
      else ([], a :: more ++ [b])
    else (replacement :: (begin b).1, (begin b).2)

def decodeFrom (pending : List UInt8) : List UInt8 → List Char
  | [] => if pending.isEmpty then [] else [replacement]
  | b :: bs => (step pending b).1 ++ decodeFrom (step pending b).2 bs

def decodeLossy (bytes : List UInt8) : List Char := decodeFrom [] bytes

def encode (text : List Char) : List UInt8 := text.flatMap String.utf8EncodeChar

@[simp] theorem encode_nil : encode [] = [] := rfl

@[simp] theorem encode_cons (c : Char) (text : List Char) :
    encode (c :: text) = String.utf8EncodeChar c ++ encode text := rfl

/-! ## Decoding what was encoded -/

section Characters

variable {a b c d : UInt8} (bs : List UInt8)

theorem decodeFrom_one (wide : width a = 1) :
    decodeFrom [] (a :: bs) = charOf [a] :: decodeFrom [] bs := by
  simp [decodeFrom, step, begin, wide]

theorem decodeFrom_two (wide : width a = 2) (second : continues [a] b = true) :
    decodeFrom [] (a :: b :: bs) = charOf [a, b] :: decodeFrom [] bs := by
  simp [decodeFrom, step, begin, wide, second]

theorem decodeFrom_three (wide : width a = 3) (second : continues [a] b = true)
    (third : isContinuation c = true) :
    decodeFrom [] (a :: b :: c :: bs) = charOf [a, b, c] :: decodeFrom [] bs := by
  have third : continues [a, b] c = true := third
  simp [decodeFrom, step, begin, wide, second, third]

theorem decodeFrom_four (wide : width a = 4) (second : continues [a] b = true)
    (third : isContinuation c = true) (fourth : isContinuation d = true) :
    decodeFrom [] (a :: b :: c :: d :: bs) = charOf [a, b, c, d] :: decodeFrom [] bs := by
  have third : continues [a, b] c = true := third
  have fourth : continues [a, b, c] d = true := fourth
  simp [decodeFrom, step, begin, wide, second, third, fourth]

end Characters

theorem toNat_byte {n : Nat} (small : n < 256) : (UInt8.ofNat n).toNat = n :=
  UInt8.toNat_ofNat_of_lt small

theorem toNat_continuation (n : Nat) : (UInt8.ofNat (n % 64 + 128)).toNat = n % 64 + 128 :=
  toNat_byte (by omega)

theorem isContinuation_ofNat (n : Nat) : isContinuation (UInt8.ofNat (n % 64 + 128)) = true := by
  simp only [isContinuation, toNat_continuation, Bool.and_eq_true, decide_eq_true_eq]
  omega

theorem scalar_of_width {a : UInt8} {n m : Nat} (rest : List UInt8) (wide : width a = n)
    (several : n ≠ 1) (bits : 2 ^ (7 - n) = m) :
    scalar (a :: rest) = rest.foldl (fun n b => n * 64 + b.toNat % 64) (a.toNat % m) := by
  simp [scalar, wide, several, bits]

section Encoded

variable {v : Nat} (bs : List UInt8)

theorem decodeFrom_encoded_one (most : v ≤ 127) :
    decodeFrom [] (UInt8.ofNat v :: bs) = Char.ofNat v :: decodeFrom [] bs := by
  have lead : (UInt8.ofNat v).toNat = v := toNat_byte (by omega)
  have wide : width (UInt8.ofNat v) = 1 := by grind [width]
  rw [decodeFrom_one bs wide]
  simp [charOf, scalar, wide, lead]

theorem decodeFrom_encoded_two (least : 128 ≤ v) (most : v ≤ 2047) :
    decodeFrom [] (UInt8.ofNat (v / 64 % 32 + 192) :: UInt8.ofNat (v % 64 + 128) :: bs) =
      Char.ofNat v :: decodeFrom [] bs := by
  have lead : (UInt8.ofNat (v / 64 % 32 + 192)).toNat = v / 64 % 32 + 192 := toNat_byte (by omega)
  have wide : width (UInt8.ofNat (v / 64 % 32 + 192)) = 2 := by grind [width]
  have second : continues [UInt8.ofNat (v / 64 % 32 + 192)] (UInt8.ofNat (v % 64 + 128)) := by
    simp only [continues, isContinuation_ofNat]
    grind
  have value : scalar [UInt8.ofNat (v / 64 % 32 + 192), UInt8.ofNat (v % 64 + 128)] = v := by
    rw [scalar_of_width _ wide (by decide) rfl]
    simp only [List.foldl_cons, List.foldl_nil, toNat_continuation]
    omega
  rw [decodeFrom_two bs wide second, charOf, value]

theorem decodeFrom_encoded_three (least : 2048 ≤ v) (most : v ≤ 65535)
    (valid : v < 55296 ∨ 57343 < v) :
    decodeFrom [] (UInt8.ofNat (v / 4096 % 16 + 224) :: UInt8.ofNat (v / 64 % 64 + 128) ::
      UInt8.ofNat (v % 64 + 128) :: bs) = Char.ofNat v :: decodeFrom [] bs := by
  have lead : (UInt8.ofNat (v / 4096 % 16 + 224)).toNat = v / 4096 % 16 + 224 :=
    toNat_byte (by omega)
  have wide : width (UInt8.ofNat (v / 4096 % 16 + 224)) = 3 := by grind [width]
  have second : continues [UInt8.ofNat (v / 4096 % 16 + 224)]
      (UInt8.ofNat (v / 64 % 64 + 128)) := by
    simp only [continues, isContinuation_ofNat, toNat_continuation]
    grind
  have value : scalar [UInt8.ofNat (v / 4096 % 16 + 224), UInt8.ofNat (v / 64 % 64 + 128),
      UInt8.ofNat (v % 64 + 128)] = v := by
    rw [scalar_of_width _ wide (by decide) rfl]
    simp only [List.foldl_cons, List.foldl_nil, toNat_continuation]
    omega
  rw [decodeFrom_three bs wide second (isContinuation_ofNat v), charOf, value]

theorem decodeFrom_encoded_four (least : 65536 ≤ v) (most : v < 1114112) :
    decodeFrom [] (UInt8.ofNat (v / 262144 % 8 + 240) :: UInt8.ofNat (v / 4096 % 64 + 128) ::
      UInt8.ofNat (v / 64 % 64 + 128) :: UInt8.ofNat (v % 64 + 128) :: bs) =
      Char.ofNat v :: decodeFrom [] bs := by
  have lead : (UInt8.ofNat (v / 262144 % 8 + 240)).toNat = v / 262144 % 8 + 240 :=
    toNat_byte (by omega)
  have wide : width (UInt8.ofNat (v / 262144 % 8 + 240)) = 4 := by grind [width]
  have second : continues [UInt8.ofNat (v / 262144 % 8 + 240)]
      (UInt8.ofNat (v / 4096 % 64 + 128)) := by
    simp only [continues, isContinuation_ofNat, toNat_continuation]
    grind
  have value : scalar [UInt8.ofNat (v / 262144 % 8 + 240), UInt8.ofNat (v / 4096 % 64 + 128),
      UInt8.ofNat (v / 64 % 64 + 128), UInt8.ofNat (v % 64 + 128)] = v := by
    rw [scalar_of_width _ wide (by decide) rfl]
    simp only [List.foldl_cons, List.foldl_nil, toNat_continuation]
    omega
  rw [decodeFrom_four bs wide second (isContinuation_ofNat _) (isContinuation_ofNat v), charOf,
    value]

end Encoded

theorem decodeFrom_encodeChar (c : Char) (bs : List UInt8) :
    decodeFrom [] (String.utf8EncodeChar c ++ bs) = c :: decodeFrom [] bs := by
  have valid := c.valid
  have char : Char.ofNat c.val.toNat = c := Char.ofNat_toNat c
  simp only [UInt32.isValidChar] at valid
  simp only [String.utf8EncodeChar]
  generalize c.val.toNat = v at valid char ⊢
  subst char
  -- the cases of the encoder, by the number of bytes
  split_ifs with one two three
  · exact decodeFrom_encoded_one bs one
  · exact decodeFrom_encoded_two bs (by omega) two
  · exact decodeFrom_encoded_three bs (by omega) three (by omega)
  · exact decodeFrom_encoded_four bs (by omega) (by omega)

theorem decodeLossy_encode (text : List Char) : decodeLossy (encode text) = text := by
  induction text with
  | nil => rfl
  | cons c text ih =>
    rw [encode_cons, decodeLossy, decodeFrom_encodeChar]
    exact congrArg (c :: ·) ih

theorem encode_injective : Function.Injective encode := by
  intro text text' same
  rw [← decodeLossy_encode text, same, decodeLossy_encode]

/-! ## Counting the bytes that begin a character -/

/-- The bytes that are no continuation bytes. -/
def leads (bs : List UInt8) : Nat := bs.countP (!isContinuation ·)

theorem leads_append (xs ys : List UInt8) : leads (xs ++ ys) = leads xs + leads ys :=
  List.countP_append

/-- The piece begins within a character. -/
def beginsInside (bs : List UInt8) : Bool := bs.head?.any isContinuation

theorem continues_isContinuation {pending : List UInt8} {b : UInt8}
    (h : continues pending b = true) : isContinuation b = true := by
  fun_cases continues pending b <;> grind [continues]

theorem width_of_isContinuation {b : UInt8} (h : isContinuation b = true) : width b = 0 := by
  grind [width, isContinuation]

/-- A step loses neither the pending character nor the one that the byte may begin. -/
theorem step_emits (pending : List UInt8) (b : UInt8) :
    pending.isEmpty.not.toNat + leads [b] ≤
      (step pending b).1.length + (step pending b).2.isEmpty.not.toNat := by
  have one : leads [b] ≤ 1 := List.countP_le_length
  have fresh : leads [b] ≤ (begin b).1.length + (begin b).2.isEmpty.not.toNat := by
    unfold begin
    split_ifs <;> simpa using one
  fun_cases step pending b with
  | case1 => simpa using fresh
  | case2 a more full h | case3 a more full h =>
    have : leads [b] = 0 := by simp [leads, continues_isContinuation h]
    simp [this]
  | case4 a more h =>
    simp only [List.isEmpty_cons, Bool.not_false, Bool.toNat_true, List.length_cons]
    omega

theorem leads_le_length_decodeFrom (pending bs : List UInt8) :
    pending.isEmpty.not.toNat + leads bs ≤ (decodeFrom pending bs).length := by
  induction bs generalizing pending with
  | nil => cases pending <;> simp [decodeFrom, leads]
  | cons b bs ih =>
    have first := step_emits pending b
    have rest := ih (step pending b).2
    have sum : leads (b :: bs) = leads [b] + leads bs := leads_append [b] bs
    rw [decodeFrom, List.length_append, sum]
    omega

/-- A piece that begins within a character is decoded to one character too many. -/
theorem leads_le_length_decodeLossy (bs : List UInt8) :
    leads bs + (beginsInside bs).toNat ≤ (decodeLossy bs).length := by
  cases bs with
  | nil => simp [leads, beginsInside]
  | cons b bs =>
    cases inside : isContinuation b with
    | false => simpa [beginsInside, inside, decodeLossy] using leads_le_length_decodeFrom [] (b :: bs)
    | true =>
      have rest := leads_le_length_decodeFrom [] bs
      simp [leads, beginsInside, inside, decodeLossy, decodeFrom, step, begin,
        width_of_isContinuation inside] at rest ⊢
      omega

theorem encodeChar_eq_cons (c : Char) :
    ∃ b more, String.utf8EncodeChar c = b :: more ∧ isContinuation b = false ∧
      ∀ x ∈ more, isContinuation x = true := by
  have valid := c.valid
  simp only [String.utf8EncodeChar]
  generalize c.val.toNat = v at valid ⊢
  have lead : ∀ {n : Nat}, n < 256 → (n < 128 ∨ 192 ≤ n) →
      isContinuation (UInt8.ofNat n) = false := by
    intro n small first
    simp only [isContinuation, toNat_byte small]
    grind
  have continuations : ∀ ns : List Nat, ∀ x ∈ ns.map (fun n => UInt8.ofNat (n % 64 + 128)),
      isContinuation x = true := by
    intro ns x mem
    obtain ⟨n, -, rfl⟩ := List.mem_map.mp mem
    exact isContinuation_ofNat n
  split_ifs
  · exact ⟨_, [], rfl, lead (by omega) (by omega), continuations []⟩
  · exact ⟨_, _, rfl, lead (by omega) (by omega), continuations [v]⟩
  · exact ⟨_, _, rfl, lead (by omega) (by omega), continuations [v / 64, v]⟩
  · exact ⟨_, _, rfl, lead (by omega) (by omega), continuations [v / 4096, v / 64, v]⟩

theorem leads_encode (text : List Char) : leads (encode text) = text.length := by
  induction text with
  | nil => rfl
  | cons c text ih =>
    obtain ⟨b, more, bytes, first, others⟩ := encodeChar_eq_cons c
    have none : more.countP (!isContinuation ·) = 0 := by
      rw [List.countP_eq_zero]
      intro x mem
      simp [others x mem]
    rw [encode_cons, leads_append, ih, bytes, leads, List.countP_cons_of_pos (by simp [first]),
      none,
      List.length_cons]
    omega

/-! ## Decoding in pieces -/

theorem encode_eq_append {text : List Char} {front back : List UInt8}
    (h : encode text = front ++ back) (outside : beginsInside back = false) :
    ∃ s t, text = s ++ t ∧ front = encode s ∧ back = encode t := by
  induction text generalizing front with
  | nil =>
    obtain ⟨rfl, rfl⟩ := List.append_eq_nil_iff.mp h.symm
    exact ⟨[], [], rfl, rfl, rfl⟩
  | cons c text ih =>
    obtain ⟨b, more, bytes, first, others⟩ := encodeChar_eq_cons c
    rw [encode_cons] at h
    rcases List.append_eq_append_iff.mp h with ⟨rest, front_eq, text_eq⟩ | ⟨cut, char_eq, back_eq⟩
    · -- the first character lies before the cut
      obtain ⟨s, t, rfl, rest_eq, back_eq⟩ := ih text_eq
      exact ⟨c :: s, t, rfl, by rw [front_eq, rest_eq, encode_cons], back_eq⟩
    · cases front with
      | nil => exact ⟨[], c :: text, rfl, rfl, by simpa [char_eq] using back_eq⟩
      | cons f front =>
        -- what the cut leaves of the character are continuation bytes
        rw [bytes, List.cons_append, List.cons.injEq] at char_eq
        cases cut with
        | nil =>
          refine ⟨[c], text, rfl, ?_, by simpa using back_eq⟩
          simp [bytes, char_eq.1, char_eq.2]
        | cons x cut =>
          have inside := others x (by simp [char_eq.2])
          simp [beginsInside, back_eq, inside] at outside

theorem beginsInside_flatten {chunks : List (List UInt8)} (nonempty : ∀ c ∈ chunks, c ≠ [])
    (outside : ∀ c ∈ chunks, beginsInside c = false) : beginsInside chunks.flatten = false := by
  cases chunks with
  | nil => rfl
  | cons c chunks =>
    have first := nonempty c List.mem_cons_self
    have := outside c List.mem_cons_self
    cases c with
    | nil => exact absurd rfl first
    | cons b bs => simpa [beginsInside] using this

theorem leads_flatten_le (chunks : List (List UInt8)) :
    leads chunks.flatten + chunks.countP beginsInside ≤ (chunks.flatMap decodeLossy).length := by
  induction chunks with
  | nil => simp [leads]
  | cons c chunks ih =>
    have first := leads_le_length_decodeLossy c
    rw [List.flatten_cons, leads_append, List.flatMap_cons, List.length_append, List.countP_cons]
    cases inside : beginsInside c <;>
      simp only [inside, Bool.toNat_true, reduceIte, Bool.false_eq_true] at first ⊢
    all_goals omega

/-- Decoded in pieces, an encoded text comes out as it is exactly if no piece begins within
a character. -/
theorem flatMap_decodeLossy_iff {text : List Char} {chunks : List (List UInt8)}
    (whole : chunks.flatten = encode text) (nonempty : ∀ c ∈ chunks, c ≠ []) :
    chunks.flatMap decodeLossy = text ↔ ∀ c ∈ chunks, beginsInside c = false := by
  constructor
  · intro same
    have bound := leads_flatten_le chunks
    rw [whole, leads_encode, same] at bound
    have none : chunks.countP beginsInside = 0 := by omega
    intro c mem
    simpa using List.countP_eq_zero.mp none c mem
  · intro outside
    induction chunks generalizing text with
    | nil =>
      have := congrArg decodeLossy whole
      rw [decodeLossy_encode] at this
      exact this
    | cons c chunks ih =>
      simp only [List.forall_mem_cons] at nonempty outside
      obtain ⟨s, t, rfl, rfl, rest⟩ := encode_eq_append whole.symm
        (beginsInside_flatten nonempty.2 outside.2)
      rw [List.flatMap_cons, decodeLossy_encode, ih rest nonempty.2 outside.2]

end Ccbd.Lib.Utf8
