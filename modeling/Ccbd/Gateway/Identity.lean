import Ccbd.Gateway.Forwarding

/-!
# The identity of a worker

The gateway writes the id of a worker into the JSON text of its token by hand, and the JSON
library reads it back. Three of the control characters are escaped on the way; the others
stand in the text as they are, and no JSON text has such a character.
-/

namespace Ccbd.Gateway

open Lib

variable {parseJson : List UInt8 → Except String Json} {workerId : String}

/-- What the characters after a backslash in a JSON string stand for. The gateway writes no
escapes by number. -/
def shortEscapes : List (Char × Char) :=
  [('"', '"'), ('\\', '\\'), ('/', '/'), ('b', '\x08'), ('f', '\x0c'), ('n', '\n'), ('r', '\r'),
    ('t', '\t')]

/-- What the inside of a JSON string stands for. -/
def jsonUnescape : List Char → Option (List Char)
  | [] => some []
  | '\\' :: e :: rest => do return (← shortEscapes.lookup e) :: (← jsonUnescape rest)
  | c :: rest =>
    if c = '"' ∨ c = '\\' ∨ c.toNat < 0x20 then none else do return c :: (← jsonUnescape rest)

/-- A control character that is no white space. -/
def isBareControl (c : Char) : Bool := c.toNat < 0x20 && !(c = '\n' || c = '\r' || c = '\t')

/-- What is used of a library that parses exactly the JSON texts: how it reads the two texts of
the worker's token. -/
structure ParsesJwt (parseJson : List UInt8 → Except String Json) (workerId : String) : Prop where
  header : ∃ h, parseJson (Utf8.encode jwtHeader) = .ok h ∧
    h.strField? "alg" = some "none" ∧ h.strField? "typ" = some "JWT"
  payload : ∀ text, jsonUnescape (jsonEscape workerId.toList) = some text →
    ∃ p, parseJson (Utf8.encode (jwtPayload workerId)) = .ok p ∧
      (p.get? "exp").bind Json.asI64? = some 32503680000 ∧
      p.strField? "sub" = some "ah-worker-session" ∧
      p.strField? "worker_id" = some (String.ofList text)
  control : (jwtPayload workerId).any isBareControl = true →
    ∀ p, parseJson (Utf8.encode (jwtPayload workerId)) ≠ .ok p

theorem jsonUnescape_jsonEscape (plain : text.any isBareControl = false) :
    jsonUnescape (jsonEscape text) = some text := by
  induction text with
  | nil => rfl
  | cons c text ih =>
    rw [List.any_cons, Bool.or_eq_false_iff] at plain
    have rest := ih plain.2
    have first : jsonEscape (c :: text) = jsonEscape [c] ++ jsonEscape text := by
      simp [jsonEscape]
    rw [first]
    by_cases escaped : c = '"' ∨ c = '\\' ∨ c = '\n' ∨ c = '\r' ∨ c = '\t'
    · have unescaped (e : Char) : jsonUnescape ('\\' :: e :: jsonEscape text) =
          (shortEscapes.lookup e).map (· :: text) := by
        cases found : shortEscapes.lookup e <;> simp [jsonUnescape, found, rest]
      rcases escaped with rfl | rfl | rfl | rfl | rfl <;> exact unescaped _
    · simp only [not_or] at escaped
      obtain ⟨quote, backslash, newline, carriageReturn, tab⟩ := escaped
      have printable : ¬c.toNat < 0x20 := by
        simpa [isBareControl, newline, carriageReturn, tab] using plain.1
      have same : jsonEscape [c] = [c] := by
        simp [jsonEscape, quote, backslash, newline, carriageReturn, tab]
      rw [same, List.singleton_append, jsonUnescape]
      · simp [quote, backslash, printable, rest]
      · exact fun e _ here => absurd here backslash

theorem mem_jsonEscape (bare : isBareControl c = true) (mem : c ∈ text) : c ∈ jsonEscape text := by
  refine List.mem_flatMap.mpr ⟨c, mem, ?_⟩
  have others : c ≠ '"' ∧ c ≠ '\\' ∧ c ≠ '\n' ∧ c ≠ '\r' ∧ c ≠ '\t' := by
    refine ⟨?_, ?_, ?_, ?_, ?_⟩ <;> rintro rfl <;> exact absurd bare (by decide)
  simp [others]

theorem reads_of_fakeJwtWorkerId
    (accepted : fakeJwtWorkerId parseJson (fakeWorkerJwt workerId) = .ok workerId) :
    ReadsWorkerJwt parseJson workerId := by
  have apart (bytes : List UInt8) : '.' ∉ base64urlEncode bytes := by
    have holds : SegmentHolds (fun _ => .ok .null) (base64urlEncode bytes) .null :=
      segmentHolds_encode rfl
    exact holds.dot_notMem
  have read {text : List Char} {v : Json}
      (holds : SegmentHolds parseJson (base64urlEncode (Utf8.encode text)) v) :
      parseJson (Utf8.encode text) = .ok v := by
    have decoded := decodeJsonSegment_eq_ok.mpr holds
    rwa [decodeJsonSegment, base64urlDecode_encode, ok_bind, mapError_eq_ok] at decoded
  have cut := (splitOn_dot_iff (apart (Utf8.encode jwtHeader))
    (apart (Utf8.encode (jwtPayload workerId)))).mpr rfl
  rw [← String.toList_ofList (l := _ ++ _), ← fakeWorkerJwt] at cut
  obtain ⟨h, hh, ⟨alg, typ⟩, p, hp, exp, sub, worker, -⟩ :=
    (fakeJwtWorkerId_of_segments cut).mp accepted
  exact ⟨⟨h, read hh, alg, typ⟩, p, read hp, exp, sub, worker⟩

theorem ParsesJwt.reads_iff (parses : ParsesJwt parseJson workerId) :
    ReadsWorkerJwt parseJson workerId ↔ workerId.toList.any isBareControl = false := by
  constructor
  · rintro ⟨-, p, read, -⟩
    rw [← Bool.not_eq_true, List.any_eq_true]
    rintro ⟨c, mem, bare⟩
    refine parses.control (List.any_eq_true.mpr ⟨c, ?_, bare⟩) p read
    exact List.mem_append_right _ (List.mem_append_left _ (mem_jsonEscape bare mem))
  · intro plain
    have read := parses.payload _ (jsonUnescape_jsonEscape plain)
    rw [String.ofList_toList] at read
    exact ⟨parses.header, read⟩

/-- A worker is recognised by its token exactly if its id has no control character besides
white space. -/
theorem worker_roundTrip_iff (parses : ParsesJwt parseJson workerId) (named : workerId ≠ "") :
    fakeJwtWorkerId parseJson (fakeWorkerJwt workerId) = .ok workerId ↔
      workerId.toList.any isBareControl = false := by
  rw [← parses.reads_iff]
  refine ⟨reads_of_fakeJwtWorkerId, fun reads => ?_⟩
  exact fakeJwtWorkerId_eq_ok.mpr (isFakeWorkerJwt_fakeWorkerJwt reads named)

theorem worker_roundTrip_newline : ParsesJwt (workerJson "a\n1") "a\n1" ∧
    fakeJwtWorkerId (workerJson "a\n1") (fakeWorkerJwt "a\n1") = .ok "a\n1" := by
  obtain ⟨header, payload⟩ := reads_workerJson "a\n1"
  have parses : ParsesJwt (workerJson "a\n1") "a\n1" := by
    refine ⟨header, fun text read => ?_, fun bare => absurd bare (by decide)⟩
    rw [jsonUnescape_jsonEscape (by decide)] at read
    cases read
    exact payload
  exact ⟨parses, (worker_roundTrip_iff parses (by decide)).mpr (by decide)⟩

/-- The token of a worker whose id is the escape character is refused. -/
theorem not_worker_roundTrip : ¬∀ parseJson workerId, ParsesJwt parseJson workerId →
    workerId ≠ "" → fakeJwtWorkerId parseJson (fakeWorkerJwt workerId) = .ok workerId := by
  intro all
  have refused : ∀ p, workerJson "" (Utf8.encode (jwtPayload "\x1b")) ≠ .ok p := by
    rw [workerJson, if_neg (by decide +kernel), if_neg (by decide +kernel)]
    exact fun _ => nofun
  have unread : jsonUnescape (jsonEscape "\x1b".toList) = none := by decide
  have parses : ParsesJwt (workerJson "") "\x1b" :=
    ⟨(reads_workerJson "").header, fun _ read => (nomatch unread.symm.trans read), fun _ => refused⟩
  have reads := reads_of_fakeJwtWorkerId (all _ _ parses (by decide))
  exact absurd (parses.reads_iff.mp reads) (by decide)

end Ccbd.Gateway
