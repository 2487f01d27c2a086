import Dynaxis.Gateway.DirectTransport

namespace Dynaxis.Gateway

open Shared Shared.Bytes Protocol List

/-- `read_lp_utf8` with the span and the string it assigns. -/
def readLpUtf8Into (input : Bytes) (out : Text) : Bool × Bytes × Text :=
 if input.length < 2 then (false, input, out)
 else
  let length := readBe16 input 0
  if input.length < 2 + length then (false, input, out)
  else
   let payload := (input.drop 2).take length
   if !isValidUtf8 payload then (false, input, out)
   else (true, input.drop (2 + length), textOf payload)

theorem map_textOf (bytes : Bytes) : ((textOf bytes).map fun letter => UInt8.ofNat letter.toNat) = bytes := by
 rw [textOf, map_map]
 refine (map_congr_left fun byte _ => ?_).trans (map_id bytes)
 have letters : ∀ code < 256, (Char.ofNat code).toNat = code := by decide +kernel
 rw [Function.comp, letters _ byte.toNat_lt, UInt8.ofNat_toNat, id]

theorem writeLpUtf8_textOf (bytes : Bytes) :
  writeLpUtf8 (textOf bytes) = writeBe16 (bytes.take 0xFFFF).length ++ bytes.take 0xFFFF := by
 simp only [writeLpUtf8, map_take, map_textOf]
 simp [textOf]

theorem readBe16_writeBe16 {value : Nat} (short : value < 65536) (rest : Bytes) :
  readBe16 (writeBe16 value ++ rest) 0 = value := by
 simp only [writeBe16, cons_append, readBe16, byteAt_cons_zero, byteAt_cons_succ, toNat_ofNat, be16_digits]
 exact Nat.mod_eq_of_lt short

theorem drop_writeBe16 (value : Nat) (rest : Bytes) : (writeBe16 value ++ rest).drop 2 = rest := rfl

theorem readLpUtf8_prefixed {payload : Bytes} (short : payload.length < 65536) (rest : Bytes) :
  readLpUtf8 (writeBe16 payload.length ++ payload ++ rest) =
   if isValidUtf8 payload then some (textOf payload, rest) else none := by
 have whole : (writeBe16 payload.length ++ (payload ++ rest)).length = 2 + payload.length + rest.length := by
  simp only [writeBe16, length_append, length_cons, length_nil]
  omega
 have enough : ¬ 2 + payload.length + rest.length < 2 := by omega
 cases valid : isValidUtf8 payload <;>
  simp [readLpUtf8, readBe16_writeBe16 short, whole, enough, valid, drop_writeBe16, <- drop_drop]

theorem length_take_short (bytes : Bytes) : (bytes.take 0xFFFF).length < 65536 := by
 rw [length_take]
 omega

theorem readLpUtf8_writeLpUtf8 {bytes : Bytes} (valid : isValidUtf8 (bytes.take 0xFFFF)) (rest : Bytes) :
  readLpUtf8 (writeLpUtf8 (textOf bytes) ++ rest) = some (textOf (bytes.take 0xFFFF), rest) := by
 rw [writeLpUtf8_textOf, readLpUtf8_prefixed (length_take_short bytes), if_pos valid]

theorem writeLpUtf8_readLpUtf8 {bytes rest : Bytes} {text : Text} (read : readLpUtf8 bytes = some (text, rest)) :
  writeLpUtf8 text ++ rest = bytes := by
 simp only [readLpUtf8, Option.ite_none_left_eq_some, Option.some.injEq, Prod.mk.injEq, not_or, not_lt] at read
 obtain ⟨prefixed, ⟨whole, -⟩, rfl, rfl⟩ := read
 have short := readBe16_lt bytes 0
 have length : ((bytes.drop 2).take (readBe16 bytes 0)).length = readBe16 bytes 0 := by
  rw [length_take, length_drop]
  omega
 rw [writeLpUtf8_textOf, take_of_length_le (by omega), length, writeBe16_readBe16, bytesAt_zero bytes prefixed,
  <- drop_drop, append_assoc, take_append_drop, take_append_drop]

/-- A string is read back up to the cut just when the cut does not go through a character; a failed read
assigns nothing. -/
theorem lp_string_is_read_back (bytes rest : Bytes) (out : Text) :
  (readLpUtf8Into (writeLpUtf8 (textOf bytes) ++ rest) out = (true, rest, textOf (bytes.take 0xFFFF)) /\
   (bytes.length ≤ 65535 -> textOf (bytes.take 0xFFFF) = textOf bytes) /\
   ∀ input, (readLpUtf8Into input out).1 = false -> (readLpUtf8Into input out).2 = (input, out)) ↔
  isValidUtf8 (bytes.take 0xFFFF) = true := by
 have same (input : Bytes) : readLpUtf8Into input out =
   (readLpUtf8 input).elim (false, input, out) fun read => (true, read.2, read.1) := by
  simp only [readLpUtf8Into, readLpUtf8]
  split_ifs <;> simp_all
  omega
 have read := readLpUtf8_prefixed (length_take_short bytes) rest
 rw [<- writeLpUtf8_textOf] at read
 cases valid : isValidUtf8 (bytes.take 0xFFFF) with
 | false =>
  refine iff_of_false ?_ Bool.noConfusion
  rintro ⟨succeeds, -⟩
  rw [same, read, valid] at succeeds
  cases succeeds
 | true =>
  refine iff_of_true ⟨by rw [same, read, valid]; rfl, fun short => by rw [take_of_length_le short],
   fun input => ?_⟩ rfl
  rw [same]
  cases readLpUtf8 input with
  | none => exact fun _ => rfl
  | some found => exact fun failed => by cases failed

theorem isValidUtf8_ascii (count : Nat) (tail : Bytes) :
  isValidUtf8 (replicate count 97 ++ tail) = isValidUtf8 tail := by
 induction count with
 | zero => rfl
 | succ count ih => exact ih

/-- A character of two bytes at the cut. -/
theorem cut_character_is_refused : ∃ bytes, isValidUtf8 bytes = true /\
  readLpUtf8 (writeLpUtf8 (textOf bytes)) = none := by
 refine ⟨replicate 65534 97 ++ [0xC3, 0xA9], (isValidUtf8_ascii _ _).trans (by decide), ?_⟩
 have cut : (replicate 65534 97 ++ [0xC3, 0xA9] : Bytes).take 0xFFFF = replicate 65534 97 ++ [0xC3] := by
  rw [take_append, take_of_length_le (by rw [length_replicate]; decide), length_replicate]
  exact congrArg (replicate 65534 97 ++ ·) rfl
 have refused : isValidUtf8 (replicate 65534 97 ++ [0xC3]) = false := (isValidUtf8_ascii _ _).trans (by decide)
 rw [writeLpUtf8_textOf, <- append_nil (_ ++ _), readLpUtf8_prefixed (length_take_short _), cut, refused]
 rfl

def readTicket (payload : Bytes) : Option (DirectBindTicket × Bytes) := do
 let (sessionId, payload) <- readLpUtf8 payload
 let (nonce, payload) <- readBe64 payload
 let (expiresUnixMs, payload) <- readBe64 payload
 let (token, payload) <- readLpUtf8 payload
 return ({ sessionId, nonce, expiresUnixMs, token }, payload)

def encodeDirectBindResponsePayload (response : DirectBindResponse) : Bytes :=
 writeBe16 response.code ++ encodeDirectBindRequestPayload response.ticket ++ writeLpUtf8 response.message

def decodeDirectBindResponsePayload (payload : Bytes) : Option DirectBindResponse :=
 if payload.length < 2 then none
 else do
  let (ticket, rest) <- readTicket (payload.drop 2)
  let (message, rest) <- readLpUtf8 rest
  if rest = [] then return { code := readBe16 payload 0, ticket, message } else none

def IsUtf8 (text : Text) : Prop := ∃ bytes, isValidUtf8 bytes = true /\ bytes.length ≤ 65535 /\ text = textOf bytes

structure DirectBindTicket.Fits (ticket : DirectBindTicket) : Prop where
 sessionId : IsUtf8 ticket.sessionId
 nonce : ticket.nonce < 18446744073709551616
 expiresUnixMs : ticket.expiresUnixMs < 18446744073709551616
 token : IsUtf8 ticket.token

theorem IsUtf8.read {text : Text} (utf8 : IsUtf8 text) (rest : Bytes) :
  readLpUtf8 (writeLpUtf8 text ++ rest) = some (text, rest) := by
 obtain ⟨bytes, valid, short, rfl⟩ := utf8
 have uncut := take_of_length_le short
 rw [readLpUtf8_writeLpUtf8 (by rw [uncut]; exact valid), uncut]

theorem readBe64_writeBe64 {value : Nat} (short : value < 18446744073709551616) (rest : Bytes) :
  readBe64 (writeBe64 value ++ rest) = some (value, rest) := by
 simp only [readBe64, writeBe64, writeBe32, cons_append, nil_append, readBe32, byteAt_cons_zero, byteAt_cons_succ,
  toNat_ofNat, be32_digits]
 simp
 omega

theorem writeBe64_readBe64 {bytes rest : Bytes} {value : Nat} (read : readBe64 bytes = some (value, rest)) :
  writeBe64 value ++ rest = bytes := by
 simp only [readBe64, Option.ite_none_left_eq_some, Option.some.injEq, Prod.mk.injEq, not_lt] at read
 obtain ⟨long, rfl, rfl⟩ := read
 have low := readBe32_lt bytes 4
 have high : (readBe32 bytes 0 * 4294967296 + readBe32 bytes 4) / 4294967296 = readBe32 bytes 0 := by omega
 rw [writeBe64, high, writeBe32_readBe32, writeBe32_of_mod bytes 4 (by omega)]
 exact (congrArg (· ++ bytes.drop 8) (bytesAt_zero bytes long)).trans (take_append_drop 8 bytes)

theorem readTicket_encode {ticket : DirectBindTicket} (fits : ticket.Fits) (rest : Bytes) :
  readTicket (encodeDirectBindRequestPayload ticket ++ rest) = some (ticket, rest) := by
 simp [readTicket, encodeDirectBindRequestPayload, append_assoc, fits.sessionId.read, fits.token.read,
  readBe64_writeBe64 fits.nonce, readBe64_writeBe64 fits.expiresUnixMs]

theorem encode_readTicket {payload rest : Bytes} {ticket : DirectBindTicket}
  (read : readTicket payload = some (ticket, rest)) : encodeDirectBindRequestPayload ticket ++ rest = payload := by
 simp only [readTicket, Option.bind_eq_bind, Option.bind_eq_some_iff, Prod.exists, Option.pure_def,
  Option.some.injEq,
  Prod.mk.injEq] at read
 obtain ⟨sessionId, afterId, readId, nonce, afterNonce, readNonce, expiry, afterExpiry, readExpiry, token, _, readToken,
  rfl, rfl⟩ := read
 simp only [encodeDirectBindRequestPayload, append_assoc]
 rw [writeLpUtf8_readLpUtf8 readToken, writeBe64_readBe64 readExpiry, writeBe64_readBe64 readNonce,
  writeLpUtf8_readLpUtf8 readId]

theorem decodeRequest_eq (payload : Bytes) : decodeDirectBindRequestPayload payload =
  (readTicket payload).bind fun read => if read.2 = [] then some read.1 else none := by
 simp only [decodeDirectBindRequestPayload, readTicket, Option.bind_eq_bind, Option.bind_assoc, Option.pure_def,
  Option.bind_some]

theorem direct_bind_codec_is_inverse :
  (∀ request : DirectBindRequest, request.Fits ->
    decodeDirectBindRequestPayload (encodeDirectBindRequestPayload request) = some request) /\
  (∀ response, response.code < 65536 -> response.ticket.Fits -> IsUtf8 response.message ->
    decodeDirectBindResponsePayload (encodeDirectBindResponsePayload response) = some response) /\
  (∀ payload request, decodeDirectBindRequestPayload payload = some request ->
    encodeDirectBindRequestPayload request = payload) /\
  ∀ payload response, decodeDirectBindResponsePayload payload = some response ->
   encodeDirectBindResponsePayload response = payload := by
 refine ⟨fun request fits => ?_, fun response short fits utf8 => ?_, fun payload request decoded => ?_,
  fun payload response decoded => ?_⟩
 · rw [decodeRequest_eq, <- append_nil (encodeDirectBindRequestPayload request), readTicket_encode fits]
   rfl
 · have code := readBe16_writeBe16 short (encodeDirectBindRequestPayload response.ticket ++ writeLpUtf8 response.message)
   have message := utf8.read []
   rw [append_nil] at message
   rw [decodeDirectBindResponsePayload, encodeDirectBindResponsePayload, append_assoc, if_neg (by simp [writeBe16]),
    code, drop_writeBe16, readTicket_encode fits]
   simp [message]
 · rw [decodeRequest_eq, Option.bind_eq_some_iff] at decoded
   obtain ⟨⟨ticket, rest⟩, read, done⟩ := decoded
   obtain ⟨rfl, ⟨⟩⟩ := Option.ite_none_right_eq_some.mp done
   rw [<- encode_readTicket read, append_nil]
 · obtain ⟨long, decoded⟩ := Option.ite_none_left_eq_some.mp decoded
   simp only [Option.bind_eq_bind, Option.bind_eq_some_iff, Prod.exists] at decoded
   obtain ⟨ticket, middle, readTicket, message, rest, readMessage, done⟩ := decoded
   obtain ⟨rfl, ⟨⟩⟩ := Option.ite_none_right_eq_some.mp done
   have written := writeLpUtf8_readLpUtf8 readMessage
   rw [append_nil] at written
   rw [encodeDirectBindResponsePayload, append_assoc, written, encode_readTicket readTicket, writeBe16_readBe16,
    bytesAt_zero payload (not_lt.mp long), take_append_drop]

def boundTicket : DirectBindTicket :=
 { sessionId := textOf [0x73, 0xC3, 0xA9], nonce := 7, expiresUnixMs := 18446744073709551615, token := textOf [0x74] }

theorem bound_ticket_is_decoded :
  decodeDirectBindRequestPayload (encodeDirectBindRequestPayload boundTicket) = some boundTicket /\
  decodeDirectBindResponsePayload (encodeDirectBindResponsePayload { code := 65535, ticket := boundTicket, message := [] }) =
   some { code := 65535, ticket := boundTicket, message := [] } := by
 have fits : boundTicket.Fits :=
  ⟨⟨[0x73, 0xC3, 0xA9], by decide, by decide, rfl⟩, by decide, by decide, ⟨[0x74], by decide, by decide, rfl⟩⟩
 exact ⟨direct_bind_codec_is_inverse.1 boundTicket fits,
  direct_bind_codec_is_inverse.2.1 _ (by decide) fits ⟨[], rfl, by decide, rfl⟩⟩

end Dynaxis.Gateway
