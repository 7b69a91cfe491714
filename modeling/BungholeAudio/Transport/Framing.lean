import BungholeAudio.Basic

/-!
# Length-prefixed wire frames

`framed_write` sends a 16-bit big-endian length and then that many payload
bytes; `framed_read` reads the two header bytes, checks the length against the
buffer, and reads the payload. Both sides loop on partial transfers: a stream
socket may move fewer bytes than a `read()` or `write()` asks for.

A socket end is modelled with the transport's choices made explicit: the bytes
still to arrive and, for each call, how many bytes it moves. Every split of a
stream into transfers of at least one byte is one such choice list, so a fact
proved for every list holds for every way the kernel chunks the stream. A read
on a stream with no bytes left answers `r <= 0`, whether the peer closed it or
it failed; `framed_read` treats both alike.
-/

namespace BungholeAudio

/-! ## Machine words of the header -/

theorem u16_toNat_shiftRight_eight (x : UInt16) : (x >>> 8).toNat = x.toNat / 256 := by
  show (x.toBitVec >>> ((8 : UInt16).mod 16).toBitVec).toNat = x.toBitVec.toNat / 256
  have eight : ((8 : UInt16).mod 16).toBitVec = 8#16 := by decide
  rw [eight]
  show (x.toBitVec >>> (8#16).toNat).toNat = _
  rw [BitVec.toNat_ushiftRight, Nat.shiftRight_eq_div_pow]
  rfl

theorem u16_toNat_and_255 (x : UInt16) : (x &&& 0xFF).toNat = x.toNat % 256 := by
  show (x.toBitVec &&& (0xFF : UInt16).toBitVec).toNat = x.toBitVec.toNat % 256
  have mask : (0xFF : UInt16).toBitVec.toNat = 2 ^ 8 - 1 := rfl
  rw [BitVec.toNat_and, mask, Nat.and_pow_two_sub_one_eq_mod]

/-- `((uint16_t)hi << 8) | lo` is the big-endian value of the two bytes. -/
theorem u16_toNat_or_shift (hi lo : UInt8) :
    ((hi.toUInt16 <<< 8) ||| lo.toUInt16).toNat = hi.toNat * 256 + lo.toNat := by
  have hiLt := hi.toBitVec.isLt
  have loLt := lo.toBitVec.isLt
  show ((hi.toUInt16.toBitVec <<< ((8 : UInt16).mod 16).toBitVec) ||| lo.toUInt16.toBitVec).toNat = _
  have eight : ((8 : UInt16).mod 16).toBitVec = 8#16 := by decide
  rw [eight, BitVec.toNat_or]
  show (hi.toUInt16.toBitVec <<< (8#16).toNat).toNat ||| lo.toNat = _
  rw [BitVec.toNat_shiftLeft]
  show hi.toNat <<< 8 % 2 ^ 16 ||| lo.toNat = _
  rw [Nat.shiftLeft_eq, Nat.mod_eq_of_lt (by simp only [UInt8.toNat] at *; omega), Nat.mul_comm,
    ← Nat.mul_add_lt_is_or (by simpa [UInt8.toNat] using loLt)]

/-! ## The two ends of a stream socket -/

/-- The receiving end: the bytes still to arrive before the stream ends or
fails, and how many bytes each `read()` moves. -/
structure Inbound where
  bytes : List UInt8
  chunks : List Nat

/-- The sending end: the bytes the peer has been sent, and how many bytes each
`write()` moves, `none` when the call fails. -/
structure Outbound where
  sent : List UInt8
  chunks : List (Option Nat)

/-- How many bytes one transfer moves: the transport's choice, kept between one
byte and what is asked for and present; everything asked for once the choices
run out. -/
def transferSize (chunks : List Nat) (want avail : Nat) : Nat :=
  match chunks with
  | [] => min want avail
  | chunk :: _ => max 1 (min chunk (min want avail))

theorem transferSize_pos {chunks : List Nat} {want avail : Nat} (wantPos : 0 < want)
    (availPos : 0 < avail) : 0 < transferSize chunks want avail := by
  cases chunks <;> simp only [transferSize] <;> omega

theorem transferSize_le {chunks : List Nat} {want avail : Nat} (wantPos : 0 < want)
    (availPos : 0 < avail) : transferSize chunks want avail ≤ min want avail := by
  cases chunks <;> simp only [transferSize] <;> omega

/-- `while (n < want) { r = read(fd, p + n, want - n); if (r <= 0) return -1; n += r; }`:
whether the loop filled all `want` bytes, the bytes it read, and the stream after. -/
def readLoop (s : Inbound) (want : Nat) (got : List UInt8) : Bool × List UInt8 × Inbound :=
  if more : got.length < want then
    if ended : s.bytes = [] then (false, got, s)
    else
      let r := transferSize s.chunks (want - got.length) s.bytes.length
      readLoop ⟨s.bytes.drop r, s.chunks.tail⟩ want (got ++ s.bytes.take r)
  else (true, got, s)
termination_by want - got.length
decreasing_by
  have positive : 0 < transferSize s.chunks (want - got.length) s.bytes.length :=
    transferSize_pos (Nat.sub_pos_of_lt more) (List.length_pos.mpr ended)
  have bounded : transferSize s.chunks (want - got.length) s.bytes.length ≤ s.bytes.length :=
    (transferSize_le (Nat.sub_pos_of_lt more) (List.length_pos.mpr ended)).trans (min_le_right _ _)
  simp_wf
  omega

/-- `while (n < len) { w = write(fd, data + n, len - n); if (w <= 0) return -1; n += w; }`
for the `len` bytes of `data`: whether the loop completed, and the sending end after. -/
def writeLoop (o : Outbound) (data : List UInt8) (n : Nat) : Bool × Outbound :=
  if more : n < data.length then
    match o.chunks with
    | none :: chunks => (false, ⟨o.sent, chunks⟩)
    | some chunk :: chunks =>
      let w := max 1 (min chunk (data.length - n))
      writeLoop ⟨o.sent ++ (data.drop n).take w, chunks⟩ data (n + w)
    | [] => writeLoop ⟨o.sent ++ data.drop n, []⟩ data data.length
  else (true, o)
termination_by data.length - n

/-- The read loop stops with the stream exhausted or with `want` bytes: it
completes exactly when the stream still holds the `want - |got|` bytes asked
for, and takes from the stream exactly the bytes it appends to `got`, however
the transport splits them. -/
theorem readLoop_eq (s : Inbound) (want : Nat) (got : List UInt8) :
    ∃ chunks, readLoop s want got =
      if want - got.length ≤ s.bytes.length then
        (true, got ++ s.bytes.take (want - got.length),
          ⟨s.bytes.drop (want - got.length), chunks⟩)
      else (false, got ++ s.bytes, ⟨[], chunks⟩) := by
  induction s, want, got using readLoop.induct with
  | case1 s want got more ended =>
    refine ⟨s.chunks, ?_⟩
    rw [readLoop, dif_pos more, dif_pos ended, ended, if_neg (by simp only [List.length_nil]; omega),
      List.append_nil]
    cases s
    simp_all
  | case2 s want got more ended r ih =>
    obtain ⟨chunks, eq⟩ := ih
    refine ⟨chunks, ?_⟩
    have positive : 0 < r := transferSize_pos (Nat.sub_pos_of_lt more) (List.length_pos.mpr ended)
    have bounded : r ≤ min (want - got.length) s.bytes.length :=
      transferSize_le (Nat.sub_pos_of_lt more) (List.length_pos.mpr ended)
    rw [readLoop, dif_pos more, dif_neg ended]
    simp only at eq ⊢
    rw [eq]
    simp only [List.length_append, List.length_take, List.length_drop, List.append_assoc]
    by_cases enough : want - got.length ≤ s.bytes.length
    · rw [if_pos (by omega), if_pos enough, List.drop_drop]
      have split : want - got.length = r + (want - (got.length + min r s.bytes.length)) := by omega
      rw [split, List.take_add]
    · rw [if_neg (by omega), if_neg enough, List.take_append_drop]
  | case3 s want got enough =>
    refine ⟨s.chunks, ?_⟩
    rw [readLoop, dif_neg enough, if_pos (by omega), show want - got.length = 0 by omega]
    simp

/-- Whatever the transport does, the write loop puts a prefix of the bytes it
was given on the wire, and reports success exactly when the prefix is all of
them. -/
theorem writeLoop_eq (o : Outbound) (data : List UInt8) (n : Nat) :
    ∃ k chunks, k ≤ data.length - n ∧
      writeLoop o data n = (decide (data.length - n ≤ k), ⟨o.sent ++ (data.drop n).take k, chunks⟩) := by
  induction o, data, n using writeLoop.induct with
  | case1 o data n more chunks failing =>
    refine ⟨0, chunks, Nat.zero_le _, ?_⟩
    rw [writeLoop, dif_pos more, failing]
    simp only [List.take_zero, List.append_nil, decide_eq_false (by omega : ¬data.length - n ≤ 0)]
  | case2 o data n more chunk chunks moving w ih =>
    obtain ⟨k, rest, bounded, eq⟩ := ih
    refine ⟨w + k, rest, by omega, ?_⟩
    rw [writeLoop, dif_pos more, moving]
    simp only at eq ⊢
    rw [eq, List.append_assoc, ← List.drop_drop, ← List.take_add, Prod.mk.injEq]
    exact ⟨decide_eq_decide.mpr (by omega), rfl⟩
  | case3 o data n more reliable ih =>
    obtain ⟨k, rest, bounded, eq⟩ := ih
    refine ⟨data.length - n, rest, le_refl _, ?_⟩
    rw [writeLoop, dif_pos more, reliable, eq]
    simp
  | case4 o data n done =>
    refine ⟨0, o.chunks, Nat.zero_le _, ?_⟩
    rw [writeLoop, dif_neg done]
    simp only [List.take_zero, List.append_nil, decide_eq_true (by omega : data.length - n ≤ 0)]

/-- On a transport whose `write()`s never fail, the write loop completes and
the transport stays reliable. -/
theorem writeLoop_of_reliable (sent : List UInt8) (chunks : List Nat) (data : List UInt8) (n : Nat) :
    ∃ rest : List Nat, writeLoop ⟨sent, chunks.map some⟩ data n =
      (true, ⟨sent ++ data.drop n, rest.map some⟩) := by
  suffices ∀ o : Outbound, ∀ cs : List Nat, o.chunks = cs.map some →
      ∃ rest : List Nat, writeLoop o data n = (true, ⟨o.sent ++ data.drop n, rest.map some⟩) from
    this ⟨sent, chunks.map some⟩ chunks rfl
  intro o
  induction o, data, n using writeLoop.induct with
  | case1 o data n more chunks failing =>
    intro all reliable
    cases all <;> simp_all
  | case2 o data n more chunk chunks moving w ih =>
    intro all reliable
    cases all with
    | nil => simp_all
    | cons c cs =>
      rw [moving, List.map_cons, List.cons.injEq] at reliable
      obtain ⟨rest, eq⟩ := ih cs reliable.2
      refine ⟨rest, ?_⟩
      rw [writeLoop, dif_pos more, moving]
      simp only at eq ⊢
      rw [eq, List.append_assoc, ← List.drop_drop, List.take_append_drop]
  | case3 o data n more ended ih =>
    intro _ _
    obtain ⟨rest, eq⟩ := ih [] rfl
    exact ⟨rest, by rw [writeLoop, dif_pos more, ended, eq]; simp⟩
  | case4 o data n done =>
    intro all reliable
    refine ⟨all, ?_⟩
    rw [writeLoop, dif_neg done, List.drop_eq_nil_of_le (by omega), List.append_nil, ← reliable]

/-! ## The header -/

/-- `hdr[0] = (unsigned char)(len >> 8); hdr[1] = (unsigned char)(len & 0xFF);` -/
def encodeHeader (len : UInt16) : List UInt8 :=
  [(len >>> 8).toUInt8, (len &&& 0xFF).toUInt8]

/-- `((uint16_t)hdr[0] << 8) | hdr[1]`. -/
def decodeHeader (hi lo : UInt8) : UInt16 :=
  (hi.toUInt16 <<< 8) ||| lo.toUInt16

theorem decodeHeader_toNat (hi lo : UInt8) :
    (decodeHeader hi lo).toNat = hi.toNat * 256 + lo.toNat :=
  u16_toNat_or_shift hi lo

@[simp]
theorem length_encodeHeader (len : UInt16) : (encodeHeader len).length = 2 := rfl

/-- The reader decodes the length the writer encoded. -/
theorem decodeHeader_encodeHeader (len : UInt16) :
    decodeHeader ((encodeHeader len).getD 0 0) ((encodeHeader len).getD 1 0) = len := by
  have lenLt := len.toBitVec.isLt
  have hiNat : ((len >>> 8).toUInt8).toNat = len.toNat / 256 % 256 := by
    show (len >>> 8).toNat % 256 = _
    rw [u16_toNat_shiftRight_eight]
  have loNat : ((len &&& 0xFF).toUInt8).toNat = len.toNat % 256 % 256 := by
    show (len &&& 0xFF).toNat % 256 = _
    rw [u16_toNat_and_255]
  apply UInt16.toNat.inj
  show (decodeHeader (len >>> 8).toUInt8 (len &&& 0xFF).toUInt8).toNat = len.toNat
  rw [decodeHeader_toNat, hiNat, loNat]
  simp only [UInt16.toNat] at lenLt ⊢
  omega

/-! ## `framed_write` -/

/-- The bytes a completed `framed_write(fd, data, len)` puts on the wire. -/
def wireFrame (data : Nat → UInt8) (len : UInt16) : List UInt8 :=
  encodeHeader len ++ (List.range len.toNat).map data

/-- `framed_write(fd, data, len)`: the header, then `data[0 .. len)`; `0` on
success, `-1` as soon as a `write()` fails. -/
def framedWrite (o : Outbound) (data : Nat → UInt8) (len : UInt16) : Int × Outbound :=
  match writeLoop o (encodeHeader len) 0 with
  | (false, o) => (-1, o)
  | (true, o) =>
    match writeLoop o ((List.range len.toNat).map data) 0 with
    | (false, o) => (-1, o)
    | (true, o) => (0, o)

/-- Whatever the transport does, `framed_write` puts a prefix of its frame on
the wire, and returns `0` exactly when the prefix is the whole frame. -/
theorem framedWrite_eq (o : Outbound) (data : Nat → UInt8) (len : UInt16) :
    ∃ k chunks, k ≤ (wireFrame data len).length ∧
      framedWrite o data len =
        (if (wireFrame data len).length ≤ k then 0 else -1,
          ⟨o.sent ++ (wireFrame data len).take k, chunks⟩) := by
  obtain ⟨k, afterHeader, bounded, header⟩ := writeLoop_eq o (encodeHeader len) 0
  simp only [framedWrite, header, length_encodeHeader, Nat.sub_zero, List.drop_zero]
  by_cases whole : 2 ≤ k
  · obtain ⟨m, chunks, boundedPayload, payload⟩ :=
      writeLoop_eq ⟨o.sent ++ (encodeHeader len).take k, afterHeader⟩
        ((List.range len.toNat).map data) 0
    simp only [List.length_map, List.length_range, Nat.sub_zero, List.drop_zero] at payload boundedPayload
    refine ⟨2 + m, chunks, by simp [wireFrame]; omega, ?_⟩
    rw [decide_eq_true whole]
    dsimp only
    rw [payload]
    simp only [wireFrame, List.length_append, length_encodeHeader, List.length_map,
      List.length_range, List.take_append_eq_append_take, List.append_assoc,
      List.take_of_length_le (by simp; omega : (encodeHeader len).length ≤ k),
      List.take_of_length_le (by simp : (encodeHeader len).length ≤ 2 + m), Nat.add_sub_cancel_left]
    by_cases complete : len.toNat ≤ m <;> simp [complete]
  · refine ⟨k, afterHeader, by simp [wireFrame]; omega, ?_⟩
    rw [decide_eq_false whole, if_neg (by simp [wireFrame]; omega)]
    simp only [wireFrame, List.take_append_eq_append_take, length_encodeHeader,
      Nat.sub_eq_zero_of_le (by omega : k ≤ 2), List.take_zero, List.append_nil]

/-- On a transport whose `write()`s never fail, `framed_write` returns `0`
with its whole frame on the wire. -/
theorem framedWrite_of_reliable (sent : List UInt8) (chunks : List Nat) (data : Nat → UInt8)
    (len : UInt16) :
    ∃ rest : List Nat, framedWrite ⟨sent, chunks.map some⟩ data len =
      (0, ⟨sent ++ wireFrame data len, rest.map some⟩) := by
  obtain ⟨afterHeader, header⟩ := writeLoop_of_reliable sent chunks (encodeHeader len) 0
  obtain ⟨rest, payload⟩ := writeLoop_of_reliable (sent ++ encodeHeader len) afterHeader
    ((List.range len.toNat).map data) 0
  refine ⟨rest, ?_⟩
  simp only [framedWrite, header, List.drop_zero]
  simp only [payload, List.drop_zero, wireFrame, List.append_assoc]

/-! ## `framed_read` -/

/-- What `framed_read` returns, and what it leaves in `buf`, in `*out_len` and
in the stream. -/
structure ReadResult where
  ret : Int
  buf : Nat → UInt8
  outLen : UInt16
  stream : Inbound

/-- `framed_read(fd, buf, bufsize, &out_len)`. -/
def framedRead (s : Inbound) (buf : Nat → UInt8) (bufsize : Int) (outLen : UInt16) : ReadResult :=
  match readLoop s 2 [] with
  | (false, _, s) => ⟨-1, buf, outLen, s⟩
  | (true, hdr, s) =>
    let len := decodeHeader (hdr.getD 0 0) (hdr.getD 1 0)
    if len = 0 ∨ (len.toNat : Int) > bufsize then ⟨-1, buf, outLen, s⟩
    else
      match readLoop s len.toNat [] with
      | (false, got, s) => ⟨-1, storeBytes buf got, outLen, s⟩
      | (true, got, s) => ⟨0, storeBytes buf got, len, s⟩

/-- `framed_read` in closed form over the bytes the stream will deliver: the
transport's chunking changes nothing but the choices left over. -/
theorem framedRead_eq (s : Inbound) (buf : Nat → UInt8) (bufsize : Int) (outLen : UInt16) :
    ∃ chunks, framedRead s buf bufsize outLen =
      if 2 ≤ s.bytes.length then
        let len := decodeHeader (s.bytes.getD 0 0) (s.bytes.getD 1 0)
        if len = 0 ∨ (len.toNat : Int) > bufsize then ⟨-1, buf, outLen, ⟨s.bytes.drop 2, chunks⟩⟩
        else if 2 + len.toNat ≤ s.bytes.length then
          ⟨0, storeBytes buf ((s.bytes.drop 2).take len.toNat), len,
            ⟨s.bytes.drop (2 + len.toNat), chunks⟩⟩
        else ⟨-1, storeBytes buf (s.bytes.drop 2), outLen, ⟨[], chunks⟩⟩
      else ⟨-1, buf, outLen, ⟨[], chunks⟩⟩ := by
  obtain ⟨afterHeader, header⟩ := readLoop_eq s 2 []
  simp only [List.length_nil, Nat.sub_zero, List.nil_append] at header
  by_cases complete : 2 ≤ s.bytes.length
  · have hdrGet : ∀ i < 2, (s.bytes.take 2).getD i 0 = s.bytes.getD i 0 := fun i lt => by
      simp only [List.getD_eq_getElem?_getD, List.getElem?_take_of_lt lt]
    simp only [framedRead, header, if_pos complete, hdrGet 0 (by decide), hdrGet 1 (by decide)]
    generalize decodeHeader (s.bytes.getD 0 0) (s.bytes.getD 1 0) = len
    by_cases rejected : len = 0 ∨ (len.toNat : Int) > bufsize
    · exact ⟨afterHeader, by simp only [if_pos rejected]⟩
    obtain ⟨afterPayload, payload⟩ := readLoop_eq ⟨s.bytes.drop 2, afterHeader⟩ len.toNat []
    simp only [List.length_nil, Nat.sub_zero, List.nil_append, List.length_drop, List.drop_drop]
      at payload
    refine ⟨afterPayload, ?_⟩
    simp only [if_neg rejected, payload]
    by_cases arrived : 2 + len.toNat ≤ s.bytes.length
    · simp only [if_pos (by omega : len.toNat ≤ s.bytes.length - 2), if_pos arrived]
    · simp only [if_neg (by omega : ¬len.toNat ≤ s.bytes.length - 2), if_neg arrived]
  · exact ⟨afterHeader, by simp only [framedRead, header, if_neg complete]⟩

/-- `framed_read` returns `0` exactly when the stream starts with a big-endian
length `L` with `1 ≤ L ≤ bufsize` followed by at least `L` bytes; it then
consumes exactly `2 + L` bytes, sets `*out_len = L` and `buf[0 .. L)` to the
payload. It never writes `buf` at or past `bufsize`, and on `-1` it leaves
`*out_len` alone. -/
theorem framedRead_correct (s : Inbound) (buf : Nat → UInt8) (bufsize : Int) (outLen : UInt16) :
    let r := framedRead s buf bufsize outLen
    let len := (s.bytes.getD 0 0).toNat * 256 + (s.bytes.getD 1 0).toNat
    (r.ret = 0 ↔ 2 ≤ s.bytes.length ∧ 1 ≤ len ∧ (len : Int) ≤ bufsize ∧ 2 + len ≤ s.bytes.length) ∧
      (r.ret = 0 → r.stream.bytes = s.bytes.drop (2 + len) ∧ r.outLen.toNat = len ∧
        ∀ i < len, r.buf i = s.bytes.getD (2 + i) 0) ∧
      (∀ i : Nat, bufsize ≤ i → r.buf i = buf i) ∧
      (r.ret ≠ 0 → r.ret = -1 ∧ r.outLen = outLen) := by
  obtain ⟨chunks, eq⟩ := framedRead_eq s buf bufsize outLen
  have lenNat := decodeHeader_toNat (s.bytes.getD 0 0) (s.bytes.getD 1 0)
  dsimp only
  rw [eq]
  generalize decodeHeader (s.bytes.getD 0 0) (s.bytes.getD 1 0) = len at lenNat
  rw [← lenNat]
  by_cases complete : 2 ≤ s.bytes.length
  · rw [if_pos complete]
    dsimp only
    have zeroIff : len = 0 ↔ len.toNat = 0 := ⟨fun zero => by rw [zero]; rfl, fun zero => UInt16.toNat.inj zero⟩
    by_cases rejected : len = 0 ∨ (len.toNat : Int) > bufsize
    · rw [if_pos rejected]
      rw [zeroIff] at rejected
      refine ⟨by simp only [Int.reduceNeg, (by decide : (-1 : Int) ≠ 0), false_iff]; omega, by
        simp only [Int.reduceNeg, (by decide : (-1 : Int) ≠ 0), false_implies], fun _ _ => rfl,
        fun _ => ⟨rfl, rfl⟩⟩
    rw [if_neg rejected]
    rw [zeroIff] at rejected
    by_cases arrived : 2 + len.toNat ≤ s.bytes.length
    · have payloadLength : ((s.bytes.drop 2).take len.toNat).length = len.toNat := by
        simp only [List.length_take, List.length_drop]
        omega
      rw [if_pos arrived]
      refine ⟨by simp only [true_iff]; omega, fun _ => ⟨rfl, rfl, fun i lt => ?_⟩,
        fun i above => storeBytes_apply_of_ge (by omega), by simp only [ne_eq, not_true_eq_false, false_implies]⟩
      show storeBytes buf _ i = _
      rw [storeBytes_apply_of_lt (by omega)]
      simp only [List.getElem_take, List.getElem_drop, List.getD_eq_getElem?_getD,
        List.getElem?_eq_getElem (by omega : 2 + i < s.bytes.length), Option.getD_some]
    · rw [if_neg arrived]
      refine ⟨by simp only [Int.reduceNeg, (by decide : (-1 : Int) ≠ 0), false_iff]; omega, by
        simp only [Int.reduceNeg, (by decide : (-1 : Int) ≠ 0), false_implies],
        fun i above => storeBytes_apply_of_ge (by simp only [List.length_drop]; omega),
        fun _ => ⟨rfl, rfl⟩⟩
  · rw [if_neg complete]
    refine ⟨by simp only [Int.reduceNeg, (by decide : (-1 : Int) ≠ 0), false_iff]; omega, by
      simp only [Int.reduceNeg, (by decide : (-1 : Int) ≠ 0), false_implies], fun _ _ => rfl,
      fun _ => ⟨rfl, rfl⟩⟩

/-! ## Frames over one connection -/

/-- The frame `framed_write(fd, p, |p|)` sends for a payload `p`. -/
def payloadFrame (p : List UInt8) : List UInt8 :=
  wireFrame (fun i => p.getD i 0) (UInt16.ofNat p.length)

/-- `framed_write` once per payload, in order, each with its own length. -/
def framedWriteAll (o : Outbound) : List (List UInt8) → List Int × Outbound
  | [] => ([], o)
  | p :: ps =>
    let (ret, o) := framedWrite o (fun i => p.getD i 0) (UInt16.ofNat p.length)
    let (rets, o) := framedWriteAll o ps
    (ret :: rets, o)

/-- `n` calls of `framed_read(fd, buf, OPUS_MAX_PACKET, &len)` on one buffer. -/
def framedReadAll (s : Inbound) (buf : Nat → UInt8) (outLen : UInt16) : Nat → List ReadResult
  | 0 => []
  | n + 1 =>
    let r := framedRead s buf opusMaxPacket outLen
    r :: framedReadAll r.stream r.buf r.outLen n

theorem map_range_getD (p : List UInt8) : (List.range p.length).map (fun i => p.getD i 0) = p :=
  List.ext_getElem (by simp) fun i _ inside => by
    simp only [List.getElem_map, List.getElem_range]
    exact List.getD_eq_getElem _ _ inside

theorem payloadFrame_eq_of_lt {p : List UInt8} (short : p.length < UInt16.size) :
    payloadFrame p = encodeHeader (UInt16.ofNat p.length) ++ p := by
  rw [payloadFrame, wireFrame, UInt16.toNat_ofNat_of_lt short, map_range_getD]

theorem payloadFrame_eq {p : List UInt8} (fits : p.length ≤ opusMaxPacket) :
    payloadFrame p = encodeHeader (UInt16.ofNat p.length) ++ p :=
  payloadFrame_eq_of_lt (by simp only [opusMaxPacket] at fits; simp only [UInt16.size]; omega)

/-- The header of a decoded length is the two bytes it was decoded from. -/
theorem encodeHeader_decodeHeader (hi lo : UInt8) : encodeHeader (decodeHeader hi lo) = [hi, lo] := by
  have hiLt := hi.toBitVec.isLt
  have loLt := lo.toBitVec.isLt
  have value := decodeHeader_toNat hi lo
  have hiByte : ((decodeHeader hi lo >>> 8).toUInt8).toNat = hi.toNat := by
    show (decodeHeader hi lo >>> 8).toNat % 256 = _
    rw [u16_toNat_shiftRight_eight, value]
    simp only [UInt8.toNat] at hiLt loLt ⊢
    omega
  have loByte : ((decodeHeader hi lo &&& 0xFF).toUInt8).toNat = lo.toNat := by
    show (decodeHeader hi lo &&& 0xFF).toNat % 256 = _
    rw [u16_toNat_and_255, value]
    simp only [UInt8.toNat] at loLt ⊢
    omega
  rw [encodeHeader, UInt8.toNat.inj hiByte, UInt8.toNat.inj loByte]

/-- What `framed_read` accepts is a well-formed frame: when it returns `0`, the
stream began with the frame of the payload it returned, a payload of `1` to
`bufsize` bytes, and what is left of the stream is what followed that frame. -/
theorem framedRead_consumes_frame (s : Inbound) (buf : Nat → UInt8) (bufsize : Int)
    (outLen : UInt16) (accepted : (framedRead s buf bufsize outLen).ret = 0) :
    let r := framedRead s buf bufsize outLen
    let packet := (List.range r.outLen.toNat).map r.buf
    s.bytes = payloadFrame packet ++ r.stream.bytes ∧ 1 ≤ packet.length ∧
      (packet.length : Int) ≤ bufsize := by
  obtain ⟨chunks, eq⟩ := framedRead_eq s buf bufsize outLen
  rw [eq] at accepted ⊢
  dsimp only at accepted ⊢
  split_ifs at accepted ⊢ with complete rejected arrived <;> try (dsimp only at accepted; omega)
  obtain ⟨hi, lo, rest, split⟩ : ∃ hi lo rest, s.bytes = hi :: lo :: rest :=
    match s.bytes, complete with
    | hi :: lo :: rest, _ => ⟨hi, lo, rest, rfl⟩
  simp only [split, List.getD_cons_zero, List.getD_cons_succ, List.drop_succ_cons, List.drop_zero,
    not_or, List.length_cons] at rejected arrived ⊢
  have lenLt := UInt16.toNat_lt_size (decodeHeader hi lo)
  have lenPos : 0 < (decodeHeader hi lo).toNat := Nat.pos_of_ne_zero fun zero =>
    rejected.1 (UInt16.toNat.inj (zero.trans UInt16.toNat_zero.symm))
  have payloadLength : (rest.take (decodeHeader hi lo).toNat).length = (decodeHeader hi lo).toNat := by
    simp only [List.length_take] at arrived ⊢
    omega
  have sameLength : UInt16.ofNat (rest.take (decodeHeader hi lo).toNat).length = decodeHeader hi lo :=
    UInt16.toNat.inj (by rw [payloadLength, UInt16.toNat_ofNat_of_lt lenLt])
  have packet := map_range_storeBytes buf (rest.take (decodeHeader hi lo).toNat)
  rw [payloadLength] at packet
  rw [packet, payloadLength]
  refine ⟨?_, lenPos, by omega⟩
  rw [payloadFrame_eq_of_lt (lt_of_eq_of_lt payloadLength lenLt), sameLength,
    encodeHeader_decodeHeader,
    show 2 + (decodeHeader hi lo).toNat = (decodeHeader hi lo).toNat + 1 + 1 by omega,
    List.drop_succ_cons, List.drop_succ_cons]
  simp only [List.cons_append, List.nil_append, List.take_append_drop]

/-- A reliable transport carries every `framed_write` whole, back to back. -/
theorem framedWriteAll_of_reliable (sent : List UInt8) (chunks : List Nat) (ps : List (List UInt8)) :
    ∃ rest : List Nat, framedWriteAll ⟨sent, chunks.map some⟩ ps =
      (List.replicate ps.length 0, ⟨sent ++ (ps.map payloadFrame).flatten, rest.map some⟩) := by
  induction ps generalizing sent chunks with
  | nil => exact ⟨chunks, by simp [framedWriteAll]⟩
  | cons p ps ih =>
    obtain ⟨afterFrame, frame⟩ := framedWrite_of_reliable sent chunks (fun i => p.getD i 0)
      (UInt16.ofNat p.length)
    obtain ⟨rest, others⟩ := ih (sent ++ payloadFrame p) afterFrame
    refine ⟨rest, ?_⟩
    simp only [framedWriteAll, frame]
    rw [← payloadFrame, others]
    simp [List.replicate_succ]

/-- One `framed_read` takes exactly one frame off the stream. -/
theorem framedRead_payloadFrame {p : List UInt8} (sized : 1 ≤ p.length ∧ p.length ≤ opusMaxPacket)
    (rest : List UInt8) (chunks : List Nat) (buf : Nat → UInt8) (outLen : UInt16) :
    ∃ after, framedRead ⟨payloadFrame p ++ rest, chunks⟩ buf opusMaxPacket outLen =
      ⟨0, storeBytes buf p, UInt16.ofNat p.length, ⟨rest, after⟩⟩ := by
  have lenNat : (UInt16.ofNat p.length).toNat = p.length :=
    Nat.mod_eq_of_lt (by simp only [opusMaxPacket] at sized; omega)
  obtain ⟨after, eq⟩ := framedRead_eq ⟨payloadFrame p ++ rest, chunks⟩ buf opusMaxPacket outLen
  refine ⟨after, ?_⟩
  have lenPos : UInt16.ofNat p.length ≠ 0 := fun zero => by
    have zeroNat := congrArg UInt16.toNat zero
    rw [lenNat] at zeroNat
    exact absurd zeroNat (by simp only [UInt16.toNat_zero]; omega)
  rw [eq, payloadFrame_eq sized.2]
  dsimp only
  have header : ∀ i < 2, (encodeHeader (UInt16.ofNat p.length) ++ p ++ rest).getD i 0 =
      (encodeHeader (UInt16.ofNat p.length)).getD i 0 := fun i lt => by
    rw [List.append_assoc, List.getD_append _ _ _ _ (by simpa using lt)]
  have dropHeader : (encodeHeader (UInt16.ofNat p.length) ++ p ++ rest).drop 2 = p ++ rest := by
    rw [List.append_assoc, List.drop_left' (length_encodeHeader _)]
  rw [header 0 (by decide), header 1 (by decide), decodeHeader_encodeHeader,
    if_pos (by simp),
    if_neg (not_or.mpr ⟨lenPos, by rw [lenNat]; simp only [opusMaxPacket] at sized ⊢; omega⟩),
    if_pos (by simp [lenNat]), dropHeader, lenNat, List.take_left, ← List.drop_drop, dropHeader,
    List.drop_left]

/-- Reading back-to-back frames: each read returns its payload and leaves the
frames after it. -/
theorem framedReadAll_payloadFrames (ps : List (List UInt8))
    (sized : ∀ p ∈ ps, 1 ≤ p.length ∧ p.length ≤ opusMaxPacket) (rest : List UInt8)
    (chunks : List Nat) (buf : Nat → UInt8) (outLen : UInt16) :
    let reads := framedReadAll ⟨(ps.map payloadFrame).flatten ++ rest, chunks⟩ buf outLen ps.length
    List.Forall₂ (fun r p => r.ret = 0 ∧ r.outLen.toNat = p.length ∧ (List.range p.length).map r.buf = p)
        reads ps ∧
      reads.map (fun r => r.stream.bytes) = ps.tails.tail.map (fun later => (later.map payloadFrame).flatten ++ rest) := by
  induction ps generalizing chunks buf outLen with
  | nil => exact ⟨List.Forall₂.nil, rfl⟩
  | cons p ps ih =>
    have sizedHead := sized p (List.mem_cons_self p ps)
    obtain ⟨after, eq⟩ := framedRead_payloadFrame sizedHead ((ps.map payloadFrame).flatten ++ rest)
      chunks buf outLen
    obtain ⟨matched, streams⟩ := ih (fun q mem => sized q (List.mem_cons_of_mem p mem)) after
      (storeBytes buf p) (UInt16.ofNat p.length)
    simp only [List.map_cons, List.flatten_cons, List.append_assoc, List.length_cons,
      framedReadAll, eq] at matched streams ⊢
    refine ⟨List.Forall₂.cons ⟨rfl, ?_, ?_⟩ matched, ?_⟩
    · exact Nat.mod_eq_of_lt (by simp only [opusMaxPacket] at sizedHead; omega)
    · exact List.ext_getElem (by simp) fun i _ _ => by simp [storeBytes_apply_of_lt, *]
    · rw [streams]
      cases ps <;> rfl

/-- Payloads of 1 to `OPUS_MAX_PACKET` bytes, each sent by `framed_write` over
a transport that splits writes and reads arbitrarily, come back from as many
`framed_read`s one for one: every call returns `0`, the `i`-th read yields the
`i`-th payload and its length, and leaves exactly the frames after it. -/
theorem framed_round_trip (payloads : List (List UInt8))
    (sized : ∀ p ∈ payloads, 1 ≤ p.length ∧ p.length ≤ opusMaxPacket)
    (writeChunks readChunks : List Nat) (buf : Nat → UInt8) (outLen : UInt16) :
    let written := framedWriteAll ⟨[], writeChunks.map some⟩ payloads
    let reads := framedReadAll ⟨written.2.sent, readChunks⟩ buf outLen payloads.length
    written.1 = List.replicate payloads.length 0 ∧
      List.Forall₂ (fun r p => r.ret = 0 ∧ r.outLen.toNat = p.length ∧ (List.range p.length).map r.buf = p)
        reads payloads ∧
      reads.map (fun r => r.stream.bytes) = payloads.tails.tail.map (fun later => (later.map payloadFrame).flatten) := by
  obtain ⟨rest, written⟩ := framedWriteAll_of_reliable [] writeChunks payloads
  have reads := framedReadAll_payloadFrames payloads sized [] readChunks buf outLen
  simp only [List.append_nil, List.nil_append] at reads
  simp only [written, List.nil_append]
  exact ⟨trivial, reads⟩

theorem framed_round_trip_two_frames :
    (∀ p ∈ [[7], [1, 2, 3]], 1 ≤ p.length ∧ p.length ≤ opusMaxPacket) ∧
      let written := framedWriteAll ⟨[], [1, 2].map some⟩ [[7], [1, 2, 3]]
      let reads := framedReadAll ⟨written.2.sent, [1]⟩ (fun _ => 0) 0 2
      written.1 = List.replicate 2 0 ∧
        List.Forall₂ (fun r p => r.ret = 0 ∧ r.outLen.toNat = p.length ∧ (List.range p.length).map r.buf = p)
          reads [[7], [1, 2, 3]] ∧
        reads.map (fun r => r.stream.bytes) =
          [[7], [1, 2, 3]].tails.tail.map (fun later => (later.map payloadFrame).flatten) :=
  ⟨by decide, framed_round_trip [[7], [1, 2, 3]] (by decide) [1, 2] [1] (fun _ => 0) 0⟩

end BungholeAudio
