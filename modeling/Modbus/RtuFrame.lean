import Modbus.Crc
import Modbus.PduCodec

/-!
# RTU frames

`modbus_rtu.c`: address byte, PDU, CRC-16 low byte first. The parser checks the length, parses
the PDU between address and CRC, and then checks that it fits and that the CRC over the
`pdu_len + 3` bytes it spans is `0`.
-/

namespace Modbus.Rtu
open Modbus.ByteOrder Modbus.Crc Modbus.Pdu

def mbRtuSaddrSize : Nat := 1

def mbRtuCrcSize : Nat := 2

/-- Modelled from the spec: `MB_PDU_SIZE_MIN` of the missing `modbus_pdu.h`, fixed by the
RTU minimum frame of 4 bytes (§3). -/
def mbPduSizeMin : Nat := 1

/-- Modelled from the spec: `MB_PDU_SIZE_MAX`, fixed by the RTU maximum frame of 256 bytes. -/
def mbPduSizeMax : Nat := 253

def mbRtuFrmMin : Nat := mbRtuSaddrSize + mbRtuCrcSize + mbPduSizeMin

def mbRtuFrmMax : Nat := mbRtuSaddrSize + mbRtuCrcSize + mbPduSizeMax

structure MbRtuFrm where
  saddr : UInt8
  pdu : MbPdu
  deriving DecidableEq, Repr

instance : Inhabited MbRtuFrm := ⟨⟨0, default⟩⟩

def modbusRtuFrameMake (frm : MbRtuFrm) (type : MbPduType) : List UInt8 :=
  let body := modbusCvtU8Put frm.saddr ++ modbusPduMake frm.pdu type
  body ++ crcBytes (modbusCrcCal body)

/-- `modbus_rtu_frame_parse` over the bytes at `buf`, with the out-parameter `frm` as it was
before the call: the result and `frm` as the call leaves it. -/
def modbusRtuFrameParse (buf : List UInt8) (len : Int) (frm : MbRtuFrm) (type : MbPduType) :
    Int × MbRtuFrm :=
  if len < mbRtuFrmMin then (0, frm) else
  let frm := { frm with saddr := (modbusCvtU8Get buf).1 }
  let remain := len - (mbRtuSaddrSize + mbRtuCrcSize)
  let r := modbusPduParse (buf.drop 1) remain type
  let frm := { frm with pdu := r.2.getD frm.pdu }
  if r.1 ≤ 0 then (r.1, frm)
  else if remain < r.1 then (0, frm)
  else
    let flen := r.1 + (mbRtuSaddrSize + mbRtuCrcSize)
    if modbusCrcCal (buf.take flen.toNat) ≠ 0 then (0, frm) else (r.1, frm)

theorem modbusRtuFrameMake_eq (frm : MbRtuFrm) (type : MbPduType) :
    modbusRtuFrameMake frm type = modbusCvtU8Put frm.saddr ++ (modbusPduMake frm.pdu type ++
      crcBytes (modbusCrcCal (modbusCvtU8Put frm.saddr ++ modbusPduMake frm.pdu type))) := by
  simp [modbusRtuFrameMake]

theorem modbusRtuFrameMake_length (frm : MbRtuFrm) (type : MbPduType) :
    (modbusRtuFrameMake frm type).length = (modbusPduMake frm.pdu type).length + 3 := by
  simp [modbusRtuFrameMake, crcBytes]
  omega

/-- Every frame `modbus_rtu_frame_make` writes, in either direction, has CRC residue `0`. -/
theorem modbusRtuFrameMake_crc (frm : MbRtuFrm) (type : MbPduType) :
    modbusCrcCal (modbusRtuFrameMake frm type) = 0 := by
  rw [modbusRtuFrameMake_eq, ← List.append_assoc]
  exact modbusCrcCal_append_crc _

theorem frm_consts : ((mbRtuSaddrSize : Nat) : Int) + ((mbRtuCrcSize : Nat) : Int) = 3 ∧
    ((mbRtuFrmMin : Nat) : Int) = 4 := ⟨rfl, rfl⟩

theorem modbusRtuFrameParse_fst (buf : List UInt8) (len : Int) (frm : MbRtuFrm)
    (type : MbPduType) :
    (modbusRtuFrameParse buf len frm type).1 =
      if len < 4 then 0 else
      let n := (modbusPduParse (buf.drop 1) (len - 3) type).1
      if n ≤ 0 then n else if len - 3 < n then 0
      else if modbusCrcCal (buf.take (n + 3).toNat) ≠ 0 then 0 else n := by
  unfold modbusRtuFrameParse
  simp only [frm_consts]
  split_ifs <;> rfl

theorem modbusRtuFrameParse_snd (buf : List UInt8) (len : Int) (frm : MbRtuFrm)
    (type : MbPduType) :
    (modbusRtuFrameParse buf len frm type).2 =
      if len < 4 then frm else
      ⟨(modbusCvtU8Get buf).1, ((modbusPduParse (buf.drop 1) (len - 3) type).2).getD frm.pdu⟩ := by
  unfold modbusRtuFrameParse
  simp only [frm_consts]
  split_ifs <;> rfl

theorem modbusRtuFrameParse_pos_cases {buf : List UInt8} {len : Int} {frm : MbRtuFrm}
    {type : MbPduType} (h : 0 < (modbusRtuFrameParse buf len frm type).1) :
    ¬len < 4 ∧ (modbusRtuFrameParse buf len frm type).1 =
        (modbusPduParse (buf.drop 1) (len - 3) type).1 ∧
      0 < (modbusPduParse (buf.drop 1) (len - 3) type).1 ∧
      (modbusPduParse (buf.drop 1) (len - 3) type).1 ≤ len - 3 ∧
      modbusCrcCal (buf.take ((modbusPduParse (buf.drop 1) (len - 3) type).1 + 3).toNat) = 0 := by
  rw [modbusRtuFrameParse_fst] at h ⊢
  dsimp only at h ⊢
  split_ifs at h ⊢ with h1 h2 h3 h4 <;>
    first | omega | exact ⟨h1, rfl, h, by omega, by simpa using h4⟩

theorem modbusRtuFrameParse_of_accept {buf : List UInt8} {len n : Int} {q : MbPdu}
    {frm : MbRtuFrm} {type : MbPduType} (h4 : 4 ≤ len)
    (hpdu : modbusPduParse (buf.drop 1) (len - 3) type = (n, some q)) (hn : 0 < n)
    (hle : n ≤ len - 3) (hcrc : modbusCrcCal (buf.take (n + 3).toNat) = 0) :
    modbusRtuFrameParse buf len frm type = (n, ⟨(modbusCvtU8Get buf).1, q⟩) := by
  apply Prod.ext
  · rw [modbusRtuFrameParse_fst, if_neg (by omega)]
    simp only [hpdu]
    rw [if_neg (by omega), if_neg (by omega), if_neg (by simpa using hcrc)]
  · rw [modbusRtuFrameParse_snd, if_neg (by omega), hpdu, Option.getD_some]

theorem modbusCvtU8Get_drop_one (buf : List UInt8) :
    (modbusCvtU8Get (buf.drop 1)).1 = buf.getD 1 0 := by
  match buf with
  | [] | [_] | _ :: _ :: _ => rfl

theorem modbusCvtU8Get_take (l : List UInt8) {k : Nat} (hk : 0 < k) :
    (modbusCvtU8Get (l.take k)).1 = (modbusCvtU8Get l).1 := by
  obtain ⟨k, rfl⟩ := Nat.exists_eq_succ_of_ne_zero (Nat.pos_iff_ne_zero.1 hk)
  cases l <;> rfl

theorem modbusRtuFrameParse_neg_cases {buf : List UInt8} {len : Int} {frm : MbRtuFrm}
    {type : MbPduType} (h : (modbusRtuFrameParse buf len frm type).1 < 0) :
    ¬len < 4 ∧ (modbusRtuFrameParse buf len frm type).1 =
      (modbusPduParse (buf.drop 1) (len - 3) type).1 := by
  rw [modbusRtuFrameParse_fst] at h ⊢
  dsimp only at h ⊢
  split_ifs at h ⊢ <;> omega

theorem modbusRtuFrameParse_prefix {buf buf' : List UInt8} {frm : MbRtuFrm} {type : MbPduType}
    (hpos : 0 < (modbusRtuFrameParse buf buf.length frm type).1)
    (hlen : buf'.length = buf.length)
    (htake : buf'.take ((modbusRtuFrameParse buf buf.length frm type).1 + 3).toNat =
      buf.take ((modbusRtuFrameParse buf buf.length frm type).1 + 3).toNat) :
    modbusRtuFrameParse buf' buf'.length frm type =
      modbusRtuFrameParse buf buf.length frm type := by
  obtain ⟨h4, hret, hn, hle, hcrc⟩ := modbusRtuFrameParse_pos_cases hpos
  obtain ⟨q, hq, hsel, hqlen, hbuf⟩ :=
    modbusPduParse_rebuild hn (by rw [List.length_drop]; omega)
  have hpdu : modbusPduParse (buf.drop 1) (buf.length - 3) type =
      ((q.make.length : Int), some q) := Prod.ext hqlen hq
  rw [hret, hqlen] at htake
  rw [hqlen] at hcrc hle
  have hk : ((q.make.length : Int) + 3).toNat = q.make.length + 1 + 2 := by omega
  rw [hk] at htake hcrc
  have hbuf' : q.make ++ (buf'.drop 1).drop q.make.length = buf'.drop 1 := by
    have h1 : (buf'.drop 1).take q.make.length = (buf.drop 1).take q.make.length := by
      have := congrArg (List.take (1 + q.make.length)) htake
      rw [List.take_take, List.take_take, Nat.min_eq_left (by omega)] at this
      rw [List.take_drop, List.take_drop, this]
    rw [← hbuf, List.take_left' rfl] at h1
    conv => rhs; rw [← List.take_append_drop q.make.length (buf'.drop 1)]
    rw [h1]
  have hpdu' : modbusPduParse (buf'.drop 1) (buf'.length - 3) type =
      ((q.make.length : Int), some q) := by
    rw [← hbuf', modbusPduParse_make_rest hsel _ ((buf.drop 1).drop q.make.length), hbuf, hlen,
      hpdu]
  have hhead : (modbusCvtU8Get buf').1 = (modbusCvtU8Get buf).1 := by
    rw [← modbusCvtU8Get_take buf' (k := q.make.length + 1 + 2) (by omega), htake,
      modbusCvtU8Get_take buf (by omega)]
  rw [modbusRtuFrameParse_of_accept (by omega) hpdu' (by omega) (by omega)
      (by rw [hk, htake]; exact hcrc),
    modbusRtuFrameParse_of_accept (by omega) hpdu (by omega) hle (by rw [hk]; exact hcrc), hhead]

/-- What the parser accepts: a prefix of its buffer with CRC residue `0`, read no further than
that prefix; and `-1` exactly for an unsupported `buf[1]`, whatever the CRC. -/
theorem modbusRtuFrameParse_accepts (type : MbPduType) (buf : List UInt8) (frm : MbRtuFrm) :
    let r := modbusRtuFrameParse buf buf.length frm type
    (0 < r.1 → r.1 + 3 ≤ buf.length ∧ modbusCrcCal (buf.take (r.1 + 3).toNat) = 0 ∧
      ∀ buf' : List UInt8, buf'.length = buf.length →
        buf'.take (r.1 + 3).toNat = buf.take (r.1 + 3).toNat →
        modbusRtuFrameParse buf' buf'.length frm type = r) ∧
    (r.1 < 0 → r.1 = -1 ∧ 4 ≤ buf.length ∧ selectShape type (buf.getD 1 0) = none) ∧
    (4 ≤ buf.length → selectShape type (buf.getD 1 0) = none → r.1 = -1) := by
  refine ⟨fun hpos => ?_, fun hneg => ?_, fun h4 hsel => ?_⟩
  · obtain ⟨-, hret, -, hle, hcrc⟩ := modbusRtuFrameParse_pos_cases hpos
    exact ⟨by omega, hret ▸ hcrc, fun _ hl ht => modbusRtuFrameParse_prefix hpos hl ht⟩
  · obtain ⟨h4, hret⟩ := modbusRtuFrameParse_neg_cases hneg
    rw [hret] at hneg ⊢
    rw [← modbusCvtU8Get_drop_one]
    exact ⟨(modbusPduParse_neg hneg).1, by omega, (modbusPduParse_neg hneg).2⟩
  · rw [← modbusCvtU8Get_drop_one] at hsel
    rw [modbusRtuFrameParse_fst, if_neg (by omega)]
    dsimp only
    rw [modbusPduParse_unsupported hsel, if_pos (by decide)]

/-- The parser answers `-1` for an unsupported code before any CRC check, and accepts a frame
followed by a stray byte with the frame's PDU length. -/
theorem modbusRtuFrameParse_crc_counterexample :
    modbusCrcCal [0x11, 0x00, 0x00, 0x00] ≠ 0 ∧
      (modbusRtuFrameParse [0x11, 0x00, 0x00, 0x00] 4 default .req).1 = -1 ∧
      (modbusRtuFrameParse [0x11, 0x03, 0x00, 0x6B, 0x00, 0x03, 0x76, 0x87, 0x00] 9
        default .req).1 = 5 := by
  set_option maxRecDepth 8000 in decide

theorem modbusRtuFrameMake_length_eq (a : UInt8) (pdu : MbPdu) (type : MbPduType) :
    (modbusRtuFrameMake ⟨a, pdu⟩ type).length =
      (if selectShape type pdu.fc = some pdu.shape then pdu.fixedLen + pdu.payload.length
        else 0) + 3 := by
  rw [modbusRtuFrameMake_length, modbusPduMake_eq, apply_ite List.length, pdu.make_length,
    List.length_nil]

/-- The maker writes three bytes around the PDU, and nothing bounds `dlen` against
`MB_RTU_FRM_MAX`: the longest frame is `268` bytes. -/
theorem modbusRtuFrameMake_length_le (a : UInt8) (pdu : MbPdu) (type : MbPduType) :
    (modbusRtuFrameMake ⟨a, pdu⟩ type).length ≤ 268 ∧
    (modbusRtuFrameMake ⟨a, pdu⟩ type).length =
      (if selectShape type pdu.fc = some pdu.shape then pdu.fixedLen + pdu.payload.length
        else 0) + 3 := by
  have hf := pdu.fixedLen_bounds.2
  have hp := pdu.payload_length_le
  rw [modbusRtuFrameMake_length_eq]
  exact ⟨by split <;> omega, rfl⟩

def fullWrRdReq : MbPdu :=
  .wrRdReq ⟨modbusFcWriteAndReadRegisters, 0, 0, 0, 0, 255, List.replicate 255 0,
    List.length_replicate _ _⟩

theorem modbusRtuFrameMake_overflow :
    mbRtuFrmMax < (modbusRtuFrameMake ⟨1, fullWrRdReq⟩ .req).length := by
  have hsel : selectShape .req fullWrRdReq.fc = some fullWrRdReq.shape := rfl
  have hpay : fullWrRdReq.payload.length = 255 := List.length_replicate _ _
  rw [modbusRtuFrameMake_length_eq, if_pos hsel, hpay]
  decide

/-- **Decode then encode**: an accepted frame is the frame made from what the parse stored,
check bytes included. -/
theorem modbusRtuFrameMake_parse (type : MbPduType) (buf : List UInt8) (len : Int)
    (frm : MbRtuFrm) (hpos : 0 < (modbusRtuFrameParse buf len frm type).1)
    (hlen : len ≤ buf.length) :
    modbusRtuFrameMake (modbusRtuFrameParse buf len frm type).2 type =
      buf.take ((modbusRtuFrameParse buf len frm type).1 + 3).toNat := by
  obtain ⟨h4, hret, hn, hle, hcrc⟩ := modbusRtuFrameParse_pos_cases hpos
  obtain ⟨q, hq, hsel, hqlen, hbuf⟩ :=
    modbusPduParse_rebuild hn (by rw [List.length_drop]; omega)
  rw [modbusRtuFrameParse_snd, if_neg h4, hq, Option.getD_some, hret]
  rw [hqlen] at hcrc hle ⊢
  have hk : ((q.make.length : Int) + 3).toNat = q.make.length + 3 := by omega
  rw [hk] at hcrc ⊢
  cases buf with
  | nil => simp at hlen; omega
  | cons b0 tl =>
    simp only [List.drop_one, List.tail_cons] at hbuf
    obtain ⟨c0, c1, rest, htl⟩ : ∃ c0 c1 rest, tl.drop q.make.length = c0 :: c1 :: rest := by
      match h : tl.drop q.make.length with
      | c0 :: c1 :: rest => exact ⟨c0, c1, rest, rfl⟩
      | [] | [_] => have := congrArg List.length h; simp at this hlen; omega
    rw [htl] at hbuf
    have htake :
        (b0 :: tl).take (q.make.length + 3) = modbusCvtU8Put b0 ++ q.make ++ [c0, c1] := by
      rw [← hbuf]; simp [modbusCvtU8Put, List.take_append_eq_append_take]
    rw [htake] at hcrc ⊢
    rw [modbusRtuFrameMake, modbusPduMake_eq, if_pos hsel,
      show (modbusCvtU8Get (b0 :: tl)).1 = b0 from rfl,
      (modbusCrcCal_append_eq_zero _ c0 c1).1 hcrc]

theorem modbusRtuFrameMake_parse_stray :
    0 < (modbusRtuFrameParse [0x11, 0x03, 0x00, 0x6B, 0x00, 0x03, 0x76, 0x87, 0x00] 9
        default .req).1 ∧
      (9 : Int) ≤ ([0x11, 0x03, 0x00, 0x6B, 0x00, 0x03, 0x76, 0x87, 0x00] : List UInt8).length ∧
      modbusRtuFrameMake (modbusRtuFrameParse [0x11, 0x03, 0x00, 0x6B, 0x00, 0x03, 0x76, 0x87,
          0x00] 9 default .req).2 .req =
        [0x11, 0x03, 0x00, 0x6B, 0x00, 0x03, 0x76, 0x87, 0x00].take ((modbusRtuFrameParse
          [0x11, 0x03, 0x00, 0x6B, 0x00, 0x03, 0x76, 0x87, 0x00] 9 default .req).1 + 3).toNat :=
  have hpos : 0 < (modbusRtuFrameParse [0x11, 0x03, 0x00, 0x6B, 0x00, 0x03, 0x76, 0x87, 0x00] 9
      default .req).1 := by
    set_option maxRecDepth 8000 in decide
  ⟨hpos, by decide, modbusRtuFrameMake_parse .req _ 9 default hpos (by decide)⟩

theorem modbusRtuFrameMake_open (a : UInt8) (type : MbPduType) (pdu : MbPdu)
    (hs : pdu.Supported type) :
    modbusPduMake pdu type = pdu.make ∧ ∃ crc : List UInt8, crc.length = 2 ∧
      modbusRtuFrameMake ⟨a, pdu⟩ type = a :: (pdu.make ++ crc) ∧
      modbusCrcCal (a :: (pdu.make ++ crc)) = 0 := by
  have hm : modbusPduMake pdu type = pdu.make := by rw [modbusPduMake_eq, if_pos hs.1]
  refine ⟨hm, crcBytes (modbusCrcCal (modbusCvtU8Put a ++ pdu.make)), rfl, ?_, ?_⟩
  · rw [modbusRtuFrameMake_eq, hm]; rfl
  · have := modbusCrcCal_append_crc (modbusCvtU8Put a ++ pdu.make)
    rwa [List.append_assoc] at this

/-- **A frame and what follows it**: the bytes after a made frame are never read. -/
theorem modbusRtuFrameParse_make_append (a : UInt8) (type : MbPduType) (pdu : MbPdu)
    (hs : pdu.Supported type) (rest : List UInt8) (len : Int)
    (hlen : ((modbusRtuFrameMake ⟨a, pdu⟩ type).length : Int) ≤ len) (frm : MbRtuFrm) :
    modbusRtuFrameParse (modbusRtuFrameMake ⟨a, pdu⟩ type ++ rest) len frm type =
      (((modbusRtuFrameMake ⟨a, pdu⟩ type).length : Int) - 3, ⟨a, pdu⟩) := by
  obtain ⟨hm, crc, hcl, hF, hcrc⟩ := modbusRtuFrameMake_open a type pdu hs
  have h2 := pdu.fixedLen_bounds.1
  have hml := pdu.make_length
  have hL : (a :: (pdu.make ++ crc)).length = pdu.make.length + 3 := by simp [hcl]
  rw [hF, hL] at hlen ⊢
  have hpdu := modbusPduParse_make_append type pdu hs (crc ++ rest) (len - 3) (by rw [hm]; omega)
  rw [hm, ← List.append_assoc] at hpdu
  rw [show ((pdu.make.length + 3 : Nat) : Int) - 3 = pdu.make.length by omega]
  refine modbusRtuFrameParse_of_accept (by omega) hpdu (by omega) (by omega) ?_
  rwa [show ((pdu.make.length : Int) + 3).toNat = (a :: (pdu.make ++ crc)).length by
    rw [hL]; omega, List.take_left' rfl]

theorem modbusRtuFrameParse_make_append_stray :
    (MbPdu.rdReq ⟨0x03, 0x006B, 0x0003⟩).Supported .req ∧
      ((modbusRtuFrameMake ⟨0x11, .rdReq ⟨0x03, 0x006B, 0x0003⟩⟩ .req).length : Int) ≤ 9 ∧
      modbusRtuFrameParse (modbusRtuFrameMake ⟨0x11, .rdReq ⟨0x03, 0x006B, 0x0003⟩⟩ .req ++ [0x00])
          9 default .req =
        (((modbusRtuFrameMake ⟨0x11, .rdReq ⟨0x03, 0x006B, 0x0003⟩⟩ .req).length : Int) - 3,
          ⟨0x11, .rdReq ⟨0x03, 0x006B, 0x0003⟩⟩) :=
  have hs : (MbPdu.rdReq ⟨0x03, 0x006B, 0x0003⟩).Supported .req := by decide
  have hlen : ((modbusRtuFrameMake ⟨0x11, .rdReq ⟨0x03, 0x006B, 0x0003⟩⟩ .req).length : Int) ≤ 9 := by
    rw [modbusRtuFrameMake_length]; decide
  ⟨hs, hlen, modbusRtuFrameParse_make_append 0x11 .req _ hs [0x00] 9 hlen default⟩

/-- **Single-byte errors are caught**, except in the function code and the byte count, which
move the bytes the CRC is taken over. -/
theorem modbusRtuFrameParse_detects (a : UInt8) (type : MbPduType) (pdu : MbPdu)
    (hs : pdu.Supported type) (frm : MbRtuFrm) (k : Nat) (v : UInt8)
    (hk : k < (modbusRtuFrameMake ⟨a, pdu⟩ type).length)
    (hv : v ≠ (modbusRtuFrameMake ⟨a, pdu⟩ type).getD k 0) (hfc : k ≠ 1)
    (hcount : ∀ c, pdu.shape.countAt = some c → k ≠ c + 1) :
    (modbusRtuFrameParse ((modbusRtuFrameMake ⟨a, pdu⟩ type).set k v)
      (modbusRtuFrameMake ⟨a, pdu⟩ type).length frm type).1 = 0 := by
  obtain ⟨hm, crc, hcl, hF, hcrc0⟩ := modbusRtuFrameMake_open a type pdu hs
  have h2 := pdu.fixedLen_bounds.1
  have hml := pdu.make_length
  have hL : (a :: (pdu.make ++ crc)).length = pdu.make.length + 3 := by simp [hcl]
  rw [hF] at hk hv ⊢
  have hcrc := modbusCrcCal_set_ne _ hk hv
  rw [hcrc0] at hcrc
  have hpdu : (modbusPduParse (((a :: (pdu.make ++ crc)).set k v).drop 1) (pdu.make.length)
      type).1 = pdu.make.length := by
    have happ := modbusPduParse_make_append type pdu hs crc pdu.make.length (hm ▸ Int.le_refl _)
    rw [hm] at happ
    cases k with
    | zero => rw [List.set_cons_zero, List.drop_one, List.tail_cons, happ]
    | succ j =>
      have hsel : selectShape type (modbusCvtU8Get (pdu.make ++ crc)).1 = some pdu.shape := by
        rw [modbusCvtU8Get_make]; exact hs.1
      rw [List.set_cons_succ, List.drop_one, List.tail_cons,
        modbusPduParse_fst_set hsel v (by omega) (fun c h e => hcount c h (by omega)), happ]
  rw [modbusRtuFrameParse_fst, hL, if_neg (by omega)]
  dsimp only
  rw [show ((pdu.make.length + 3 : Nat) : Int) - 3 = pdu.make.length by omega, hpdu,
    if_neg (by omega), if_neg (by omega), if_pos]
  rwa [List.take_of_length_le (by rw [List.length_set, hL]; omega)]

theorem modbusRtuFrameParse_detects_read_holding :
    (MbPdu.rdReq ⟨0x03, 0x006B, 0x0003⟩).Supported .req ∧
      3 < (modbusRtuFrameMake ⟨0x11, .rdReq ⟨0x03, 0x006B, 0x0003⟩⟩ .req).length ∧
      0x6C ≠ (modbusRtuFrameMake ⟨0x11, .rdReq ⟨0x03, 0x006B, 0x0003⟩⟩ .req).getD 3 0 ∧
      3 ≠ 1 ∧ (∀ c, (MbPdu.rdReq ⟨0x03, 0x006B, 0x0003⟩).shape.countAt = some c → 3 ≠ c + 1) ∧
      (modbusRtuFrameParse ((modbusRtuFrameMake ⟨0x11, .rdReq ⟨0x03, 0x006B, 0x0003⟩⟩ .req).set 3
        0x6C) (modbusRtuFrameMake ⟨0x11, .rdReq ⟨0x03, 0x006B, 0x0003⟩⟩ .req).length default
        .req).1 = 0 :=
  have hs : (MbPdu.rdReq ⟨0x03, 0x006B, 0x0003⟩).Supported .req := by decide
  have hk : 3 < (modbusRtuFrameMake ⟨0x11, .rdReq ⟨0x03, 0x006B, 0x0003⟩⟩ .req).length := by
    rw [modbusRtuFrameMake_length]; decide
  have hv : 0x6C ≠ (modbusRtuFrameMake ⟨0x11, .rdReq ⟨0x03, 0x006B, 0x0003⟩⟩ .req).getD 3 0 := by
    set_option maxRecDepth 8000 in decide
  have hcount : ∀ c, (MbPdu.rdReq ⟨0x03, 0x006B, 0x0003⟩).shape.countAt = some c → 3 ≠ c + 1 :=
    fun _ => nofun
  ⟨hs, hk, hv, by decide, hcount,
    modbusRtuFrameParse_detects 0x11 .req _ hs default 3 0x6C hk hv (by decide) hcount⟩

/-- The byte count is not covered: in this four-byte read response, `0x04` changed to `0x02`
leaves a two-byte response whose next two bytes are its CRC, and the frame is accepted. -/
example : (modbusRtuFrameParse [0x01, 0x03, 0x02, 0x00, 0x00, 0xB8, 0x44, 0x88, 0x00] 9
    default .rsp).1 = 4 ∧
    modbusCrcCal [0x01, 0x03, 0x04, 0x00, 0x00, 0xB8, 0x44, 0x88, 0x00] = 0 := by
  set_option maxRecDepth 8000 in decide

end Modbus.Rtu
