import Modbus.Pdu

/-!
# The PDU codec laws

Parsing undoes making for every PDU `modbus_pdu_make` supports, and making undoes parsing on
whatever a parse accepts inside its buffer, both from one lemma per direction about a member
read and written through its own shape. No parser compares its byte count with `len`.
-/

namespace Modbus.Pdu
open Modbus.ByteOrder

def MbPdu.payloadOk : MbPdu → Bool
  | .rdRsp m => m.dlen ≠ 0
  | .wrReq m => m.dlen ≠ 0
  | .wrRdReq m => m.dlen ≠ 0
  | _ => true

/-- The PDUs `modbus_pdu_make` writes in direction `type`: the member is the one the
function code selects, with a nonempty payload where the member has one. -/
def MbPdu.Supported (pdu : MbPdu) (type : MbPduType) : Prop :=
  selectShape type pdu.fc = some pdu.shape ∧ pdu.payloadOk = true

instance (pdu : MbPdu) (type : MbPduType) : Decidable (pdu.Supported type) :=
  inferInstanceAs (Decidable (_ ∧ _))

theorem borrow_append {x : List UInt8} {n : Nat} (h : x.length = n) (rest : List UInt8) :
    borrow (x ++ rest) n = x :=
  List.takeD_left' h

theorem borrow_rebuild (l : List UInt8) (k n : Nat) (h : k + n ≤ l.length) :
    borrow (l.drop k) n ++ l.drop (k + n) = l.drop k := by
  rw [borrow, List.takeD_eq_take _ (by simp; omega), ← List.drop_drop]
  exact List.take_append_drop _ _

theorem dlen_pos {d : UInt8} (h : d ≠ 0) : 0 < d.toNat :=
  Nat.pos_of_ne_zero fun h0 => h (UInt8.toNat.inj (b := 0) h0)

@[simp] theorem modbusCvtU8Put_length (v : UInt8) : (modbusCvtU8Put v).length = 1 := rfl

@[simp] theorem modbusCvtU16Put_length (v : UInt16) : (modbusCvtU16Put v).length = 2 := rfl

theorem parseAs_make (pdu : MbPdu) (hp : pdu.payloadOk = true) (rest : List UInt8) (len : Int)
    (hlen : (pdu.make.length : Int) ≤ len) :
    parseAs pdu.shape (pdu.make ++ rest) len = ((pdu.make.length : Int), some pdu) := by
  cases pdu with
  | except m =>
    obtain ⟨fc, ec⟩ := m
    have h : ¬ len < 2 := by simp [MbPdu.make, modbusPduExceptMake] at hlen; omega
    simp [MbPdu.make, MbPdu.shape, parseAs, modbusPduExceptParse, modbusPduExceptMake, h]
  | rdReq m =>
    obtain ⟨fc, addr, nb⟩ := m
    have h : ¬ len < 5 := by simp [MbPdu.make, modbusPduRdReqMake] at hlen; omega
    simp [MbPdu.make, MbPdu.shape, parseAs, modbusPduRdReqParse, modbusPduRdReqMake, h]
  | rdRsp m =>
    obtain ⟨fc, dlen, pdata, hpd⟩ := m
    have hd := dlen_pos (by simpa [MbPdu.payloadOk] using hp)
    have h : ¬ len < 3 := by simp [MbPdu.make, modbusPduRdRspMake, hpd] at hlen; omega
    simp [MbPdu.make, MbPdu.shape, parseAs, modbusPduRdRspParse, modbusPduRdRspMake, h,
      borrow_append hpd, hpd]
    omega
  | wrSingle m =>
    obtain ⟨fc, addr, val⟩ := m
    have h : ¬ len < 5 := by simp [MbPdu.make, modbusPduWrSingleMake] at hlen; omega
    simp [MbPdu.make, MbPdu.shape, parseAs, modbusPduWrSingleParse, modbusPduWrSingleMake, h]
  | wrReq m =>
    obtain ⟨fc, addr, nb, dlen, pdata, hpd⟩ := m
    have hd := dlen_pos (by simpa [MbPdu.payloadOk] using hp)
    have h : ¬ len < 7 := by simp [MbPdu.make, modbusPduWrReqMake, hpd] at hlen; omega
    simp [MbPdu.make, MbPdu.shape, parseAs, modbusPduWrReqParse, modbusPduWrReqMake, h,
      borrow_append hpd, hpd]
    omega
  | wrRsp m =>
    obtain ⟨fc, addr, nb⟩ := m
    have h : ¬ len < 5 := by simp [MbPdu.make, modbusPduWrRspMake] at hlen; omega
    simp [MbPdu.make, MbPdu.shape, parseAs, modbusPduWrRspParse, modbusPduWrRspMake, h]
  | maskWr m =>
    obtain ⟨fc, addr, valAnd, valOr⟩ := m
    have h : ¬ len < 7 := by simp [MbPdu.make, modbusPduMaskWrMake] at hlen; omega
    simp [MbPdu.make, MbPdu.shape, parseAs, modbusPduMaskWrParse, modbusPduMaskWrMake, h]
  | wrRdReq m =>
    obtain ⟨fc, rdAddr, rdNb, wrAddr, wrNb, dlen, pdata, hpd⟩ := m
    have hd := dlen_pos (by simpa [MbPdu.payloadOk] using hp)
    have h : ¬ len < 11 := by simp [MbPdu.make, modbusPduWrRdReqMake, hpd] at hlen; omega
    simp [MbPdu.make, MbPdu.shape, parseAs, modbusPduWrRdReqParse, modbusPduWrRdReqMake, h,
      borrow_append hpd, hpd]
    omega

theorem parseAs_make_rest (pdu : MbPdu) (rest rest' : List UInt8) (len : Int) :
    parseAs pdu.shape (pdu.make ++ rest) len = parseAs pdu.shape (pdu.make ++ rest') len := by
  cases pdu with
  | rdRsp m =>
    obtain ⟨fc, dlen, pdata, hpd⟩ := m
    simp [MbPdu.make, MbPdu.shape, parseAs, modbusPduRdRspParse, modbusPduRdRspMake,
      borrow_append hpd]
  | wrReq m =>
    obtain ⟨fc, addr, nb, dlen, pdata, hpd⟩ := m
    simp [MbPdu.make, MbPdu.shape, parseAs, modbusPduWrReqParse, modbusPduWrReqMake,
      borrow_append hpd]
  | wrRdReq m =>
    obtain ⟨fc, rdAddr, rdNb, wrAddr, wrNb, dlen, pdata, hpd⟩ := m
    simp [MbPdu.make, MbPdu.shape, parseAs, modbusPduWrRdReqParse, modbusPduWrRdReqMake,
      borrow_append hpd]
  | _ => rfl

theorem parseAs_rebuild {s : Shape} {buf : List UInt8} {len n : Int} {q : MbPdu}
    (h : parseAs s buf len = (n, some q)) (hn : n ≤ buf.length) :
    q.shape = s ∧ n = q.make.length ∧ q.make ++ buf.drop q.make.length = buf := by
  cases s <;>
  · simp only [parseAs, modbusPduExceptParse, modbusPduRdReqParse, modbusPduRdRspParse,
      modbusPduWrSingleParse, modbusPduWrReqParse, modbusPduWrRspParse, modbusPduMaskWrParse,
      modbusPduWrRdReqParse] at h
    split at h
    · simp at h
    · simp only [Prod.map, id, Option.map_some', Prod.mk.injEq, Option.some.injEq] at h
      obtain ⟨rfl, rfl⟩ := h
      try simp only [modbusCvtU8Get_snd, modbusCvtU16Get_snd, List.drop_drop, Nat.reduceAdd] at hn
      refine ⟨rfl, ?_, ?_⟩
      · simp [MbPdu.make, modbusPduExceptMake, modbusPduRdReqMake, modbusPduRdRspMake,
          modbusPduWrSingleMake, modbusPduWrReqMake, modbusPduWrRspMake, modbusPduMaskWrMake,
          modbusPduWrRdReqMake, borrow_length] <;> omega
      · simp (disch := omega) only [MbPdu.make, modbusPduExceptMake, modbusPduRdReqMake,
          modbusPduRdRspMake, modbusPduWrSingleMake, modbusPduWrReqMake, modbusPduWrRspMake,
          modbusPduMaskWrMake, modbusPduWrRdReqMake, List.append_assoc, modbusCvtU8Get_snd,
          modbusCvtU16Get_snd, List.drop_drop, List.length_append, modbusCvtU8Put_length,
          modbusCvtU16Put_length, borrow_length, ← Nat.add_assoc, Nat.reduceAdd, borrow_rebuild,
          modbusCvtU16Put_get_drop, modbusCvtU8Put_get_drop, modbusCvtU8Put_get]

theorem parseAs_none {s : Shape} {buf : List UInt8} {len : Int}
    (h : (parseAs s buf len).2 = none) : (parseAs s buf len).1 = 0 := by
  cases s <;>
  · simp only [parseAs, modbusPduExceptParse, modbusPduRdReqParse, modbusPduRdRspParse,
      modbusPduWrSingleParse, modbusPduWrReqParse, modbusPduWrRspParse, modbusPduMaskWrParse,
      modbusPduWrRdReqParse] at h ⊢
    split <;> simp_all

theorem modbusCvtU8Get_make (pdu : MbPdu) (rest : List UInt8) :
    (modbusCvtU8Get (pdu.make ++ rest)).1 = pdu.fc := by
  cases pdu <;> rfl

theorem parseAs_nonneg (s : Shape) (buf : List UInt8) (len : Int) :
    0 ≤ (parseAs s buf len).1 := by
  cases s <;>
  · simp only [parseAs, modbusPduExceptParse, modbusPduRdReqParse, modbusPduRdRspParse,
      modbusPduWrSingleParse, modbusPduWrReqParse, modbusPduWrRspParse, modbusPduMaskWrParse,
      modbusPduWrRdReqParse]
    split <;> simp <;> omega

theorem modbusPduParse_neg {buf : List UInt8} {len : Int} {type : MbPduType}
    (h : (modbusPduParse buf len type).1 < 0) :
    (modbusPduParse buf len type).1 = -1 ∧ selectShape type (modbusCvtU8Get buf).1 = none := by
  rw [modbusPduParse_eq] at h ⊢
  split at h
  · have := parseAs_nonneg ‹_› buf len
    omega
  · simp_all

theorem modbusPduParse_unsupported {buf : List UInt8} {len : Int} {type : MbPduType}
    (h : selectShape type (modbusCvtU8Get buf).1 = none) :
    modbusPduParse buf len type = (-1, none) := by
  rw [modbusPduParse_eq, h]

example : (modbusPduParse [0x2B] 1 .req).1 = -1 := by decide

def MbPdu.payload : MbPdu → List UInt8
  | .rdRsp m => m.pdata
  | .wrReq m => m.pdata
  | .wrRdReq m => m.pdata
  | _ => []

def MbPdu.fixedLen : MbPdu → Nat
  | .except _ => 2
  | .rdReq _ => 5
  | .rdRsp _ => 2
  | .wrSingle _ => 5
  | .wrReq _ => 6
  | .wrRsp _ => 5
  | .maskWr _ => 7
  | .wrRdReq _ => 10

theorem MbPdu.fixedLen_bounds (pdu : MbPdu) : 2 ≤ pdu.fixedLen ∧ pdu.fixedLen ≤ 10 := by
  cases pdu <;> simp [MbPdu.fixedLen]

theorem MbPdu.make_length (pdu : MbPdu) : pdu.make.length = pdu.fixedLen + pdu.payload.length := by
  cases pdu <;> simp [MbPdu.make, MbPdu.fixedLen, MbPdu.payload, modbusPduExceptMake,
    modbusPduRdReqMake, modbusPduRdRspMake, modbusPduWrSingleMake, modbusPduWrReqMake,
    modbusPduWrRspMake, modbusPduMaskWrMake, modbusPduWrRdReqMake] <;> omega

theorem MbPdu.payload_length_le (pdu : MbPdu) : pdu.payload.length ≤ 255 := by
  cases pdu
  case rdRsp m | wrReq m | wrRdReq m =>
    rw [MbPdu.payload, m.pdata_length]
    exact Nat.le_of_lt_succ m.dlen.toNat_lt_size
  all_goals exact Nat.zero_le _

theorem modbusPduParse_make_append (type : MbPduType) (pdu : MbPdu) (hs : pdu.Supported type)
    (rest : List UInt8) (len : Int) (hlen : ((modbusPduMake pdu type).length : Int) ≤ len) :
    modbusPduParse (modbusPduMake pdu type ++ rest) len type =
      (((modbusPduMake pdu type).length : Int), some pdu) := by
  have hm : modbusPduMake pdu type = pdu.make := by rw [modbusPduMake_eq, if_pos hs.1]
  rw [hm] at hlen ⊢
  rw [modbusPduParse_eq, modbusCvtU8Get_make, hs.1]
  exact parseAs_make pdu hs.2 rest len hlen

/-- **Encode undoes decode**: what a parse accepts inside its buffer is made again as the bytes
it consumed. -/
theorem modbusPduMake_parse (type : MbPduType) (buf : List UInt8) (n : Int)
    (hret : (modbusPduParse buf buf.length type).1 = n) (hpos : 0 < n) (hn : n ≤ buf.length) :
    ∃ pdu, (modbusPduParse buf buf.length type).2 = some pdu ∧
      modbusPduMake pdu type = buf.take n.toNat := by
  rw [modbusPduParse_eq] at hret ⊢
  split at hret
  · rename_i s hsel
    cases hq : (parseAs s buf buf.length).2 with
    | none => rw [parseAs_none hq] at hret; omega
    | some q =>
      obtain ⟨hshape, hlen, hbuf⟩ :=
        parseAs_rebuild (by rw [← hret, ← hq]) hn
      have hfc : q.fc = (modbusCvtU8Get buf).1 := by
        rw [← modbusCvtU8Get_make q (buf.drop q.make.length), hbuf]
      refine ⟨q, rfl, ?_⟩
      rw [modbusPduMake_eq, hfc, hsel, hshape, if_pos rfl, hlen, Int.toNat_ofNat]
      conv => rhs; rw [← hbuf]
      exact (List.take_left' rfl).symm
  · simp at hret
    omega

theorem modbusPduMake_parse_wr_single :
    (modbusPduParse [0x06, 0x00, 0x01, 0x00, 0x03] [0x06, 0x00, 0x01, 0x00, 0x03].length .req).1 = 5 ∧
      (0 : Int) < 5 ∧ (5 : Int) ≤ [0x06, 0x00, 0x01, 0x00, 0x03].length ∧
      ∃ pdu, (modbusPduParse [0x06, 0x00, 0x01, 0x00, 0x03]
          [0x06, 0x00, 0x01, 0x00, 0x03].length .req).2 = some pdu ∧
        modbusPduMake pdu .req = [0x06, 0x00, 0x01, 0x00, 0x03].take (5 : Int).toNat :=
  have hret : (modbusPduParse [0x06, 0x00, 0x01, 0x00, 0x03]
      [0x06, 0x00, 0x01, 0x00, 0x03].length .req).1 = 5 := by decide
  ⟨hret, by decide, by decide, modbusPduMake_parse .req _ 5 hret (by decide) (by decide)⟩

theorem modbusPduParse_rebuild {buf : List UInt8} {len : Int} {type : MbPduType}
    (hpos : 0 < (modbusPduParse buf len type).1)
    (hn : (modbusPduParse buf len type).1 ≤ buf.length) :
    ∃ q, (modbusPduParse buf len type).2 = some q ∧ selectShape type q.fc = some q.shape ∧
      (modbusPduParse buf len type).1 = q.make.length ∧
      q.make ++ buf.drop q.make.length = buf := by
  rw [modbusPduParse_eq] at hpos hn ⊢
  cases hsel : selectShape type (modbusCvtU8Get buf).1 with
  | none => simp [hsel] at hpos
  | some s =>
    simp only [hsel] at hpos hn ⊢
    cases hq : (parseAs s buf len).2 with
    | none => rw [parseAs_none hq] at hpos; omega
    | some q =>
      obtain ⟨hshape, hlen, hbuf⟩ := parseAs_rebuild (Prod.ext rfl hq) hn
      have hfc : q.fc = (modbusCvtU8Get buf).1 := by
        rw [← modbusCvtU8Get_make q (buf.drop q.make.length), hbuf]
      exact ⟨q, rfl, by rw [hfc, hsel, hshape], hlen, hbuf⟩

theorem modbusPduParse_make_rest {pdu : MbPdu} {type : MbPduType}
    (hsel : selectShape type pdu.fc = some pdu.shape) (rest rest' : List UInt8) (len : Int) :
    modbusPduParse (pdu.make ++ rest) len type = modbusPduParse (pdu.make ++ rest') len type := by
  rw [modbusPduParse_eq, modbusPduParse_eq, modbusCvtU8Get_make, modbusCvtU8Get_make, hsel]
  exact parseAs_make_rest pdu rest rest' len

/-- Where the byte count `dlen` sits in the members that carry one. -/
def Shape.countAt : Shape → Option Nat
  | .rdRsp => some 1
  | .wrReq => some 5
  | .wrRdReq => some 9
  | _ => none

theorem headD_drop (l : List UInt8) (k : Nat) : (l.drop k).headD 0 = l.getD k 0 := by
  rw [List.headD_eq_head?_getD, List.head?_drop, List.getD_eq_getElem?_getD]

theorem parseAs_fst_set (s : Shape) (buf : List UInt8) (len : Int) {j : Nat} (v : UInt8)
    (hj : ∀ c, s.countAt = some c → j ≠ c) :
    (parseAs s (buf.set j v) len).1 = (parseAs s buf len).1 := by
  cases s <;> simp only [Shape.countAt, Option.some.injEq, forall_eq', reduceCtorEq,
    false_implies, implies_true] at hj <;>
    simp [parseAs, modbusPduExceptParse, modbusPduRdReqParse, modbusPduRdRspParse,
      modbusPduWrSingleParse, modbusPduWrReqParse, modbusPduWrRspParse, modbusPduMaskWrParse,
      modbusPduWrRdReqParse, modbusCvtU8Get, List.drop_drop, headD_drop, apply_ite Prod.fst,
      List.getElem?_set_ne, hj]

theorem modbusPduParse_fst_set {buf : List UInt8} {len : Int} {type : MbPduType} {s : Shape}
    (hsel : selectShape type (modbusCvtU8Get buf).1 = some s) {j : Nat} (v : UInt8)
    (hj0 : j ≠ 0) (hj : ∀ c, s.countAt = some c → j ≠ c) :
    (modbusPduParse (buf.set j v) len type).1 = (modbusPduParse buf len type).1 := by
  have hfc : (modbusCvtU8Get (buf.set j v)).1 = (modbusCvtU8Get buf).1 := by
    obtain ⟨j, rfl⟩ := Nat.exists_eq_succ_of_ne_zero hj0
    cases buf <;> rfl
  rw [modbusPduParse_eq, modbusPduParse_eq, hfc, hsel]
  exact parseAs_fst_set s buf len v hj

/-- `modbus_pdu_rd_rsp_parse` on a three-byte buffer whose byte count claims five bytes:
it returns `7`, with the borrow running past the buffer. -/
theorem modbusPduParse_rd_rsp_overrun :
    (modbusPduParse [0x03, 0x05, 0x00] 3 .rsp).1 = 7 := by decide

theorem parseAs_consumed {s : Shape} {buf : List UInt8} {len n : Int} {q : MbPdu}
    (h : parseAs s buf len = (n, some q)) :
    n = q.make.length ∧ n ≤ len + (q.payload.length - 1 : Nat) := by
  rw [MbPdu.make_length]
  cases s <;>
  · simp only [parseAs, modbusPduExceptParse, modbusPduRdReqParse, modbusPduRdRspParse,
      modbusPduWrSingleParse, modbusPduWrReqParse, modbusPduWrRspParse, modbusPduMaskWrParse,
      modbusPduWrRdReqParse] at h
    split at h
    · simp at h
    · simp only [Prod.map, id, Option.map_some', Prod.mk.injEq, Option.some.injEq] at h
      obtain ⟨rfl, rfl⟩ := h
      simp only [MbPdu.fixedLen, MbPdu.payload, borrow_length, List.length_nil]
      omega

/-- **How far a parse can run past `len`**: a stored parse returns the fixed part plus `dlen`,
at most `dlen - 1` bytes past `len`. -/
theorem modbusPduParse_consumed (buf : List UInt8) (len : Int) (type : MbPduType) (q : MbPdu)
    (h : (modbusPduParse buf len type).2 = some q) :
    (modbusPduParse buf len type).1 = ((q.fixedLen + q.payload.length : Nat) : Int) ∧
      (modbusPduParse buf len type).1 ≤ len + (q.payload.length - 1 : Nat) := by
  rw [← MbPdu.make_length]
  rw [modbusPduParse_eq] at h ⊢
  split at h
  · exact parseAs_consumed (Prod.ext rfl h)
  · cases h

theorem modbusPduParse_consumed_short :
    (modbusPduParse [0x03, 0x05, 0x00] 3 .rsp).2 =
        some (.rdRsp ⟨0x03, 5, [0, 0, 0, 0, 0], rfl⟩) ∧
      (modbusPduParse [0x03, 0x05, 0x00] 3 .rsp).1 =
        (((MbPdu.rdRsp ⟨0x03, 5, [0, 0, 0, 0, 0], rfl⟩).fixedLen +
          (MbPdu.rdRsp ⟨0x03, 5, [0, 0, 0, 0, 0], rfl⟩).payload.length : Nat) : Int) ∧
      (modbusPduParse [0x03, 0x05, 0x00] 3 .rsp).1 ≤
        3 + ((MbPdu.rdRsp ⟨0x03, 5, [0, 0, 0, 0, 0], rfl⟩).payload.length - 1 : Nat) :=
  have hq : (modbusPduParse [0x03, 0x05, 0x00] 3 .rsp).2 =
      some (.rdRsp ⟨0x03, 5, [0, 0, 0, 0, 0], rfl⟩) := rfl
  ⟨hq, modbusPduParse_consumed _ 3 .rsp _ hq⟩

end Modbus.Pdu
