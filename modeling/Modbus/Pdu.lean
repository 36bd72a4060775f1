import Modbus.ByteOrder

/-!
# Protocol data units

`modbus_pdu.c`. The union `mb_pdu_t` is a tagged variant over its eight members, and each
dispatcher is its `switch` table (`reqShape`, `rspShape`) followed by the member's make or
parse. A value whose member is not the one its function code selects has no layout here (the
union's is in the missing `modbus_pdu.h`) and is made like an unsupported code.
-/

namespace Modbus.Pdu
open Modbus.ByteOrder

inductive MbPduType
  | req
  | rsp
  deriving DecidableEq, Repr

def modbusFcReadCoils : UInt8 := 0x01
def modbusFcReadDiscreteInputs : UInt8 := 0x02
def modbusFcReadHoldingRegisters : UInt8 := 0x03
def modbusFcReadInputRegisters : UInt8 := 0x04
def modbusFcWriteSingleCoil : UInt8 := 0x05
def modbusFcWriteSingleRegister : UInt8 := 0x06
def modbusFcWriteMultipleCoils : UInt8 := 0x0F
def modbusFcWriteMultipleRegisters : UInt8 := 0x10
def modbusFcMaskWriteRegister : UInt8 := 0x16
def modbusFcWriteAndReadRegisters : UInt8 := 0x17

/-- Modelled from the spec: `MODBUS_FC_EXCEPT_CHK(fc)`, the high bit of the code. -/
def modbusFcExceptChk (fc : UInt8) : Bool := fc &&& 0x80 ≠ 0

structure MbPduExcept where
  fc : UInt8
  ec : UInt8
  deriving DecidableEq, Repr

structure MbPduRdReq where
  fc : UInt8
  addr : UInt16
  nb : UInt16
  deriving DecidableEq, Repr

/-- `mb_pdu_rd_rsp_t`. The zero-copy `pdata` is kept as the `dlen` bytes it covers. -/
structure MbPduRdRsp where
  fc : UInt8
  dlen : UInt8
  pdata : List UInt8
  pdata_length : pdata.length = dlen.toNat
  deriving DecidableEq, Repr

structure MbPduWrSingle where
  fc : UInt8
  addr : UInt16
  val : UInt16
  deriving DecidableEq, Repr

structure MbPduWrReq where
  fc : UInt8
  addr : UInt16
  nb : UInt16
  dlen : UInt8
  pdata : List UInt8
  pdata_length : pdata.length = dlen.toNat
  deriving DecidableEq, Repr

structure MbPduWrRsp where
  fc : UInt8
  addr : UInt16
  nb : UInt16
  deriving DecidableEq, Repr

structure MbPduMaskWr where
  fc : UInt8
  addr : UInt16
  val_and : UInt16
  val_or : UInt16
  deriving DecidableEq, Repr

structure MbPduWrRdReq where
  fc : UInt8
  rd_addr : UInt16
  rd_nb : UInt16
  wr_addr : UInt16
  wr_nb : UInt16
  dlen : UInt8
  pdata : List UInt8
  pdata_length : pdata.length = dlen.toNat
  deriving DecidableEq, Repr

inductive Shape
  | except
  | rdReq
  | rdRsp
  | wrSingle
  | wrReq
  | wrRsp
  | maskWr
  | wrRdReq
  deriving DecidableEq, Repr

inductive MbPdu
  | except (exc : MbPduExcept)
  | rdReq (rdReq : MbPduRdReq)
  | rdRsp (rdRsp : MbPduRdRsp)
  | wrSingle (wrSingle : MbPduWrSingle)
  | wrReq (wrReq : MbPduWrReq)
  | wrRsp (wrRsp : MbPduWrRsp)
  | maskWr (maskWr : MbPduMaskWr)
  | wrRdReq (wrRdReq : MbPduWrRdReq)
  deriving DecidableEq, Repr

instance : Inhabited MbPdu := ⟨.except ⟨0, 0⟩⟩

def MbPdu.fc : MbPdu → UInt8
  | .except m | .rdReq m | .rdRsp m | .wrSingle m | .wrReq m | .wrRsp m | .maskWr m
  | .wrRdReq m => m.fc

def MbPdu.shape : MbPdu → Shape
  | .except _ => .except
  | .rdReq _ => .rdReq
  | .rdRsp _ => .rdRsp
  | .wrSingle _ => .wrSingle
  | .wrReq _ => .wrReq
  | .wrRsp _ => .wrRsp
  | .maskWr _ => .maskWr
  | .wrRdReq _ => .wrRdReq

/-- The `switch (fc)` of `modbus_pdu_req_make` and `modbus_pdu_req_parse`. -/
def reqShape (fc : UInt8) : Option Shape :=
  if fc = modbusFcReadCoils ∨ fc = modbusFcReadDiscreteInputs ∨
      fc = modbusFcReadHoldingRegisters ∨ fc = modbusFcReadInputRegisters then some .rdReq
  else if fc = modbusFcWriteSingleCoil ∨ fc = modbusFcWriteSingleRegister then some .wrSingle
  else if fc = modbusFcWriteMultipleCoils ∨ fc = modbusFcWriteMultipleRegisters then some .wrReq
  else if fc = modbusFcMaskWriteRegister then some .maskWr
  else if fc = modbusFcWriteAndReadRegisters then some .wrRdReq
  else none

/-- The exception test and `switch (fc)` of `mb_pdu_rsp_make` and `modbus_pdu_rsp_parse`. -/
def rspShape (fc : UInt8) : Option Shape :=
  if modbusFcExceptChk fc then some .except
  else if fc = modbusFcReadCoils ∨ fc = modbusFcReadDiscreteInputs ∨
      fc = modbusFcReadHoldingRegisters ∨ fc = modbusFcReadInputRegisters then some .rdRsp
  else if fc = modbusFcWriteSingleCoil ∨ fc = modbusFcWriteSingleRegister then some .wrSingle
  else if fc = modbusFcWriteMultipleCoils ∨ fc = modbusFcWriteMultipleRegisters then some .wrRsp
  else if fc = modbusFcMaskWriteRegister then some .maskWr
  else if fc = modbusFcWriteAndReadRegisters then some .rdRsp
  else none

def selectShape : MbPduType → UInt8 → Option Shape
  | .req => reqShape
  | .rsp => rspShape

def modbusPduExceptMake (exc : MbPduExcept) : List UInt8 :=
  modbusCvtU8Put exc.fc ++ modbusCvtU8Put exc.ec

def modbusPduRdReqMake (rdReq : MbPduRdReq) : List UInt8 :=
  modbusCvtU8Put rdReq.fc ++ modbusCvtU16Put rdReq.addr ++ modbusCvtU16Put rdReq.nb

def modbusPduRdRspMake (rdRsp : MbPduRdRsp) : List UInt8 :=
  modbusCvtU8Put rdRsp.fc ++ modbusCvtU8Put rdRsp.dlen ++ rdRsp.pdata

def modbusPduWrSingleMake (wrSingle : MbPduWrSingle) : List UInt8 :=
  modbusCvtU8Put wrSingle.fc ++ modbusCvtU16Put wrSingle.addr ++ modbusCvtU16Put wrSingle.val

def modbusPduWrReqMake (wrReq : MbPduWrReq) : List UInt8 :=
  modbusCvtU8Put wrReq.fc ++ modbusCvtU16Put wrReq.addr ++ modbusCvtU16Put wrReq.nb ++
    modbusCvtU8Put wrReq.dlen ++ wrReq.pdata

def modbusPduWrRspMake (wrRsp : MbPduWrRsp) : List UInt8 :=
  modbusCvtU8Put wrRsp.fc ++ modbusCvtU16Put wrRsp.addr ++ modbusCvtU16Put wrRsp.nb

def modbusPduMaskWrMake (maskWr : MbPduMaskWr) : List UInt8 :=
  modbusCvtU8Put maskWr.fc ++ modbusCvtU16Put maskWr.addr ++ modbusCvtU16Put maskWr.val_and ++
    modbusCvtU16Put maskWr.val_or

def modbusPduWrRdReqMake (wrRdReq : MbPduWrRdReq) : List UInt8 :=
  modbusCvtU8Put wrRdReq.fc ++ modbusCvtU16Put wrRdReq.rd_addr ++
    modbusCvtU16Put wrRdReq.rd_nb ++ modbusCvtU16Put wrRdReq.wr_addr ++
    modbusCvtU16Put wrRdReq.wr_nb ++ modbusCvtU8Put wrRdReq.dlen ++ wrRdReq.pdata

/-- The `n` bytes a zero-copy pointer to the cursor covers. A byte past the end of the
buffer reads as `0`: only a byte count the buffer cannot hold reaches there. -/
def borrow (p : List UInt8) (n : Nat) : List UInt8 := p.takeD n 0

theorem borrow_length (p : List UInt8) (n : Nat) : (borrow p n).length = n :=
  List.takeD_length _ _ _

def modbusPduExceptParse (buf : List UInt8) (len : Int) : Int × Option MbPduExcept :=
  if len < 2 then (0, none) else
  let fc := modbusCvtU8Get buf
  let ec := modbusCvtU8Get fc.2
  (1 + 1, some ⟨fc.1, ec.1⟩)

def modbusPduRdReqParse (buf : List UInt8) (len : Int) : Int × Option MbPduRdReq :=
  if len < 5 then (0, none) else
  let fc := modbusCvtU8Get buf
  let addr := modbusCvtU16Get fc.2
  let nb := modbusCvtU16Get addr.2
  (1 + 2 + 2, some ⟨fc.1, addr.1, nb.1⟩)

/-- `modbus_pdu_rd_rsp_parse`: checks `len < 3` only; the byte count is taken as read. -/
def modbusPduRdRspParse (buf : List UInt8) (len : Int) : Int × Option MbPduRdRsp :=
  if len < 3 then (0, none) else
  let fc := modbusCvtU8Get buf
  let dlen := modbusCvtU8Get fc.2
  (1 + 1 + dlen.1.toNat, some ⟨fc.1, dlen.1, borrow dlen.2 dlen.1.toNat, borrow_length _ _⟩)

def modbusPduWrSingleParse (buf : List UInt8) (len : Int) : Int × Option MbPduWrSingle :=
  if len < 5 then (0, none) else
  let fc := modbusCvtU8Get buf
  let addr := modbusCvtU16Get fc.2
  let val := modbusCvtU16Get addr.2
  (1 + 2 + 2, some ⟨fc.1, addr.1, val.1⟩)

def modbusPduWrReqParse (buf : List UInt8) (len : Int) : Int × Option MbPduWrReq :=
  if len < 7 then (0, none) else
  let fc := modbusCvtU8Get buf
  let addr := modbusCvtU16Get fc.2
  let nb := modbusCvtU16Get addr.2
  let dlen := modbusCvtU8Get nb.2
  (1 + 2 + 2 + 1 + dlen.1.toNat,
    some ⟨fc.1, addr.1, nb.1, dlen.1, borrow dlen.2 dlen.1.toNat, borrow_length _ _⟩)

def modbusPduWrRspParse (buf : List UInt8) (len : Int) : Int × Option MbPduWrRsp :=
  if len < 5 then (0, none) else
  let fc := modbusCvtU8Get buf
  let addr := modbusCvtU16Get fc.2
  let nb := modbusCvtU16Get addr.2
  (1 + 2 + 2, some ⟨fc.1, addr.1, nb.1⟩)

def modbusPduMaskWrParse (buf : List UInt8) (len : Int) : Int × Option MbPduMaskWr :=
  if len < 7 then (0, none) else
  let fc := modbusCvtU8Get buf
  let addr := modbusCvtU16Get fc.2
  let valAnd := modbusCvtU16Get addr.2
  let valOr := modbusCvtU16Get valAnd.2
  (1 + 2 + 2 + 2, some ⟨fc.1, addr.1, valAnd.1, valOr.1⟩)

def modbusPduWrRdReqParse (buf : List UInt8) (len : Int) : Int × Option MbPduWrRdReq :=
  if len < 11 then (0, none) else
  let fc := modbusCvtU8Get buf
  let rdAddr := modbusCvtU16Get fc.2
  let rdNb := modbusCvtU16Get rdAddr.2
  let wrAddr := modbusCvtU16Get rdNb.2
  let wrNb := modbusCvtU16Get wrAddr.2
  let dlen := modbusCvtU8Get wrNb.2
  (1 + 2 + 2 + 2 + 2 + 1 + dlen.1.toNat, some ⟨fc.1, rdAddr.1, rdNb.1, wrAddr.1, wrNb.1, dlen.1,
    borrow dlen.2 dlen.1.toNat, borrow_length _ _⟩)

def MbPdu.make : MbPdu → List UInt8
  | .except m => modbusPduExceptMake m
  | .rdReq m => modbusPduRdReqMake m
  | .rdRsp m => modbusPduRdRspMake m
  | .wrSingle m => modbusPduWrSingleMake m
  | .wrReq m => modbusPduWrReqMake m
  | .wrRsp m => modbusPduWrRspMake m
  | .maskWr m => modbusPduMaskWrMake m
  | .wrRdReq m => modbusPduWrRdReqMake m

def parseAs : Shape → List UInt8 → Int → Int × Option MbPdu
  | .except, buf, len => Prod.map id (Option.map .except) (modbusPduExceptParse buf len)
  | .rdReq, buf, len => Prod.map id (Option.map .rdReq) (modbusPduRdReqParse buf len)
  | .rdRsp, buf, len => Prod.map id (Option.map .rdRsp) (modbusPduRdRspParse buf len)
  | .wrSingle, buf, len => Prod.map id (Option.map .wrSingle) (modbusPduWrSingleParse buf len)
  | .wrReq, buf, len => Prod.map id (Option.map .wrReq) (modbusPduWrReqParse buf len)
  | .wrRsp, buf, len => Prod.map id (Option.map .wrRsp) (modbusPduWrRspParse buf len)
  | .maskWr, buf, len => Prod.map id (Option.map .maskWr) (modbusPduMaskWrParse buf len)
  | .wrRdReq, buf, len => Prod.map id (Option.map .wrRdReq) (modbusPduWrRdReqParse buf len)

def modbusPduReqMake (pdu : MbPdu) : List UInt8 :=
  if reqShape pdu.fc = some pdu.shape then pdu.make else []

def modbusPduReqParse (buf : List UInt8) (len : Int) : Int × Option MbPdu :=
  match reqShape (modbusCvtU8Get buf).1 with
  | some s => parseAs s buf len
  | none => (-1, none)

def mbPduRspMake (pdu : MbPdu) : List UInt8 :=
  if rspShape pdu.fc = some pdu.shape then pdu.make else []

def modbusPduRspParse (buf : List UInt8) (len : Int) : Int × Option MbPdu :=
  match rspShape (modbusCvtU8Get buf).1 with
  | some s => parseAs s buf len
  | none => (-1, none)

/-- `modbus_pdu_make`. For responses it calls `modbus_pdu_rsp_make`, which no file of the
sources defines; `mb_pdu_rsp_make`, the response maker `modbus_pdu.c` does define, is used in
its place. -/
def modbusPduMake (pdu : MbPdu) : MbPduType → List UInt8
  | .req => modbusPduReqMake pdu
  | .rsp => mbPduRspMake pdu

def modbusPduParse (buf : List UInt8) (len : Int) : MbPduType → Int × Option MbPdu
  | .req => modbusPduReqParse buf len
  | .rsp => modbusPduRspParse buf len

theorem modbusPduMake_eq (pdu : MbPdu) (type : MbPduType) :
    modbusPduMake pdu type = if selectShape type pdu.fc = some pdu.shape then pdu.make else [] := by
  cases type <;> rfl

theorem modbusPduParse_eq (buf : List UInt8) (len : Int) (type : MbPduType) :
    modbusPduParse buf len type = match selectShape type (modbusCvtU8Get buf).1 with
      | some s => parseAs s buf len
      | none => (-1, none) := by
  cases type <;> rfl

end Modbus.Pdu
