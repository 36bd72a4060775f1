import Modbus.ByteOrder

/-!
# CRC-16 of RTU frames

`modbus_crc_cal` is called by `modbus_rtu.c` but its body is not among the sources; it is
modelled from the spec (§4.2). The register is linear in XOR and its bit steps are injective,
which gives the residue law, the uniqueness of the two check bytes and the detection of every
single-byte error.
-/

namespace Modbus.Crc

def crcStep (crc : UInt16) : UInt16 :=
  if crc &&& 1 = 1 then (crc >>> 1) ^^^ 0xA001 else crc >>> 1

def crcShifts : Nat → UInt16 → UInt16
  | 0, crc => crc
  | n + 1, crc => crcShifts n (crcStep crc)

def crcByte (crc : UInt16) (b : UInt8) : UInt16 := crcShifts 8 (crc ^^^ b.toUInt16)

/-- Modelled from the spec: `modbus_crc_cal(buf, len)`, the CRC-16 of the `len` bytes at
`buf` (the caller passes them as the list). -/
def modbusCrcCal (buf : List UInt8) : UInt16 := buf.foldl crcByte 0xFFFF

/-- The two bytes `modbus_rtu_frame_make` appends: `*p++ = crc; *p++ = (crc >> 8);`. -/
def crcBytes (crc : UInt16) : List UInt8 := [crc.toUInt8, (crc >>> 8).toUInt8]

set_option maxRecDepth 4000 in
example : modbusCrcCal [0x11, 0x03, 0x00, 0x6B, 0x00, 0x03] = 0x8776 := by decide

theorem toBitVec_shiftRight_one (x : UInt16) : (x >>> 1).toBitVec = x.toBitVec >>> 1 := rfl

theorem toBitVec_shiftRight_eight (x : UInt16) : (x >>> 8).toBitVec = x.toBitVec >>> 8 := rfl

theorem toBitVec_toUInt16 (b : UInt8) : b.toUInt16.toBitVec = b.toBitVec.setWidth 16 := by
  apply BitVec.eq_of_toNat_eq
  have := b.toBitVec.isLt
  simp [UInt8.toUInt16, UInt8.toNat]
  omega

theorem toBitVec_toUInt8 (c : UInt16) : c.toUInt8.toBitVec = c.toBitVec.setWidth 8 := by
  apply BitVec.eq_of_toNat_eq
  simp [UInt16.toUInt8, Nat.toUInt8, UInt8.ofNat]
  rfl

theorem and_one_eq_one_iff (x : UInt16) : x &&& 1 = 1 ↔ x.toBitVec.getLsbD 0 = true := by
  have hand : ∀ i, (x &&& 1).toBitVec.getLsbD i = (x.toBitVec.getLsbD i && decide (i = 0)) := by
    intro i
    show (x.toBitVec &&& 1#16).getLsbD i = _
    simp [BitVec.getLsbD_one]
  constructor
  · intro h
    simpa [hand] using congrArg (fun y : UInt16 => y.toBitVec.getLsbD 0) h
  · intro h
    apply UInt16.eq_of_toBitVec_eq
    apply BitVec.eq_of_getLsbD_eq
    intro i
    rw [hand]
    show _ = (1#16).getLsbD i
    by_cases h0 : (i : Nat) = 0 <;> simp [h0, h, BitVec.getLsbD_one]

theorem crcStep_of_low_clear {x : UInt16} (h : x.toBitVec.getLsbD 0 = false) :
    crcStep x = x >>> 1 := by
  simp [crcStep, and_one_eq_one_iff, h]

theorem crcShifts_of_low_clear (k : Nat) (x : UInt16)
    (hx : ∀ i, i < k → x.toBitVec.getLsbD i = false) :
    (crcShifts k x).toBitVec = x.toBitVec >>> k := by
  induction k generalizing x with
  | zero => simp [crcShifts]
  | succ k ih =>
    rw [crcShifts, crcStep_of_low_clear (hx 0 (by omega)), ih]
    · rw [toBitVec_shiftRight_one, ← BitVec.shiftRight_add, Nat.add_comm]
    · intro i hi
      simpa [toBitVec_shiftRight_one, Nat.add_comm] using hx (i + 1) (by omega)

theorem crcByte_low (c : UInt16) : crcByte c c.toUInt8 = c >>> 8 := by
  apply UInt16.eq_of_toBitVec_eq
  rw [crcByte, crcShifts_of_low_clear 8, toBitVec_shiftRight_eight]
  · apply BitVec.eq_of_getLsbD_eq
    intro i
    simp [show (c ^^^ c.toUInt8.toUInt16).toBitVec = c.toBitVec ^^^ c.toUInt8.toUInt16.toBitVec
      from rfl, toBitVec_toUInt16, toBitVec_toUInt8]
  · intro i hi
    simp [show (c ^^^ c.toUInt8.toUInt16).toBitVec = c.toBitVec ^^^ c.toUInt8.toUInt16.toBitVec
      from rfl, toBitVec_toUInt16, toBitVec_toUInt8, hi]
    omega

theorem shiftRight_eight_twice (c : UInt16) : c >>> 8 >>> 8 = 0 := by
  apply UInt16.eq_of_toBitVec_eq
  rw [toBitVec_shiftRight_eight, toBitVec_shiftRight_eight, ← BitVec.shiftRight_add]
  apply BitVec.eq_of_getLsbD_eq
  intro i
  show _ = (0#16).getLsbD i
  simp only [BitVec.getLsbD_ushiftRight, BitVec.getLsbD_zero]
  exact BitVec.getLsbD_ge _ _ (by omega)

theorem crcBytes_residue (c : UInt16) : (crcBytes c).foldl crcByte c = 0 := by
  simp only [crcBytes, List.foldl_cons, List.foldl_nil, crcByte_low, shiftRight_eight_twice]

/-- **Residue law.** For every byte string `b`, the CRC over `b` followed by `CRC(b)` low
byte first is `0`. -/
theorem modbusCrcCal_append_crc (buf : List UInt8) :
    modbusCrcCal (buf ++ crcBytes (modbusCrcCal buf)) = 0 := by
  rw [modbusCrcCal, List.foldl_append]
  exact crcBytes_residue _

theorem toBitVec_xor (x y : UInt16) : (x ^^^ y).toBitVec = x.toBitVec ^^^ y.toBitVec := rfl

theorem crcStep_getLsbD (x : UInt16) (i : Nat) :
    (crcStep x).toBitVec.getLsbD i =
      ((x.toBitVec >>> 1).getLsbD i ^^ (x.toBitVec.getLsbD 0 && (0xA001#16).getLsbD i)) := by
  by_cases h : x.toBitVec.getLsbD 0
  · simp only [crcStep, (and_one_eq_one_iff x).2 h, if_true, h, Bool.true_and]
    exact BitVec.getLsbD_xor
  · simp [crcStep_of_low_clear (Bool.of_not_eq_true h), h, toBitVec_shiftRight_one]

theorem crcStep_xor (x y : UInt16) : crcStep (x ^^^ y) = crcStep x ^^^ crcStep y := by
  apply UInt16.eq_of_toBitVec_eq
  apply BitVec.eq_of_getLsbD_eq
  intro i
  simp only [toBitVec_xor, BitVec.getLsbD_xor, crcStep_getLsbD, BitVec.getLsbD_ushiftRight]
  cases x.toBitVec.getLsbD (1 + i) <;> cases y.toBitVec.getLsbD (1 + i) <;>
    cases x.toBitVec.getLsbD 0 <;> cases y.toBitVec.getLsbD 0 <;> simp

theorem crcShifts_xor (n : Nat) (x y : UInt16) :
    crcShifts n (x ^^^ y) = crcShifts n x ^^^ crcShifts n y := by
  induction n generalizing x y with
  | zero => rfl
  | succ n ih => simp only [crcShifts, crcStep_xor, ih]

theorem crcStep_top (x : UInt16) : (crcStep x).toBitVec.getLsbD 15 = x.toBitVec.getLsbD 0 := by
  rw [crcStep_getLsbD, BitVec.getLsbD_ushiftRight, BitVec.getLsbD_ge _ _ (by omega)]
  cases x.toBitVec.getLsbD 0 <;> rfl

theorem crcShifts_high_clear (k : Nat) (hk : k ≤ 8) (x : UInt16)
    (h : ∀ i, 16 - k ≤ i → (crcShifts k x).toBitVec.getLsbD i = false) :
    ∀ i, i < k → x.toBitVec.getLsbD i = false := by
  induction k generalizing x with
  | zero => intro i hi; omega
  | succ k ih =>
    have hlow := ih (by omega) (crcStep x) fun i hi => h i (by omega)
    have h0 : x.toBitVec.getLsbD 0 = false := by
      have := h (15 - k) (by omega)
      rwa [crcShifts, crcShifts_of_low_clear k _ hlow, BitVec.getLsbD_ushiftRight,
        show k + (15 - k) = 15 by omega, crcStep_top] at this
    intro i hi
    cases i with
    | zero => exact h0
    | succ i =>
      have := hlow i (by omega)
      rwa [crcStep_of_low_clear h0, toBitVec_shiftRight_one, BitVec.getLsbD_ushiftRight,
        Nat.add_comm] at this

def crcTable (d : UInt8) : UInt16 := crcShifts 8 d.toUInt16

theorem crcTable_zero : crcTable 0 = 0 := by decide

theorem crcTable_high_clear {d : UInt8} (h : crcTable d >>> 8 = 0) : d = 0 := by
  have hhigh : ∀ i, 16 - 8 ≤ i → (crcTable d).toBitVec.getLsbD i = false := by
    intro i hi
    have := congrArg (fun y : UInt16 => y.toBitVec.getLsbD (i - 8)) h
    simp only [toBitVec_shiftRight_eight, BitVec.getLsbD_ushiftRight,
      show 8 + (i - 8) = i by omega] at this
    exact this.trans (BitVec.getLsbD_zero)
  have hlow := crcShifts_high_clear 8 le_rfl _ hhigh
  apply UInt8.eq_of_toBitVec_eq
  apply BitVec.eq_of_getLsbD_eq
  intro i
  have := hlow i i.isLt
  rw [toBitVec_toUInt16, BitVec.getLsbD_setWidth] at this
  simpa [show (i : Nat) < 16 by omega] using this

theorem toUInt16_xor (u v : UInt8) : (u ^^^ v).toUInt16 = u.toUInt16 ^^^ v.toUInt16 := by
  apply UInt16.eq_of_toBitVec_eq
  apply BitVec.eq_of_getLsbD_eq
  intro i
  simp only [toBitVec_xor, toBitVec_toUInt16, BitVec.getLsbD_setWidth, BitVec.getLsbD_xor,
    show (u ^^^ v).toBitVec = u.toBitVec ^^^ v.toBitVec from rfl]
  simp [i.isLt]

theorem eq_of_xor_eq_zero {x y : UInt16} (h : x ^^^ y = 0) : x = y := by
  apply UInt16.eq_of_toBitVec_eq
  have h' : x.toBitVec ^^^ y.toBitVec = 0#16 := congrArg UInt16.toBitVec h
  calc x.toBitVec = x.toBitVec ^^^ y.toBitVec ^^^ y.toBitVec := by
        rw [BitVec.xor_assoc, BitVec.xor_self, BitVec.xor_zero]
    _ = y.toBitVec := by rw [h', BitVec.zero_xor]

theorem u8_eq_of_xor_eq_zero {x y : UInt8} (h : x ^^^ y = 0) : x = y := by
  apply UInt8.eq_of_toBitVec_eq
  have h' : x.toBitVec ^^^ y.toBitVec = 0#8 := congrArg UInt8.toBitVec h
  calc x.toBitVec = x.toBitVec ^^^ y.toBitVec ^^^ y.toBitVec := by
        rw [BitVec.xor_assoc, BitVec.xor_self, BitVec.xor_zero]
    _ = y.toBitVec := by rw [h', BitVec.zero_xor]

theorem crcByte_split (c : UInt16) (a : UInt8) :
    crcByte c a = crcTable (c.toUInt8 ^^^ a) ^^^ (c >>> 8) := by
  have e : c ^^^ a.toUInt16 = (c.toUInt8 ^^^ a).toUInt16 ^^^ (c ^^^ c.toUInt8.toUInt16) := by
    rw [toUInt16_xor]
    apply UInt16.eq_of_toBitVec_eq
    apply BitVec.eq_of_getLsbD_eq
    intro i
    simp only [toBitVec_xor, BitVec.getLsbD_xor]
    cases c.toBitVec.getLsbD i <;> cases a.toUInt16.toBitVec.getLsbD i <;>
      cases c.toUInt8.toUInt16.toBitVec.getLsbD i <;> rfl
  rw [← crcByte_low c, crcByte, e, crcShifts_xor]
  rfl

theorem crcByte_shiftRight_eight (c : UInt16) (a : UInt8) :
    crcByte c a >>> 8 = crcTable (c.toUInt8 ^^^ a) >>> 8 := by
  rw [crcByte_split]
  apply UInt16.eq_of_toBitVec_eq
  have h := congrArg UInt16.toBitVec (shiftRight_eight_twice c)
  rw [toBitVec_shiftRight_eight, toBitVec_shiftRight_eight] at h
  rw [toBitVec_shiftRight_eight, toBitVec_shiftRight_eight, toBitVec_xor,
    BitVec.ushiftRight_xor_distrib, toBitVec_shiftRight_eight, h]
  exact BitVec.xor_zero

theorem crcByte_crcByte_eq_zero (c : UInt16) (a b : UInt8) :
    crcByte (crcByte c a) b = 0 ↔ a = c.toUInt8 ∧ b = (c >>> 8).toUInt8 := by
  constructor
  · intro h
    rw [crcByte_split] at h
    have e1 := eq_of_xor_eq_zero h
    have hb : (crcByte c a).toUInt8 ^^^ b = 0 :=
      crcTable_high_clear (by rw [e1, shiftRight_eight_twice])
    rw [hb, crcTable_zero, crcByte_shiftRight_eight] at e1
    obtain rfl := (u8_eq_of_xor_eq_zero (crcTable_high_clear e1.symm)).symm
    rw [crcByte_low] at hb
    exact ⟨rfl, (u8_eq_of_xor_eq_zero hb).symm⟩
  · rintro ⟨rfl, rfl⟩
    rw [crcByte_low, crcByte_low, shiftRight_eight_twice]

/-- **Check bytes are unique.** A byte string followed by two bytes has CRC-16 residue `0`
exactly when the two bytes are the string's CRC, low byte first. -/
theorem modbusCrcCal_append_eq_zero (buf : List UInt8) (a b : UInt8) :
    modbusCrcCal (buf ++ [a, b]) = 0 ↔ [a, b] = crcBytes (modbusCrcCal buf) := by
  rw [modbusCrcCal, List.foldl_append, List.foldl_cons, List.foldl_cons, List.foldl_nil,
    crcByte_crcByte_eq_zero, crcBytes]
  simp [modbusCrcCal]

theorem xor_self_u16 (x : UInt16) : x ^^^ x = 0 :=
  UInt16.eq_of_toBitVec_eq (by rw [toBitVec_xor, BitVec.xor_self]; rfl)

theorem crcStep_eq_zero {z : UInt16} (h : crcStep z = 0) : z = 0 := by
  have h0 : z.toBitVec.getLsbD 0 = false := by
    rw [← crcStep_top, h]; rfl
  rw [crcStep_of_low_clear h0] at h
  apply UInt16.eq_of_toBitVec_eq
  apply BitVec.eq_of_getLsbD_eq
  intro i
  have hi := congrArg (fun y : UInt16 => y.toBitVec.getLsbD (i - 1)) h
  simp only [toBitVec_shiftRight_one, BitVec.getLsbD_ushiftRight] at hi
  show _ = (0#16).getLsbD i
  rw [BitVec.getLsbD_zero]
  rcases Nat.eq_zero_or_pos (i : Nat) with h' | h'
  · rw [h']; exact h0
  · rw [show 1 + ((i : Nat) - 1) = i by omega] at hi
    exact hi.trans BitVec.getLsbD_zero

theorem crcShifts_eq_zero (n : Nat) {z : UInt16} (h : crcShifts n z = 0) : z = 0 := by
  induction n generalizing z with
  | zero => exact h
  | succ n ih => exact crcStep_eq_zero (ih h)

theorem crcShifts_inj (n : Nat) {x y : UInt16} (h : crcShifts n x = crcShifts n y) : x = y :=
  eq_of_xor_eq_zero (crcShifts_eq_zero n (by rw [crcShifts_xor, h, xor_self_u16]))

theorem xor_right_cancel {x y d : UInt16} (h : x ^^^ d = y ^^^ d) : x = y := by
  apply UInt16.eq_of_toBitVec_eq
  have h' : x.toBitVec ^^^ d.toBitVec = y.toBitVec ^^^ d.toBitVec := congrArg UInt16.toBitVec h
  calc x.toBitVec = x.toBitVec ^^^ d.toBitVec ^^^ d.toBitVec := by
        rw [BitVec.xor_assoc, BitVec.xor_self, BitVec.xor_zero]
    _ = y.toBitVec := by rw [h', BitVec.xor_assoc, BitVec.xor_self, BitVec.xor_zero]

theorem xor_left_cancel {x y d : UInt16} (h : d ^^^ x = d ^^^ y) : x = y := by
  apply UInt16.eq_of_toBitVec_eq
  have h' : d.toBitVec ^^^ x.toBitVec = d.toBitVec ^^^ y.toBitVec := congrArg UInt16.toBitVec h
  calc x.toBitVec = d.toBitVec ^^^ (d.toBitVec ^^^ x.toBitVec) := by
        rw [← BitVec.xor_assoc, BitVec.xor_self, BitVec.zero_xor]
    _ = y.toBitVec := by rw [h', ← BitVec.xor_assoc, BitVec.xor_self, BitVec.zero_xor]

theorem crcByte_inj_left {c c' : UInt16} {d : UInt8} (h : crcByte c d = crcByte c' d) :
    c = c' :=
  xor_right_cancel (crcShifts_inj 8 h)

theorem crcByte_inj_right {c : UInt16} {x y : UInt8} (h : crcByte c x = crcByte c y) :
    x = y := by
  have := congrArg UInt16.toNat (xor_left_cancel (crcShifts_inj 8 h))
  exact UInt8.toNat.inj (by simpa [UInt8.toUInt16] using this)

theorem foldl_crcByte_inj (l : List UInt8) {c c' : UInt16}
    (h : l.foldl crcByte c = l.foldl crcByte c') : c = c' := by
  induction l generalizing c c' with
  | nil => exact h
  | cons d l ih => exact crcByte_inj_left (ih h)

/-- **Every single-byte error changes the CRC.** -/
theorem modbusCrcCal_set_ne (l : List UInt8) {k : Nat} (hk : k < l.length) {v : UInt8}
    (hv : v ≠ l.getD k 0) : modbusCrcCal (l.set k v) ≠ modbusCrcCal l := by
  intro h
  obtain ⟨x, suf, hdrop⟩ : ∃ x suf, l.drop k = x :: suf := by
    match hd : l.drop k with
    | x :: suf => exact ⟨x, suf, rfl⟩
    | [] => have := congrArg List.length hd; simp at this; omega
  have hl : l = l.take k ++ x :: suf := by rw [← hdrop, List.take_append_drop]
  have hset : l.set k v = l.take k ++ v :: suf := by
    rw [List.set_eq_take_append_cons_drop, if_pos hk, ← List.tail_drop, hdrop]; rfl
  rw [modbusCrcCal, modbusCrcCal, hset, List.foldl_append, List.foldl_cons] at h
  conv at h => rhs; rw [hl, List.foldl_append, List.foldl_cons]
  have hx : x = l.getD k 0 := by
    rw [List.getD_eq_getElem?_getD, ← List.head?_drop, hdrop]; rfl
  exact hv (hx ▸ crcByte_inj_right (foldl_crcByte_inj suf h))

end Modbus.Crc
