import Mathlib.Data.List.Basic

/-!
# Byte order and the coil bitmap

`modbus_byte_order_convert.c`: big-endian put and get helpers over a cursor, a buffer being
the list of bytes from the cursor on, and the packed bitmaps of coil payloads (bit `idx` is
bit `idx % 8` of byte `idx / 8`).
-/

namespace Modbus.ByteOrder

def modbusCvtU8Put (val : UInt8) : List UInt8 := [val]

/-- A byte past the end of the list reads as `0`; the C reads the memory that follows. -/
def modbusCvtU8Get (buf : List UInt8) : UInt8 × List UInt8 := (buf.headD 0, buf.drop 1)

def modbusCvtU16Put (val : UInt16) : List UInt8 := [(val >>> 8).toUInt8, val.toUInt8]

def modbusCvtU16Get (buf : List UInt8) : UInt16 × List UInt8 :=
  (((buf.getD 0 0).toUInt16 <<< 8) + (buf.getD 1 0).toUInt16, buf.drop 2)

def modbusCvtU32Put (val : UInt32) : List UInt8 :=
  [(val >>> 24).toUInt8, (val >>> 16).toUInt8, (val >>> 8).toUInt8, val.toUInt8]

def modbusCvtU32Get (buf : List UInt8) : UInt32 × List UInt8 :=
  ((((((buf.getD 0 0).toUInt32 <<< 8) + (buf.getD 1 0).toUInt32) <<< 8) +
      (buf.getD 2 0).toUInt32) <<< 8 + (buf.getD 3 0).toUInt32, buf.drop 4)

/-- `modbus_cvt_f32_put`: the `float` read through a `uint32_t *` and put as a `u32`. A `float`
is modelled by its IEEE 754 bit pattern. -/
def modbusCvtF32Put (val : UInt32) : List UInt8 := modbusCvtU32Put val

def modbusCvtF32Get (buf : List UInt8) : UInt32 × List UInt8 := modbusCvtU32Get buf

theorem u16_toNat_shiftRight_eight (v : UInt16) : (v >>> 8).toNat = v.toNat / 256 := by
  show (v.toBitVec >>> ((8 : UInt16) % 16).toBitVec).toNat = _
  simp [BitVec.toNat_ushiftRight, Nat.shiftRight_eq_div_pow]
  rfl

theorem u16_toNat_shiftLeft_eight (v : UInt16) : (v <<< 8).toNat = v.toNat * 256 % 65536 := by
  show (v.toBitVec <<< ((8 : UInt16) % 16).toBitVec).toNat = _
  simp [BitVec.toNat_shiftLeft, Nat.shiftLeft_eq]
  rfl

theorem u16_toNat_add (a b : UInt16) : (a + b).toNat = (a.toNat + b.toNat) % 65536 := by
  show (a.toBitVec + b.toBitVec).toNat = _
  simp [BitVec.toNat_add]
  rfl

theorem u16_toNat_toUInt8 (v : UInt16) : v.toUInt8.toNat = v.toNat % 256 := by
  simp [UInt16.toUInt8, Nat.toUInt8, UInt8.toNat, UInt8.ofNat]

theorem u8_toNat_toUInt16 (b : UInt8) : b.toUInt16.toNat = b.toNat := rfl

theorem u32_toNat_shiftRight (v n : UInt32) (hn : n.toNat < 32) :
    (v >>> n).toNat = v.toNat >>> n.toNat := by
  show (v.toBitVec >>> (n % 32).toBitVec).toNat = _
  have : (n % 32).toBitVec.toNat = n.toNat := by
    show (n % 32).toNat = n.toNat
    rw [UInt32.toNat_mod]
    exact Nat.mod_eq_of_lt hn
  simp [BitVec.toNat_ushiftRight, Nat.shiftRight_eq_div_pow, this]
  rfl

theorem u32_toNat_shiftLeft_eight (v : UInt32) : (v <<< 8).toNat = v.toNat * 256 % 4294967296 := by
  show (v.toBitVec <<< ((8 : UInt32) % 32).toBitVec).toNat = _
  simp [BitVec.toNat_shiftLeft, Nat.shiftLeft_eq]
  rfl

theorem u32_toNat_add (a b : UInt32) : (a + b).toNat = (a.toNat + b.toNat) % 4294967296 := by
  show (a.toBitVec + b.toBitVec).toNat = _
  simp [BitVec.toNat_add]
  rfl

theorem u32_toNat_toUInt8 (v : UInt32) : v.toUInt8.toNat = v.toNat % 256 := by
  simp [UInt32.toUInt8, Nat.toUInt8, UInt8.toNat, UInt8.ofNat]

theorem u8_toNat_toUInt32 (b : UInt8) : b.toUInt32.toNat = b.toNat := rfl

theorem u8_ext {a b : UInt8} (h : a.toNat = b.toNat) : a = b := UInt8.toNat.inj h

@[simp] theorem modbusCvtU8Get_put (v : UInt8) (l : List UInt8) :
    modbusCvtU8Get (modbusCvtU8Put v ++ l) = (v, l) := rfl

@[simp] theorem modbusCvtU16Get_put (v : UInt16) (l : List UInt8) :
    modbusCvtU16Get (modbusCvtU16Put v ++ l) = (v, l) := by
  simp only [modbusCvtU16Put, modbusCvtU16Get, List.cons_append, List.getD_cons_zero,
    List.getD_cons_succ, List.drop_succ_cons, List.drop_zero, List.nil_append, Prod.mk.injEq,
    and_true]
  apply UInt16.toNat.inj
  have := v.toNat_lt_size
  simp only [u16_toNat_add, u16_toNat_shiftLeft_eight, u8_toNat_toUInt16, u16_toNat_toUInt8,
    u16_toNat_shiftRight_eight, UInt16.size] at *
  omega

@[simp] theorem modbusCvtU32Get_put (v : UInt32) (l : List UInt8) :
    modbusCvtU32Get (modbusCvtU32Put v ++ l) = (v, l) := by
  simp only [modbusCvtU32Put, modbusCvtU32Get, List.cons_append, List.getD_cons_zero,
    List.getD_cons_succ, List.drop_succ_cons, List.drop_zero, List.nil_append, Prod.mk.injEq,
    and_true]
  apply UInt32.toNat.inj
  have := v.toNat_lt_size
  simp only [u32_toNat_add, u32_toNat_shiftLeft_eight, u8_toNat_toUInt32, u32_toNat_toUInt8,
    u32_toNat_shiftRight v 24 (by decide), u32_toNat_shiftRight v 16 (by decide),
    u32_toNat_shiftRight v 8 (by decide), UInt32.size] at *
  simp only [show (24 : UInt32).toNat = 24 from rfl, show (16 : UInt32).toNat = 16 from rfl,
    show (8 : UInt32).toNat = 8 from rfl]
  omega

@[simp] theorem modbusCvtF32Get_put (v : UInt32) (l : List UInt8) :
    modbusCvtF32Get (modbusCvtF32Put v ++ l) = (v, l) :=
  modbusCvtU32Get_put v l

/-- Every fixed-width field reads back as written, whatever follows it, and the cursor moves
past it. -/
theorem modbusCvt_get_put (l : List UInt8) :
    (∀ v, modbusCvtU8Get (modbusCvtU8Put v ++ l) = (v, l)) ∧
      (∀ v, modbusCvtU16Get (modbusCvtU16Put v ++ l) = (v, l)) ∧
      (∀ v, modbusCvtU32Get (modbusCvtU32Put v ++ l) = (v, l)) ∧
      ∀ v, modbusCvtF32Get (modbusCvtF32Put v ++ l) = (v, l) :=
  ⟨fun v => modbusCvtU8Get_put v l, fun v => modbusCvtU16Get_put v l,
    fun v => modbusCvtU32Get_put v l, fun v => modbusCvtF32Get_put v l⟩

@[simp] theorem modbusCvtU8Get_snd (l : List UInt8) : (modbusCvtU8Get l).2 = l.drop 1 := rfl

@[simp] theorem modbusCvtU16Get_snd (l : List UInt8) : (modbusCvtU16Get l).2 = l.drop 2 := rfl

theorem modbusCvtU8Put_get {l : List UInt8} (h : 1 ≤ l.length) :
    modbusCvtU8Put (modbusCvtU8Get l).1 ++ l.drop 1 = l := by
  cases l with
  | nil => simp at h
  | cons a l => rfl

theorem modbusCvtU16Put_get {l : List UInt8} (h : 2 ≤ l.length) :
    modbusCvtU16Put (modbusCvtU16Get l).1 ++ l.drop 2 = l := by
  match l, h with
  | a :: b :: l, _ =>
    simp only [modbusCvtU16Put, modbusCvtU16Get, List.getD_cons_zero, List.getD_cons_succ,
      List.drop_succ_cons, List.drop_zero, List.cons_append, List.nil_append, List.cons.injEq,
      and_true]
    have ha := a.toNat_lt_size
    have hb := b.toNat_lt_size
    constructor <;> apply u8_ext <;>
      simp only [u16_toNat_toUInt8, u16_toNat_shiftRight_eight, u16_toNat_add,
        u16_toNat_shiftLeft_eight, u8_toNat_toUInt16, UInt8.size] at * <;> omega

theorem modbusCvtU32Put_get {l : List UInt8} (h : 4 ≤ l.length) :
    modbusCvtU32Put (modbusCvtU32Get l).1 ++ l.drop 4 = l := by
  match l, h with
  | a :: b :: c :: d :: l, _ =>
    have ha := a.toNat_lt_size
    have hb := b.toNat_lt_size
    have hc := c.toNat_lt_size
    have hd := d.toNat_lt_size
    simp only [UInt8.size] at ha hb hc hd
    have hv : (modbusCvtU32Get (a :: b :: c :: d :: l)).1.toNat =
        a.toNat * 16777216 + b.toNat * 65536 + c.toNat * 256 + d.toNat := by
      simp only [modbusCvtU32Get, List.getD_cons_zero, List.getD_cons_succ, u32_toNat_add,
        u32_toNat_shiftLeft_eight, u8_toNat_toUInt32]
      omega
    simp only [modbusCvtU32Put, List.drop_succ_cons, List.drop_zero, List.cons_append,
      List.nil_append, List.cons.injEq, and_true]
    refine ⟨?_, ?_, ?_, ?_⟩ <;> apply u8_ext <;>
      simp only [u32_toNat_toUInt8, u32_toNat_shiftRight _ 24 (by decide),
        u32_toNat_shiftRight _ 16 (by decide), u32_toNat_shiftRight _ 8 (by decide), hv,
        show (24 : UInt32).toNat = 24 from rfl, show (16 : UInt32).toNat = 16 from rfl,
        show (8 : UInt32).toNat = 8 from rfl] <;> omega

theorem modbusCvtU8Put_get_drop (l : List UInt8) (k : Nat) (h : k + 1 ≤ l.length) :
    modbusCvtU8Put (modbusCvtU8Get (l.drop k)).1 ++ l.drop (k + 1) = l.drop k := by
  simpa [List.drop_drop, Nat.add_comm] using
    modbusCvtU8Put_get (l := l.drop k) (by simp; omega)

theorem modbusCvtU16Put_get_drop (l : List UInt8) (k : Nat) (h : k + 2 ≤ l.length) :
    modbusCvtU16Put (modbusCvtU16Get (l.drop k)).1 ++ l.drop (k + 2) = l.drop k := by
  simpa [List.drop_drop, Nat.add_comm] using
    modbusCvtU16Put_get (l := l.drop k) (by simp; omega)

/-- **Decode then encode.** Each put helper writes back the bytes its get helper read. -/
theorem modbusCvt_put_get (l : List UInt8) :
    (1 ≤ l.length → modbusCvtU8Put (modbusCvtU8Get l).1 ++ (modbusCvtU8Get l).2 = l) ∧
      (2 ≤ l.length → modbusCvtU16Put (modbusCvtU16Get l).1 ++ (modbusCvtU16Get l).2 = l) ∧
      (4 ≤ l.length → modbusCvtU32Put (modbusCvtU32Get l).1 ++ (modbusCvtU32Get l).2 = l) ∧
      (4 ≤ l.length → modbusCvtF32Put (modbusCvtF32Get l).1 ++ (modbusCvtF32Get l).2 = l) :=
  ⟨modbusCvtU8Put_get, modbusCvtU16Put_get, modbusCvtU32Put_get, modbusCvtU32Put_get⟩

theorem modbusCvt_put_get_float :
    4 ≤ ([0x41, 0x20, 0x00, 0x00] : List UInt8).length ∧
      modbusCvtF32Put (modbusCvtF32Get [0x41, 0x20, 0x00, 0x00]).1 ++
          (modbusCvtF32Get [0x41, 0x20, 0x00, 0x00]).2 = [0x41, 0x20, 0x00, 0x00] :=
  ⟨by decide, (modbusCvt_put_get _).2.2.2 (by decide)⟩

/-- The mask `1 << (idx % 8)`, computed in `int` in the C; below `8` bits its value and its
complement agree with the byte operations used here. -/
def bitMask (idx : Nat) : UInt8 := UInt8.ofNat (1 <<< (idx % 8))

def modbusBitmapGet (pbits : List UInt8) (idx : Nat) : UInt8 :=
  if pbits.getD (idx / 8) 0 &&& bitMask idx ≠ 0 then 1 else 0

/-- `modbus_bitmap_set`: `|=` the mask for a nonzero bit, `&= ~mask` for zero. -/
def modbusBitmapSet (pbits : List UInt8) (idx : Nat) (bit : UInt8) : List UInt8 :=
  if bit ≠ 0 then pbits.set (idx / 8) (pbits.getD (idx / 8) 0 ||| bitMask idx)
  else pbits.set (idx / 8) (pbits.getD (idx / 8) 0 &&& ~~~bitMask idx)

def bitOf (b : UInt8) (k : Nat) : Bool := b.toBitVec.getLsbD k

theorem bitMask_bit (idx k : Nat) : bitOf (bitMask idx) k = decide (k = idx % 8) := by
  simp only [bitOf, bitMask, UInt8.ofNat, BitVec.getLsbD_ofNat, Nat.shiftLeft_eq, Nat.one_mul,
    Nat.testBit_two_pow]
  have := Nat.mod_lt idx (show 8 > 0 by omega)
  by_cases h : k = idx % 8
  · subst h; simp [this]
  · simp only [show ¬ idx % 8 = k from fun e => h e.symm, decide_False, Bool.and_false, h]

@[simp] theorem bitOf_zero (k : Nat) : bitOf 0 k = false := BitVec.getLsbD_zero

theorem bitOf_or (a b : UInt8) (k : Nat) : bitOf (a ||| b) k = (bitOf a k || bitOf b k) :=
  BitVec.getLsbD_or

theorem bitOf_and (a b : UInt8) (k : Nat) : bitOf (a &&& b) k = (bitOf a k && bitOf b k) :=
  BitVec.getLsbD_and

theorem bitOf_not (a : UInt8) {k : Nat} (hk : k < 8) : bitOf (~~~a) k = !bitOf a k := by
  simp [bitOf, show (~~~a).toBitVec = ~~~a.toBitVec from rfl, hk]

theorem and_bitMask_eq_zero (b : UInt8) (idx : Nat) :
    b &&& bitMask idx = 0 ↔ bitOf b (idx % 8) = false := by
  constructor
  · intro h
    simpa [bitOf_and, bitMask_bit] using congrArg (bitOf · (idx % 8)) h
  · intro h
    apply UInt8.eq_of_toBitVec_eq
    apply BitVec.eq_of_getLsbD_eq
    intro i
    show bitOf (b &&& bitMask idx) i = (0#8).getLsbD i
    by_cases hi : (i : Nat) = idx % 8 <;> simp [bitOf_and, bitMask_bit, hi, h]

def bitAt (pbits : List UInt8) (j : Nat) : Bool := bitOf (pbits.getD (j / 8) 0) (j % 8)

theorem modbusBitmapGet_eq (pbits : List UInt8) (idx : Nat) :
    modbusBitmapGet pbits idx = if bitAt pbits idx then 1 else 0 := by
  unfold modbusBitmapGet bitAt
  cases h : bitOf (pbits.getD (idx / 8) 0) (idx % 8) <;>
    simp only [ne_eq, and_bitMask_eq_zero, h, not_true, not_false_eq_true, if_true, if_false,
      Bool.false_eq_true, Bool.true_eq_false]

def setByte (b : UInt8) (idx : Nat) (bit : UInt8) : UInt8 :=
  if bit ≠ 0 then b ||| bitMask idx else b &&& ~~~bitMask idx

theorem setByte_bit (b : UInt8) (idx : Nat) (bit : UInt8) {k : Nat} (hk : k < 8) :
    bitOf (setByte b idx bit) k = if k = idx % 8 then decide (bit ≠ 0) else bitOf b k := by
  unfold setByte
  by_cases hb : bit ≠ 0
  · rw [if_pos hb, bitOf_or, bitMask_bit]
    by_cases hi : k = idx % 8 <;> simp [hi, hb]
  · rw [if_neg hb, bitOf_and, bitOf_not _ hk, bitMask_bit]
    by_cases hi : k = idx % 8 <;> simp [hi, hb]

theorem modbusBitmapSet_eq (pbits : List UInt8) (idx : Nat) (bit : UInt8) :
    modbusBitmapSet pbits idx bit = pbits.set (idx / 8) (setByte (pbits.getD (idx / 8) 0) idx bit) := by
  unfold modbusBitmapSet setByte
  split <;> rfl

theorem getD_set_of_lt {l : List UInt8} {i : Nat} (hi : i < l.length) (a : UInt8) (k : Nat) :
    (l.set i a).getD k 0 = if k = i then a else l.getD k 0 := by
  by_cases hk : k = i
  · subst hk; simp [hi]
  · simp [hk, List.getElem?_set_ne (Ne.symm hk)]

theorem bitAt_modbusBitmapSet {pbits : List UInt8} {i : Nat} (hi : i / 8 < pbits.length)
    (bit : UInt8) (j : Nat) :
    bitAt (modbusBitmapSet pbits i bit) j = if j = i then decide (bit ≠ 0) else bitAt pbits j := by
  have hj8 : j % 8 < 8 := Nat.mod_lt j (by omega)
  rw [bitAt, modbusBitmapSet_eq, getD_set_of_lt hi]
  by_cases hb : j / 8 = i / 8
  · rw [if_pos hb, setByte_bit _ _ _ hj8, bitAt, hb]
    by_cases hji : j = i
    · simp [hji]
    · have : j % 8 ≠ i % 8 := fun h => hji (by omega)
      simp [hji, this]
  · have : j ≠ i := fun h => hb (h ▸ rfl)
    simp [hb, this, bitAt]

/-- The bitmap laws: after `modbus_bitmap_set(pbits, i, b)` bit `i` reads back as `b != 0`,
every other bit reads as before, and no byte but `pbits[i / 8]` changes. -/
theorem modbusBitmapSet_laws (pbits : List UInt8) (i : Nat) (hi : i / 8 < pbits.length)
    (b : UInt8) :
    modbusBitmapGet (modbusBitmapSet pbits i b) i = (if b ≠ 0 then 1 else 0) ∧
    (∀ j, j ≠ i → modbusBitmapGet (modbusBitmapSet pbits i b) j = modbusBitmapGet pbits j) ∧
    (modbusBitmapSet pbits i b).length = pbits.length ∧
    ∀ k, k ≠ i / 8 → (modbusBitmapSet pbits i b).getD k 0 = pbits.getD k 0 := by
  refine ⟨?_, fun j hj => ?_, by simp [modbusBitmapSet_eq], fun k hk => ?_⟩
  · by_cases hb : b ≠ 0 <;> simp [modbusBitmapGet_eq, bitAt_modbusBitmapSet hi, hb]
  · simp [modbusBitmapGet_eq, bitAt_modbusBitmapSet hi, hj]
  · rw [modbusBitmapSet_eq, getD_set_of_lt hi, if_neg hk]

theorem modbusBitmapSet_first_coil :
    0 / 8 < [0x5A].length ∧
      modbusBitmapGet (modbusBitmapSet [0x5A] 0 1) 0 = 1 ∧
      modbusBitmapGet (modbusBitmapSet [0x5A] 0 1) 1 = modbusBitmapGet [0x5A] 1 :=
  ⟨by decide, by simpa using (modbusBitmapSet_laws [0x5A] 0 (by decide) 1).1,
    (modbusBitmapSet_laws [0x5A] 0 (by decide) 1).2.1 1 (by decide)⟩

theorem modbusBitmapSet_length (pbits : List UInt8) (i : Nat) (b : UInt8) :
    (modbusBitmapSet pbits i b).length = pbits.length := by
  simp [modbusBitmapSet_eq]

theorem bitmap_ext {p q : List UInt8} (hlen : p.length = q.length)
    (h : ∀ j, bitAt p j = bitAt q j) : p = q := by
  apply List.ext_getElem hlen
  intro k hk hk'
  apply UInt8.eq_of_toBitVec_eq
  apply BitVec.eq_of_getLsbD_eq
  intro m
  have hm := m.isLt
  have := h (8 * k + m)
  simp only [bitAt, show (8 * k + m) / 8 = k by omega, show (8 * k + m) % 8 = m by omega] at this
  simpa [bitOf, List.getD_eq_getElem?_getD, hk, hk'] using this

/-- **The bitmap is an array of bits.** Writes to different indices commute, a second write
overwrites the first, and writing back what `modbus_bitmap_get` reads changes nothing. -/
theorem modbusBitmapSet_algebra (pbits : List UInt8) (i j : Nat) (hi : i / 8 < pbits.length)
    (hj : j / 8 < pbits.length) (b c : UInt8) :
    (i ≠ j → modbusBitmapSet (modbusBitmapSet pbits i b) j c =
      modbusBitmapSet (modbusBitmapSet pbits j c) i b) ∧
    modbusBitmapSet (modbusBitmapSet pbits i b) i c = modbusBitmapSet pbits i c ∧
    modbusBitmapSet pbits i (modbusBitmapGet pbits i) = pbits := by
  have inside :
      ∀ {k}, k / 8 < pbits.length → ∀ l x, k / 8 < (modbusBitmapSet pbits l x).length :=
    fun hk l x => by rwa [modbusBitmapSet_length]
  refine ⟨fun hij => bitmap_ext (by simp only [modbusBitmapSet_length]) fun k => ?_,
    bitmap_ext (by simp only [modbusBitmapSet_length]) fun k => ?_,
    bitmap_ext (modbusBitmapSet_length _ _ _) fun k => ?_⟩
  · rw [bitAt_modbusBitmapSet (inside hj i b), bitAt_modbusBitmapSet hi,
      bitAt_modbusBitmapSet (inside hi j c), bitAt_modbusBitmapSet hj]
    by_cases hk : k = j <;> by_cases hk' : k = i <;> simp_all
  · rw [bitAt_modbusBitmapSet (inside hi i b), bitAt_modbusBitmapSet hi, bitAt_modbusBitmapSet hi]
    by_cases hk : k = i <;> simp [hk]
  · rw [bitAt_modbusBitmapSet hi, modbusBitmapGet_eq]
    by_cases hk : k = i
    · subst hk; cases bitAt pbits k <;> simp
    · simp [hk]

theorem modbusBitmapSet_two_coils :
    0 / 8 < ([0x5A] : List UInt8).length ∧ 3 / 8 < ([0x5A] : List UInt8).length ∧
      modbusBitmapSet (modbusBitmapSet [0x5A] 0 1) 3 0 =
        modbusBitmapSet (modbusBitmapSet [0x5A] 3 0) 0 1 :=
  ⟨by decide, by decide,
    (modbusBitmapSet_algebra [0x5A] 0 3 (by decide) (by decide) 1 0).1 (by decide)⟩

end Modbus.ByteOrder
