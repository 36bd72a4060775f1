import Modbus.Backend

/-!
# The dual-timeout framing read

`modbus_backend_read` polls the port's non-blocking `read` until the buffer is full, the port
fails, or an empty poll finds the line idle for longer than the active timeout. The port and
the clock are the loop's environment, and a run is the list of its polls.
-/

namespace Modbus.Backend

/-- The port's `read` over one call of `modbus_backend_read`: its answer to its `i`-th call
with room for `cap` bytes, `none` for `-1`, never more bytes than the room. -/
structure PortRead where
  answer : Nat → Nat → Option (List UInt8)
  answer_le : ∀ i cap c, answer i cap = some c → c.length ≤ cap

/-- `(int)x` for a `long long` `x`: its low 32 bits in two's complement. -/
def toInt32 (x : Int) : Int := Int.bmod x 4294967296

inductive Poll
  | fail
  | data (chunk : List UInt8)
  | idle (tmo_ms : Int)
  deriving DecidableEq, Repr

def Poll.chunk : Poll → List UInt8
  | .data c => c
  | _ => []

structure ReadRun where
  buf : List UInt8
  told_ms : Int
  polls : List Poll
  ticks : Nat
  deriving DecidableEq, Repr

inductive PassEnd
  | error (s : ReadRun)
  | stop (s : ReadRun)
  | next (s : ReadRun)

/-- One pass of `while (pos < bufsize) { ... }`, for `pos = s.buf.length`. -/
def readPass (port : PortRead) (clock : Nat → Int) (b : MbBackend) (bufsize : Nat)
    (s : ReadRun) : PassEnd :=
  match port.answer s.polls.length (bufsize - s.buf.length) with
  | none => .error { s with polls := s.polls ++ [.fail] }
  | some chunk =>
    if 0 < chunk.length then
      .next ⟨s.buf ++ chunk, clock s.ticks, s.polls ++ [.data chunk], s.ticks + 1⟩
    else
      let tmo_ms := toInt32 (clock s.ticks - s.told_ms)
      let s := { s with polls := s.polls ++ [.idle tmo_ms], ticks := s.ticks + 1 }
      if s.buf.length ≠ 0 then
        if tmo_ms > b.byte_tmo_ms then .stop s else .next s
      else if tmo_ms > b.ack_tmo_ms then .stop s else .next s

def readLoop (port : PortRead) (clock : Nat → Int) (b : MbBackend) (bufsize : Nat) :
    Nat → ReadRun → ReadRun × Option Int
  | 0, s => (s, none)
  | fuel + 1, s =>
    if s.buf.length < bufsize then
      match readPass port clock b bufsize s with
      | .error s => (s, some (-1))
      | .stop s => (s, some s.buf.length)
      | .next s => readLoop port clock b bufsize fuel s
    else (s, some s.buf.length)

def ReadRun.start (clock : Nat → Int) : ReadRun := ⟨[], clock 0, [], 1⟩

def modbusBackendRead (b : MbBackend) (bufsize : Int) (port : PortRead) (clock : Nat → Int)
    (fuel : Nat) : ReadRun × Option Int :=
  if bufsize ≤ 0 then (⟨[], 0, [], 0⟩, some (-1))
  else withHandle b b.ops.hasRead (⟨[], 0, [], 0⟩, some (-1)) fun _ =>
    readLoop port clock b bufsize.toNat fuel (ReadRun.start clock)

section Pass

variable {port : PortRead} {clock : Nat → Int} {b : MbBackend} {bufsize : Nat} {s s' : ReadRun}

/-- The loop invariant: the buffer is the delivered chunks in order and fits, no poll failed,
poll `i` read clock `i + 1`, and `told_ms` is the reading at the last delivery or the first. -/
structure ReadRun.Sound (clock : Nat → Int) (bufsize : Nat) (s : ReadRun) : Prop where
  buf_eq : s.buf = (s.polls.map Poll.chunk).flatten
  buf_le : s.buf.length ≤ bufsize
  no_fail : Poll.fail ∉ s.polls
  ticks_eq : s.ticks = s.polls.length + 1
  since : ∃ pre idles, s.polls = pre ++ idles ∧ (∀ p ∈ idles, ∃ u, p = .idle u) ∧
    (∀ p ∈ pre.getLast?, ∃ c, p = .data c) ∧ s.told_ms = clock pre.length

theorem ReadRun.Sound.idle (hs : s.Sound clock bufsize) (t : Int) :
    ({ s with polls := s.polls ++ [.idle t], ticks := s.ticks + 1 } : ReadRun).Sound
      clock bufsize := by
  obtain ⟨hbuf, hle, hfail, hticks, pre, idles, hpolls, hidle, hpre, htold⟩ := hs
  refine ⟨by simpa [Poll.chunk] using hbuf, hle, by simpa using hfail, by simp [hticks],
    pre, idles ++ [.idle t], by simp [hpolls], ?_, hpre, htold⟩
  intro p hp
  rcases List.mem_append.1 hp with hp | hp
  · exact hidle p hp
  · exact ⟨t, List.mem_singleton.1 hp⟩

theorem ReadRun.Sound.data (hs : s.Sound clock bufsize) (c : List UInt8)
    (hc : c.length ≤ bufsize - s.buf.length) :
    (⟨s.buf ++ c, clock s.ticks, s.polls ++ [.data c], s.ticks + 1⟩ : ReadRun).Sound
      clock bufsize := by
  obtain ⟨hbuf, hle, hfail, hticks, -⟩ := hs
  refine ⟨by simp [hbuf, Poll.chunk], by simp; omega, by simpa using hfail, by simp [hticks],
    s.polls ++ [.data c], [], by simp, by simp, by simp, by simp [hticks]⟩

end Pass

section Ends

variable {port : PortRead} {clock : Nat → Int} {b : MbBackend} {bufsize : Nat} {K : Int}

end Ends

section Stream

variable {port : PortRead} {clock : Nat → Int} {b : MbBackend} {bufsize : Nat}

theorem readPass_streaming
    (hport : ∀ i cap, 0 < cap → ∃ c, port.answer i cap = some c ∧ 0 < c.length)
    {s : ReadRun} (hlt : s.buf.length < bufsize) :
    ∃ c, 0 < c.length ∧ c.length ≤ bufsize - s.buf.length ∧
      readPass port clock b bufsize s =
        .next ⟨s.buf ++ c, clock s.ticks, s.polls ++ [.data c], s.ticks + 1⟩ := by
  obtain ⟨c, hc, hpos⟩ := hport s.polls.length (bufsize - s.buf.length) (by omega)
  exact ⟨c, hpos, port.answer_le _ _ _ hc, by simp only [readPass, hc, if_pos hpos]⟩

theorem readLoop_streaming
    (hport : ∀ i cap, 0 < cap → ∃ c, port.answer i cap = some c ∧ 0 < c.length)
    (fuel : Nat) (s : ReadRun) (hle : s.buf.length ≤ bufsize)
    (hfuel : bufsize - s.buf.length < fuel) :
    (readLoop port clock b bufsize fuel s).2 = some (bufsize : Int) := by
  induction fuel generalizing s with
  | zero => omega
  | succ fuel ih =>
    by_cases hlt : s.buf.length < bufsize
    · obtain ⟨c, hpos, hc, hp⟩ := @readPass_streaming _ clock b _ hport _ hlt
      rw [readLoop, if_pos hlt, hp]
      exact ih _ (by simp only [List.length_append]; omega)
        (by simp only [List.length_append]; omega)
    · rw [readLoop, if_neg hlt, show s.buf.length = bufsize by omega]

end Stream

/-- **Frames are told apart by idle time only**: a port that never goes idle is read until the
buffer is full, so frames sent back to back come back as one. -/
theorem modbusBackendRead_streaming (b : MbBackend) (h : Int) (hb : b.hinst = some h)
    (bufsize : Int) (hsize : 0 < bufsize) (port : PortRead)
    (hport : ∀ i cap, 0 < cap → ∃ c, port.answer i cap = some c ∧ 0 < c.length)
    (clock : Nat → Int) (fuel : Nat) (hfuel : bufsize.toNat < fuel) :
    (modbusBackendRead b bufsize port clock fuel).2 = some bufsize := by
  rw [modbusBackendRead, if_neg (by omega), withHandle, hb]
  simp only [b.ops_has.2.1, if_true]
  rw [readLoop_streaming hport fuel _ (by simp [ReadRun.start])
    (by simpa [ReadRun.start] using hfuel)]
  rw [Int.toNat_of_nonneg (Int.le_of_lt hsize)]

def floodPort : PortRead :=
  ⟨fun _ cap => some (List.replicate cap 0x55), fun _ cap c h => by cases h; simp⟩

theorem modbusBackendRead_flood :
    (modbusBackendOpen modbusBackendCreateRtu (some 1)).state.hinst = some 1 ∧ (0 : Int) < 256 ∧
      (∀ i cap, 0 < cap → ∃ c, floodPort.answer i cap = some c ∧ 0 < c.length) ∧
      (256 : Int).toNat < 257 ∧
      (modbusBackendRead (modbusBackendOpen modbusBackendCreateRtu (some 1)).state 256 floodPort
        (fun j => (j : Int)) 257).2 = some 256 :=
  have hport : ∀ i cap, 0 < cap → ∃ c, floodPort.answer i cap = some c ∧ 0 < c.length :=
    fun _ _ hcap => ⟨_, rfl, by simpa using hcap⟩
  ⟨rfl, by decide, hport, by decide,
    modbusBackendRead_streaming _ 1 rfl 256 (by decide) floodPort hport _ 257 (by decide)⟩

end Modbus.Backend
