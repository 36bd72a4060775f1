import Modbus.BackendRead

/-!
# Instances and the handle lifecycle

`mb_inst_t` and its wrappers (`modbus_instance.c`). A program is a list of operations, each
with the port's answers; `runOps` runs it until it ends, until a framing read is still polling
when its fuel runs out, or until `modbus_destroy`.
-/

namespace Modbus.Instance
open Modbus.Backend

inductive MbProt
  | rtu
  | tcp
  deriving DecidableEq, Repr

def mbRtuAddrDef : UInt8 := 1

/-- `mb_inst_t`; the slave callback table and the two working buffers are not modelled. -/
structure MbInst where
  saddr : UInt8
  prototype : MbProt
  tsid : UInt16
  backend : MbBackend
  deriving DecidableEq, Repr

def modbusCreate (type : MbBackendType) (fd : Int) : MbInst :=
  ⟨mbRtuAddrDef, if type = .rtu then .rtu else .tcp, 0, modbusBackendCreate type fd⟩

def modbusDestroy (inst : MbInst) (answer : Int) : List Call :=
  modbusBackendDestory inst.backend answer

/-- `modbus_create` with the answers of its two allocations; when the instance's fails, the
backend already made is destroyed. -/
def modbusCreateAlloc (type : MbBackendType) (fd : Int) (bkdAlloc instAlloc : Bool)
    (closeAnswer : Int) : Option MbInst × List Call :=
  if bkdAlloc then
    if instAlloc then (some (modbusCreate type fd), [])
    else (none, modbusBackendDestory (modbusBackendCreate type fd) closeAnswer)
  else (none, [])

def modbusSetSlaveAddr (inst : MbInst) (saddr : UInt8) : MbInst := { inst with saddr := saddr }

def modbusSetPrototype (inst : MbInst) (prot : MbProt) : MbInst := { inst with prototype := prot }

/-- `modbus_set_tmo`. The `modbus_backend_config` it calls is declared in the backend header but
defined nowhere in the sources; it is taken to be `modbus_backend_timeout_config`. -/
def modbusSetTmo (inst : MbInst) (ack_tmo_ms byte_tmo_ms : Int) : MbInst :=
  { inst with backend := (modbusBackendTimeoutConfig inst.backend ack_tmo_ms byte_tmo_ms).state }

def liftOutcome (inst : MbInst) (o : Outcome MbBackend) : Outcome MbInst :=
  ⟨o.ret, { inst with backend := o.state }, o.calls⟩

def modbusConnect (inst : MbInst) (answer : Option Int) : Outcome MbInst :=
  liftOutcome inst (modbusBackendOpen inst.backend answer)

def modbusDisconn (inst : MbInst) (answer : Int) : Outcome MbInst :=
  liftOutcome inst (modbusBackendClose inst.backend answer)

def modbusFlush (inst : MbInst) (answer : Int) : Outcome MbInst :=
  liftOutcome inst (modbusBackendFlush inst.backend answer)

def modbusSend (inst : MbInst) (size answer closeAnswer : Int) : Outcome MbInst :=
  let w := modbusBackendWrite inst.backend size answer
  if w.ret < 0 then
    let c := modbusBackendClose w.state closeAnswer
    ⟨w.ret, { inst with backend := c.state }, w.calls ++ c.calls⟩
  else ⟨w.ret, { inst with backend := w.state }, w.calls⟩

def readCalls (b : MbBackend) (run : ReadRun) : List Call :=
  match b.hinst with
  | some h => run.polls.map fun _ => .opsRead h
  | none => []

/-- `modbus_recv`: the framing read, then a close when it returned a negative value. Besides
the read's run, the outcome, `none` while the read is still polling. -/
def modbusRecv (inst : MbInst) (bufsize : Int) (port : PortRead) (clock : Nat → Int)
    (fuel : Nat) (closeAnswer : Int) : ReadRun × Option (Outcome MbInst) :=
  let r := modbusBackendRead inst.backend bufsize port clock fuel
  (r.1, r.2.map fun len =>
    if len < 0 then
      let c := modbusBackendClose inst.backend closeAnswer
      ⟨len, { inst with backend := c.state }, c.calls⟩
    else ⟨len, inst, []⟩)

/-- One call of the instance API with the port's answers; `read` and `write` are the backend's
own, reached on the instance's backend. -/
inductive Op
  | connect (answer : Option Int)
  | disconn (answer : Int)
  | read (bufsize : Int) (port : PortRead) (clock : Nat → Int) (fuel : Nat)
  | write (size answer : Int)
  | recv (bufsize : Int) (port : PortRead) (clock : Nat → Int) (fuel : Nat) (closeAnswer : Int)
  | send (size answer closeAnswer : Int)
  | flush (answer : Int)
  | setTmo (ack_tmo_ms byte_tmo_ms : Int)
  | setSlaveAddr (saddr : UInt8)
  | setPrototype (prot : MbProt)
  | destroy (answer : Int)

inductive Ended
  | live (inst : MbInst)
  | polling (inst : MbInst)
  | destroyed

def Ended.held : Ended → Option Int
  | .live inst => inst.backend.hinst
  | .polling inst => inst.backend.hinst
  | .destroyed => none

def Op.step (inst : MbInst) : Op → List Call × Ended
  | .connect answer => let o := modbusConnect inst answer; (o.calls, .live o.state)
  | .disconn answer => let o := modbusDisconn inst answer; (o.calls, .live o.state)
  | .read bufsize port clock fuel =>
    let r := modbusBackendRead inst.backend bufsize port clock fuel
    (readCalls inst.backend r.1, if r.2.isSome then .live inst else .polling inst)
  | .write size answer =>
    let o := liftOutcome inst (modbusBackendWrite inst.backend size answer)
    (o.calls, .live o.state)
  | .recv bufsize port clock fuel closeAnswer =>
    let r := modbusRecv inst bufsize port clock fuel closeAnswer
    match r.2 with
    | some o => (readCalls inst.backend r.1 ++ o.calls, .live o.state)
    | none => (readCalls inst.backend r.1, .polling inst)
  | .send size answer closeAnswer =>
    let o := modbusSend inst size answer closeAnswer; (o.calls, .live o.state)
  | .flush answer => let o := modbusFlush inst answer; (o.calls, .live o.state)
  | .setTmo ack byte => ([], .live (modbusSetTmo inst ack byte))
  | .setSlaveAddr saddr => ([], .live (modbusSetSlaveAddr inst saddr))
  | .setPrototype prot => ([], .live (modbusSetPrototype inst prot))
  | .destroy answer => (modbusDestroy inst answer, .destroyed)

structure Run where
  calls : List Call
  ended : Ended

def runOps (inst : MbInst) : List Op → Run
  | [] => ⟨[], .live inst⟩
  | op :: ops =>
    match op.step inst with
    | (calls, .live inst') => let r := runOps inst' ops; ⟨calls ++ r.calls, r.ended⟩
    | (calls, e) => ⟨calls, e⟩

@[simp] theorem liftOutcome_calls (inst : MbInst) (o : Outcome MbBackend) :
    (liftOutcome inst o).calls = o.calls := rfl

@[simp] theorem liftOutcome_hinst (inst : MbInst) (o : Outcome MbBackend) :
    (liftOutcome inst o).state.backend.hinst = o.state.hinst := rfl

theorem Keeps.reads {α : Type} (h : Int) (polls : List α) :
    Keeps (some h) (polls.map fun _ => .opsRead h) (some h) := by
  induction polls with
  | nil => exact Keeps.nil _
  | cons _ _ ih => exact Keeps.append (Keeps.use h (.inl rfl)) ih

theorem readCalls_keeps (b : MbBackend) (run : ReadRun) :
    Keeps b.hinst (readCalls b run) b.hinst := by
  unfold readCalls
  split
  · rename_i h hb
    rw [hb]
    exact Keeps.reads h _
  · exact Keeps.nil _

theorem modbusSend_keeps (inst : MbInst) (size answer closeAnswer : Int) :
    Keeps inst.backend.hinst (modbusSend inst size answer closeAnswer).calls
      (modbusSend inst size answer closeAnswer).state.backend.hinst := by
  dsimp only [modbusSend]
  split
  · exact (modbusBackendWrite_keeps _ _ _).append (modbusBackendClose_keeps _ _)
  · exact modbusBackendWrite_keeps _ _ _

theorem modbusRecv_keeps (inst : MbInst) (bufsize : Int) (port : PortRead) (clock : Nat → Int)
    (fuel : Nat) (closeAnswer : Int) (o : Outcome MbInst)
    (h : (modbusRecv inst bufsize port clock fuel closeAnswer).2 = some o) :
    Keeps inst.backend.hinst o.calls o.state.backend.hinst := by
  simp only [modbusRecv, Option.map_eq_some'] at h
  obtain ⟨len, -, rfl⟩ := h
  split
  · exact modbusBackendClose_keeps _ _
  · exact Keeps.nil _

theorem modbusSend_error_closes (inst : MbInst) (h : Int) (hb : inst.backend.hinst = some h)
    (size answer closeAnswer : Int) (hsize : 0 < size) (hfail : answer < 0) :
    (modbusSend inst size answer closeAnswer).calls =
        [.opsWrite h answer, .opsClose h closeAnswer] ∧
      (modbusSend inst size answer closeAnswer).state.backend.hinst =
        if closeAnswer = 0 then none else some h := by
  obtain ⟨hclose, -, hwrite, -⟩ := inst.backend.ops_has
  by_cases hc : closeAnswer = 0 <;>
    simp [modbusSend, modbusBackendWrite, withHandle, modbusBackendClose, hb, hclose, hwrite, hc,
      hfail, Int.not_le.2 hsize]

theorem modbusRecv_error_closes (inst : MbInst) (h : Int) (hb : inst.backend.hinst = some h)
    (bufsize : Int) (port : PortRead) (clock : Nat → Int) (fuel : Nat) (closeAnswer r : Int)
    (hread : (modbusBackendRead inst.backend bufsize port clock fuel).2 = some r) (hfail : r < 0) :
    (modbusRecv inst bufsize port clock fuel closeAnswer).2.map Outcome.calls =
        some [.opsClose h closeAnswer] ∧
      (modbusRecv inst bufsize port clock fuel closeAnswer).2.map (·.state.backend.hinst) =
        some (if closeAnswer = 0 then none else some h) := by
  have hclose := inst.backend.ops_has.1
  by_cases hc : closeAnswer = 0 <;>
    simp [modbusRecv, hread, hfail, modbusBackendClose, hb, hclose, hc]

theorem Op.step_keeps (inst : MbInst) (op : Op) :
    Keeps inst.backend.hinst (op.step inst).1 (op.step inst).2.held := by
  cases op with
  | connect answer => exact modbusBackendOpen_keeps _ _
  | disconn answer => exact modbusBackendClose_keeps _ _
  | read bufsize port clock fuel =>
    simp only [Op.step]
    split <;> exact readCalls_keeps _ _
  | write size answer => exact modbusBackendWrite_keeps _ _ _
  | recv bufsize port clock fuel closeAnswer =>
    simp only [Op.step]
    split
    · rename_i o ho
      exact (readCalls_keeps _ _).append (modbusRecv_keeps _ _ _ _ _ _ o ho)
    · exact readCalls_keeps _ _
  | send size answer closeAnswer => exact modbusSend_keeps _ _ _ _
  | flush answer => exact modbusBackendFlush_keeps _ _
  | setTmo ack byte => exact Keeps.nil _
  | setSlaveAddr saddr => exact Keeps.nil _
  | setPrototype prot => exact Keeps.nil _
  | destroy answer => exact modbusBackendDestory_keeps _ _

theorem runOps_keeps (inst : MbInst) (ops : List Op) :
    Keeps inst.backend.hinst (runOps inst ops).calls (runOps inst ops).ended.held := by
  induction ops generalizing inst with
  | nil => exact Keeps.nil _
  | cons op ops ih =>
    have hstep := Op.step_keeps inst op
    simp only [runOps]
    split
    · rename_i calls inst' he
      rw [he] at hstep
      exact hstep.append (ih inst')
    · rename_i calls e _ he
      rwa [he] at hstep

/-- **Handle lifecycle.** From `modbus_create`, every program keeps the discipline `portStep`
and leaves the port holding exactly the backend's `hinst`. -/
theorem modbusCreate_lifecycle (type : MbBackendType) (fd : Int) (ops : List Op) :
    Keeps (if type = .sock then handleOfFd fd else none)
      (runOps (modbusCreate type fd) ops).calls (runOps (modbusCreate type fd) ops).ended.held := by
  have h0 : (modbusCreate type fd).backend.hinst = if type = .sock then handleOfFd fd else none := by
    cases type <;> rfl
  rw [← h0]
  exact runOps_keeps _ ops

theorem modbusCreateAlloc_lifecycle (type : MbBackendType) (fd : Int)
    (bkdAlloc instAlloc : Bool) (closeAnswer : Int) (ops : List Op) :
    match modbusCreateAlloc type fd bkdAlloc instAlloc closeAnswer with
    | (some inst, calls) => Keeps (if type = .sock then handleOfFd fd else none)
        (calls ++ (runOps inst ops).calls) (runOps inst ops).ended.held
    | (none, calls) => Keeps (if type = .sock then handleOfFd fd else none) calls
        (if bkdAlloc then none else if type = .sock then handleOfFd fd else none) := by
  have h0 :
      (modbusBackendCreate type fd).hinst = if type = .sock then handleOfFd fd else none := by
    cases type <;> rfl
  unfold modbusCreateAlloc
  cases bkdAlloc with
  | false => exact Keeps.nil _
  | true =>
    cases instAlloc with
    | false =>
      rw [← h0]
      exact modbusBackendDestory_keeps _ _
    | true =>
      rw [← h0]
      exact (Keeps.nil _).append (runOps_keeps (modbusCreate type fd) ops)

def MbInst.withHinst (inst : MbInst) (h : Option Int) : MbInst :=
  { inst with backend := { inst.backend with hinst := h } }

def Op.configure (inst : MbInst) : Op → MbInst
  | .setTmo ack byte => modbusSetTmo inst ack byte
  | .setSlaveAddr saddr => modbusSetSlaveAddr inst saddr
  | .setPrototype prot => modbusSetPrototype inst prot
  | _ => inst

@[simp] theorem MbInst.withHinst_withHinst (inst : MbInst) (h h' : Option Int) :
    (inst.withHinst h).withHinst h' = inst.withHinst h' := rfl

theorem Op.configure_withHinst (inst : MbInst) (h : Option Int) (op : Op) :
    op.configure (inst.withHinst h) = (op.configure inst).withHinst h := by
  cases op <;> rfl

theorem foldl_configure_withHinst (inst : MbInst) (h : Option Int) (ops : List Op) :
    ops.foldl Op.configure (inst.withHinst h) = (ops.foldl Op.configure inst).withHinst h := by
  induction ops generalizing inst with
  | nil => rfl
  | cons op ops ih => simp only [List.foldl_cons, Op.configure_withHinst, ih]

theorem withBackend_eq (inst : MbInst) {b : MbBackend}
    (hb : b = { inst.backend with hinst := b.hinst }) :
    { inst with backend := b } = inst.withHinst b.hinst := by
  rw [MbInst.withHinst, ← hb]

theorem Op.step_frame (inst : MbInst) (op : Op) :
    (∀ inst', (op.step inst).2 = .live inst' →
      inst' = (op.configure inst).withHinst inst'.backend.hinst) ∧
    (∀ inst', (op.step inst).2 = .polling inst' → inst' = inst) := by
  cases op with
  | connect answer =>
    refine ⟨fun inst' h => ?_, fun _ => nofun⟩
    cases h
    exact withBackend_eq inst (modbusBackendOpen_state _ _)
  | disconn answer =>
    refine ⟨fun inst' h => ?_, fun _ => nofun⟩
    cases h
    exact withBackend_eq inst (modbusBackendClose_state _ _)
  | read bufsize port clock fuel =>
    simp only [Op.step]
    split
    · exact ⟨fun _ h => (by cases h; rfl), fun _ => nofun⟩
    · exact ⟨fun _ => nofun, fun _ h => (by cases h; rfl)⟩
  | write size answer =>
    refine ⟨fun inst' h => ?_, fun _ => nofun⟩
    cases h
    exact withBackend_eq inst (by rw [modbusBackendWrite_state])
  | recv bufsize port clock fuel closeAnswer =>
    simp only [Op.step]
    split
    · rename_i o ho
      refine ⟨fun inst' h => ?_, fun _ => nofun⟩
      cases h
      simp only [modbusRecv, Option.map_eq_some'] at ho
      obtain ⟨len, -, rfl⟩ := ho
      split
      · exact withBackend_eq inst (modbusBackendClose_state _ _)
      · rfl
    · exact ⟨fun _ => nofun, fun _ h => (by cases h; rfl)⟩
  | send size answer closeAnswer =>
    refine ⟨fun inst' h => ?_, fun _ => nofun⟩
    cases h
    dsimp only [modbusSend]
    split
    · refine withBackend_eq inst ?_
      rw [modbusBackendWrite_state]
      exact modbusBackendClose_state _ _
    · exact withBackend_eq inst (by rw [modbusBackendWrite_state])
  | flush answer =>
    refine ⟨fun inst' h => ?_, fun _ => nofun⟩
    cases h
    exact withBackend_eq inst (by rw [modbusBackendFlush_state])
  | setTmo ack byte => exact ⟨fun _ h => (by cases h; rfl), fun _ => nofun⟩
  | setSlaveAddr saddr => exact ⟨fun _ h => (by cases h; rfl), fun _ => nofun⟩
  | setPrototype prot => exact ⟨fun _ h => (by cases h; rfl), fun _ => nofun⟩
  | destroy answer => exact ⟨fun _ => nofun, fun _ => nofun⟩

/-- **Only the setters change an instance**, up to its handle; a run still polling is at the
setters before that read. -/
theorem runOps_frame (inst : MbInst) (ops : List Op) (inst' : MbInst) :
    ((runOps inst ops).ended = .live inst' →
      inst' = (ops.foldl Op.configure inst).withHinst inst'.backend.hinst) ∧
    ((runOps inst ops).ended = .polling inst' →
      ∃ pre, pre <+: ops ∧
        inst' = (pre.foldl Op.configure inst).withHinst inst'.backend.hinst) := by
  induction ops generalizing inst with
  | nil => exact ⟨fun h => by cases h; rfl, fun h => nomatch h⟩
  | cons op ops ih =>
    have hstep := Op.step_frame inst op
    simp only [runOps]
    split
    · rename_i calls i1 he
      rw [he] at hstep
      have h1 := hstep.1 i1 rfl
      refine ⟨fun h => ?_, fun h => ?_⟩
      · rw [(ih i1).1 h, h1, foldl_configure_withHinst, MbInst.withHinst_withHinst]
        rfl
      · obtain ⟨pre, hpre, hi⟩ := (ih i1).2 h
        refine ⟨op :: pre, (List.prefix_cons_inj op).2 hpre, ?_⟩
        rw [hi, h1, foldl_configure_withHinst, MbInst.withHinst_withHinst]
        rfl
    · rename_i calls e hne he
      rw [he] at hstep
      refine ⟨fun h => absurd h (hne _), fun h => ⟨[], List.nil_prefix, ?_⟩⟩
      rw [hstep.2 inst' h]
      rfl

theorem runOps_frame_rtu :
    (runOps (modbusCreate .rtu 0) [.setSlaveAddr 5, .connect (some 3), .send 8 (-1) 0]).ended =
        .live ⟨5, .rtu, 0, ⟨.rtu, 300, 32, none⟩⟩ ∧
      (⟨5, .rtu, 0, ⟨.rtu, 300, 32, none⟩⟩ : MbInst) =
        ([Op.setSlaveAddr 5, .connect (some 3), .send 8 (-1) 0].foldl Op.configure
          (modbusCreate .rtu 0)).withHinst none :=
  have h : (runOps (modbusCreate .rtu 0)
      [.setSlaveAddr 5, .connect (some 3), .send 8 (-1) 0]).ended =
      .live ⟨5, .rtu, 0, ⟨.rtu, 300, 32, none⟩⟩ := rfl
  ⟨h, (runOps_frame _ _ _).1 h⟩

section Closed

variable {b : MbBackend}

theorem modbusBackendClose_none (hb : b.hinst = none) (answer : Int) :
    modbusBackendClose b answer = ⟨0, b, []⟩ := by
  simp [modbusBackendClose, hb]

theorem modbusBackendWrite_none (hb : b.hinst = none) (size answer : Int) :
    modbusBackendWrite b size answer = ⟨-1, b, []⟩ := by
  unfold modbusBackendWrite withHandle
  split <;> simp [hb]

theorem modbusBackendFlush_none (hb : b.hinst = none) (answer : Int) :
    modbusBackendFlush b answer = ⟨-1, b, []⟩ := by
  simp [modbusBackendFlush, withHandle, hb]

theorem readCalls_none (hb : b.hinst = none) (run : ReadRun) : readCalls b run = [] := by
  simp [readCalls, hb]

theorem modbusBackendOpen_sock_none (hb : b.hinst = none) (hs : b.type = .sock)
    (answer : Option Int) : modbusBackendOpen b answer = ⟨-1, b, []⟩ := by
  simp [modbusBackendOpen, hb, MbBackend.ops, hs, mbBackendOps, mbPortSockOps]

end Closed

theorem Op.step_closed (inst : MbInst) (op : Op) (hb : inst.backend.hinst = none)
    (hop : inst.backend.type = .sock ∨ ∀ a, op ≠ .connect a) :
    (∀ c ∈ (op.step inst).1, c = .free) ∧
      ∀ inst', (op.step inst).2 = .live inst' ∨ (op.step inst).2 = .polling inst' →
        inst'.backend.hinst = none ∧ inst'.backend.type = inst.backend.type := by
  cases op with
  | connect answer =>
    have hs : inst.backend.type = .sock := hop.resolve_right fun h => h answer rfl
    simp [Op.step, modbusConnect, liftOutcome, modbusBackendOpen_sock_none hb hs, hb]
  | disconn answer => simp [Op.step, modbusDisconn, liftOutcome, modbusBackendClose_none hb, hb]
  | read bufsize port clock fuel =>
    simp only [Op.step, readCalls_none hb]
    split <;> simp [hb]
  | write size answer => simp [Op.step, liftOutcome, modbusBackendWrite_none hb, hb]
  | recv bufsize port clock fuel closeAnswer =>
    simp only [Op.step, readCalls_none hb]
    split
    · rename_i o ho
      simp only [modbusRecv, Option.map_eq_some'] at ho
      obtain ⟨len, -, rfl⟩ := ho
      split <;> simp [modbusBackendClose_none hb, hb]
    · simp [hb]
  | send size answer closeAnswer =>
    simp [Op.step, modbusSend, modbusBackendWrite_none hb, modbusBackendClose_none hb, hb]
  | flush answer => simp [Op.step, modbusFlush, liftOutcome, modbusBackendFlush_none hb, hb]
  | setTmo ack byte => simp [Op.step, modbusSetTmo, modbusBackendTimeoutConfig, hb]
  | setSlaveAddr saddr => simp [Op.step, modbusSetSlaveAddr, hb]
  | setPrototype prot => simp [Op.step, modbusSetPrototype, hb]
  | destroy answer =>
    simp [Op.step, modbusDestroy, modbusBackendDestory, modbusBackendClose_none hb]

/-- **Without a handle, only `modbus_connect` reaches the port**: a program that cannot open
one calls the port only to free the backend. -/
theorem runOps_closed (inst : MbInst) (ops : List Op) (hb : inst.backend.hinst = none)
    (hop : inst.backend.type = .sock ∨ ∀ a, Op.connect a ∉ ops) :
    (∀ c ∈ (runOps inst ops).calls, c = .free) ∧ (runOps inst ops).ended.held = none := by
  induction ops generalizing inst with
  | nil => simp [runOps, Ended.held, hb]
  | cons op ops ih =>
    have hstep := Op.step_closed inst op hb
      (hop.imp_right fun h a e => h a (e ▸ List.mem_cons_self _ _))
    simp only [runOps]
    split
    · rename_i calls inst' he
      rw [he] at hstep
      obtain ⟨hb', ht'⟩ := hstep.2 inst' (.inl rfl)
      have := ih inst' hb' (hop.imp (fun h => ht'.trans h)
        fun h a ha => h a (List.mem_cons_of_mem _ ha))
      refine ⟨fun c hc => ?_, this.2⟩
      rcases List.mem_append.1 hc with hc | hc
      · exact hstep.1 c hc
      · exact this.1 c hc
    · rename_i calls e hne he
      rw [he] at hstep
      refine ⟨hstep.1, ?_⟩
      cases e with
      | live inst' => exact absurd rfl (hne inst')
      | polling inst' => exact (hstep.2 inst' (.inr rfl)).1
      | destroyed => rfl

theorem runOps_closed_sock :
    (modbusDisconn (modbusCreate .sock 7) 0).state.backend.hinst = none ∧
      ((modbusDisconn (modbusCreate .sock 7) 0).state.backend.type = .sock ∨
        ∀ a, Op.connect a ∉ [Op.connect (some 3), .send 8 8 0, .destroy 0]) ∧
      (∀ c ∈ (runOps (modbusDisconn (modbusCreate .sock 7) 0).state
          [.connect (some 3), .send 8 8 0, .destroy 0]).calls, c = .free) ∧
      (runOps (modbusDisconn (modbusCreate .sock 7) 0).state
          [.connect (some 3), .send 8 8 0, .destroy 0]).ended.held = none :=
  ⟨rfl, .inl rfl, runOps_closed _ _ rfl (.inl rfl)⟩

end Modbus.Instance
