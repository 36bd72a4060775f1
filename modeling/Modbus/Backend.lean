import Mathlib.Data.List.Basic

/-!
# Transport backends

`mb_backend_t` and the calls that create, open, close, configure, write to, flush and destroy
it. Each call returns its C result, the backend after it and the port calls it made, each with
the answer the port gave (`answer` is what the callback returns if it is called). The handle
discipline the backend keeps is the automaton `portStep`.
-/

namespace Modbus.Backend

inductive MbBackendType
  | rtu
  | tcp
  | sock
  deriving DecidableEq, Repr

/-- `mb_backend_ops_t`, by which of its callbacks are not `NULL`. -/
structure MbBackendOps where
  hasOpen : Bool
  hasClose : Bool
  hasRead : Bool
  hasWrite : Bool
  hasFlush : Bool
  deriving DecidableEq, Repr

def mbPortRtuOps : MbBackendOps := ⟨true, true, true, true, true⟩

def mbPortTcpOps : MbBackendOps := ⟨true, true, true, true, true⟩

/-- `mb_port_sock_ops`: no `open`, the socket being adopted connected. -/
def mbPortSockOps : MbBackendOps := ⟨false, true, true, true, true⟩

def mbBkdAckTmoMsDef : Int := 300

def mbBkdByteTmoMsDef : Int := 32

def mbBackendOps : MbBackendType → MbBackendOps
  | .rtu => mbPortRtuOps
  | .tcp => mbPortTcpOps
  | .sock => mbPortSockOps

/-- `mb_backend_t`. Of `param` only the adopted socket's `fd` is read; a handle is the value
of the `void *`, `NULL` being `none`, and `ops` is fixed by the type (`MbBackend.ops`). -/
structure MbBackend where
  type : MbBackendType
  ack_tmo_ms : Int
  byte_tmo_ms : Int
  hinst : Option Int
  deriving DecidableEq, Repr

def MbBackend.ops (b : MbBackend) : MbBackendOps := mbBackendOps b.type

theorem MbBackend.ops_has (b : MbBackend) :
    b.ops.hasClose = true ∧ b.ops.hasRead = true ∧ b.ops.hasWrite = true ∧
      b.ops.hasFlush = true := by
  cases h : b.type <;> simp [MbBackend.ops, mbBackendOps, h, mbPortRtuOps, mbPortTcpOps,
    mbPortSockOps]

/-- A call into the port, with the port's answer. `free` is `free(backend)`. -/
inductive Call
  | opsOpen (ret : Option Int)
  | opsClose (h : Int) (ret : Int)
  | opsRead (h : Int)
  | opsWrite (h : Int) (ret : Int)
  | opsFlush (h : Int) (ret : Int)
  | free
  deriving DecidableEq, Repr

structure Outcome (σ : Type) where
  ret : Int
  state : σ
  calls : List Call

def backendOf (type : MbBackendType) (hinst : Option Int) : MbBackend :=
  ⟨type, mbBkdAckTmoMsDef, mbBkdByteTmoMsDef, hinst⟩

def handleOfFd (fd : Int) : Option Int := if fd = 0 then none else some fd

def modbusBackendCreateRtu : MbBackend := backendOf .rtu none

def modbusBackendCreateTcp : MbBackend := backendOf .tcp none

def modbusBackendCreateSock (fd : Int) : MbBackend :=
  backendOf .sock (handleOfFd fd)

def modbusBackendCreate (type : MbBackendType) (fd : Int) : MbBackend :=
  match type with
  | .rtu => modbusBackendCreateRtu
  | .tcp => modbusBackendCreateTcp
  | .sock => modbusBackendCreateSock fd

theorem modbusBackendCreate_defaults (type : MbBackendType) (fd : Int) :
    (modbusBackendCreate type fd).type = type ∧
      (modbusBackendCreate type fd).ack_tmo_ms = 300 ∧
      (modbusBackendCreate type fd).byte_tmo_ms = 32 ∧
      ((modbusBackendCreate type fd).hinst = none ↔ type ≠ .sock ∨ fd = 0) := by
  cases type <;> simp [modbusBackendCreate, modbusBackendCreateRtu, modbusBackendCreateTcp,
    modbusBackendCreateSock, backendOf, handleOfFd, mbBkdAckTmoMsDef, mbBkdByteTmoMsDef]

def modbusBackendOpen (b : MbBackend) (answer : Option Int) : Outcome MbBackend :=
  match b.hinst with
  | some _ => ⟨0, b, []⟩
  | none =>
    if b.ops.hasOpen then
      ⟨if answer.isSome then 0 else -1, { b with hinst := answer }, [.opsOpen answer]⟩
    else ⟨-1, b, []⟩

def modbusBackendClose (b : MbBackend) (answer : Int) : Outcome MbBackend :=
  match b.hinst with
  | none => ⟨0, b, []⟩
  | some h =>
    if b.ops.hasClose then
      if answer ≠ 0 then ⟨-1, b, [.opsClose h answer]⟩
      else ⟨0, { b with hinst := none }, [.opsClose h answer]⟩
    else ⟨-1, b, []⟩

def modbusBackendTimeoutConfig (b : MbBackend) (ack_tmo_ms byte_tmo_ms : Int) :
    Outcome MbBackend :=
  ⟨0, { b with ack_tmo_ms := ack_tmo_ms, byte_tmo_ms := byte_tmo_ms }, []⟩

/-- The guard `modbus_backend_read`, `_write` and `_flush` share: `-1` unless the backend is
open and its table holds the callback, which then gets the handle. -/
def withHandle {α : Type} (b : MbBackend) (present : Bool) (fail : α) (call : Int → α) : α :=
  match b.hinst with
  | none => fail
  | some h => if present then call h else fail

def modbusBackendWrite (b : MbBackend) (size answer : Int) : Outcome MbBackend :=
  if size ≤ 0 then ⟨-1, b, []⟩
  else withHandle b b.ops.hasWrite ⟨-1, b, []⟩ fun h => ⟨answer, b, [.opsWrite h answer]⟩

def modbusBackendFlush (b : MbBackend) (answer : Int) : Outcome MbBackend :=
  withHandle b b.ops.hasFlush ⟨-1, b, []⟩ fun h => ⟨answer, b, [.opsFlush h answer]⟩

def modbusBackendDestory (b : MbBackend) (answer : Int) : List Call :=
  (modbusBackendClose b answer).calls ++ [.free]

theorem modbusBackendOpen_state (b : MbBackend) (answer : Option Int) :
    (modbusBackendOpen b answer).state =
      { b with hinst := (modbusBackendOpen b answer).state.hinst } := by
  unfold modbusBackendOpen
  split <;> (try split) <;> rfl

theorem modbusBackendClose_state (b : MbBackend) (answer : Int) :
    (modbusBackendClose b answer).state =
      { b with hinst := (modbusBackendClose b answer).state.hinst } := by
  unfold modbusBackendClose
  split <;> (try split) <;> (try split) <;> rfl

theorem modbusBackendWrite_state (b : MbBackend) (size answer : Int) :
    (modbusBackendWrite b size answer).state = b := by
  unfold modbusBackendWrite withHandle
  split <;> (try split) <;> (try split) <;> rfl

theorem modbusBackendFlush_state (b : MbBackend) (answer : Int) :
    (modbusBackendFlush b answer).state = b := by
  unfold modbusBackendFlush withHandle
  split <;> (try split) <;> rfl

structure PortState where
  held : Option Int
  closing : Bool
  deriving DecidableEq, Repr

/-- One call under the discipline, `none` where the call breaks it. -/
def portStep : PortState → Call → Option PortState
  | ⟨none, _⟩, .opsOpen r => some ⟨r, false⟩
  | ⟨some h, _⟩, .opsClose h' r =>
    if h' = h then some ⟨if r = 0 then none else some h, true⟩ else none
  | ⟨some h, _⟩, .opsRead h' => if h' = h then some ⟨some h, false⟩ else none
  | ⟨some h, _⟩, .opsWrite h' _ => if h' = h then some ⟨some h, false⟩ else none
  | ⟨some h, _⟩, .opsFlush h' _ => if h' = h then some ⟨some h, false⟩ else none
  | ⟨held, closing⟩, .free => if held = none ∨ closing then some ⟨none, false⟩ else none
  | _, _ => none

def portRun (p : PortState) : List Call → Option PortState
  | [] => some p
  | c :: cs => (portStep p c).bind fun q => portRun q cs

@[simp] theorem portRun_nil (p : PortState) : portRun p [] = some p := rfl

theorem portRun_append (p : PortState) (xs ys : List Call) :
    portRun p (xs ++ ys) = (portRun p xs).bind fun q => portRun q ys := by
  induction xs generalizing p with
  | nil => rfl
  | cons c cs ih =>
    simp only [List.cons_append, portRun]
    cases portStep p c <;> simp [ih]

/-- Calls made while the backend holds `held` keep the discipline and leave the port holding
`held'`, whatever the last call before them was. -/
def Keeps (held : Option Int) (calls : List Call) (held' : Option Int) : Prop :=
  ∀ closing, ∃ closing', portRun ⟨held, closing⟩ calls = some ⟨held', closing'⟩

theorem Keeps.nil (held : Option Int) : Keeps held [] held :=
  fun closing => ⟨closing, rfl⟩

theorem Keeps.append {a b c : Option Int} {xs ys : List Call} (hx : Keeps a xs b)
    (hy : Keeps b ys c) : Keeps a (xs ++ ys) c := by
  intro closing
  obtain ⟨k, hk⟩ := hx closing
  obtain ⟨k', hk'⟩ := hy k
  exact ⟨k', by rw [portRun_append, hk, Option.some_bind, hk']⟩

theorem Keeps.single {a b : Option Int} {c : Call} (h : ∀ k, ∃ k', portStep ⟨a, k⟩ c = some ⟨b, k'⟩) :
    Keeps a [c] b := by
  intro k
  obtain ⟨k', hk⟩ := h k
  exact ⟨k', by simp [portRun, hk]⟩

theorem Keeps.use (h : Int) {c : Call}
    (hc : c = .opsRead h ∨ (∃ r, c = .opsWrite h r) ∨ ∃ r, c = .opsFlush h r) :
    Keeps (some h) [c] (some h) := by
  refine Keeps.single fun k => ⟨false, ?_⟩
  rcases hc with rfl | ⟨r, rfl⟩ | ⟨r, rfl⟩ <;> simp [portStep]

theorem modbusBackendOpen_keeps (b : MbBackend) (answer : Option Int) :
    Keeps b.hinst (modbusBackendOpen b answer).calls (modbusBackendOpen b answer).state.hinst := by
  unfold modbusBackendOpen
  split
  · exact Keeps.nil _
  · rename_i hb
    split
    · exact Keeps.single fun _ => ⟨false, by simp [hb, portStep]⟩
    · exact Keeps.nil _

theorem modbusBackendClose_keeps (b : MbBackend) (answer : Int) :
    Keeps b.hinst (modbusBackendClose b answer).calls (modbusBackendClose b answer).state.hinst := by
  unfold modbusBackendClose
  split
  · exact Keeps.nil _
  · rw [if_pos b.ops_has.1]
    split <;> exact Keeps.single fun _ => ⟨true, by simp_all [portStep]⟩

theorem modbusBackendWrite_keeps (b : MbBackend) (size answer : Int) :
    Keeps b.hinst (modbusBackendWrite b size answer).calls
      (modbusBackendWrite b size answer).state.hinst := by
  unfold modbusBackendWrite withHandle
  split
  · exact Keeps.nil _
  · split
    · exact Keeps.nil _
    · rename_i h hb
      rw [if_pos b.ops_has.2.2.1, hb]
      exact Keeps.use h (.inr (.inl ⟨answer, rfl⟩))

theorem modbusBackendFlush_keeps (b : MbBackend) (answer : Int) :
    Keeps b.hinst (modbusBackendFlush b answer).calls (modbusBackendFlush b answer).state.hinst := by
  unfold modbusBackendFlush withHandle
  split
  · exact Keeps.nil _
  · rename_i h hb
    rw [if_pos b.ops_has.2.2.2, hb]
    exact Keeps.use h (.inr (.inr ⟨answer, rfl⟩))

theorem modbusBackendClose_hinst (b : MbBackend) (answer : Int) :
    (modbusBackendClose b answer).state.hinst = none ↔ (modbusBackendClose b answer).ret = 0 := by
  unfold modbusBackendClose
  split
  · simp_all
  · rw [if_pos b.ops_has.1]
    split <;> simp_all

theorem modbusBackendOpen_sock_closed (fd : Int) (answer : Option Int) :
    (modbusBackendClose (modbusBackendCreateSock fd) 0).state.hinst = none ∧
      modbusBackendOpen (modbusBackendClose (modbusBackendCreateSock fd) 0).state answer =
        ⟨-1, (modbusBackendClose (modbusBackendCreateSock fd) 0).state, []⟩ := by
  by_cases h : fd = 0 <;>
    simp [modbusBackendCreateSock, backendOf, handleOfFd, modbusBackendClose, modbusBackendOpen,
      MbBackend.ops, mbBackendOps, mbPortSockOps, h]

theorem modbusBackendDestory_keeps (b : MbBackend) (answer : Int) :
    Keeps b.hinst (modbusBackendDestory b answer) none := by
  unfold modbusBackendDestory modbusBackendClose
  split
  · exact Keeps.single fun _ => ⟨false, by simp_all [portStep]⟩
  · rw [if_pos b.ops_has.1]
    exact fun _ => ⟨false, by split <;> simp_all [portRun, portStep]⟩

end Modbus.Backend
