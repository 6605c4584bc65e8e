import ScriptBridge.Proofs.Bridge.Frame
import ScriptBridge.Proofs.Bridge.SetUp

/-!
# Runs of a bridge

What a host does with a bridge, one operation after the other.  `Operation` has every operation with
its arguments, `Run` is a run from the creation of a bridge on, with what each operation came to.

* `Operation.keeps_of_core`, `Operation.keeps` : every operation keeps what its `CoreFrame` or its
  `Frame` allows, if it does not handle modules or end calls.
* `Run.goes_on`, `Run.after` : a run goes on with **whatever the host does**.
-/

namespace ScriptBridge

open Script

namespace Bridge

/-- What a host does with a bridge. -/
inductive Operation
  | createNamespace (name : String)
  | globalObject
  | hostNamespace
  | evalSource (filename source : String) (isModule : Bool)
  | eval (source : String)
  | evaluateUnit (u : CompiledUnit)
  | evalBlob (blob : List UInt8)
  | loadBlob (blob : List UInt8)
  | loadSource (filename source : String)
  | registerModule (blob : List UInt8)
  | loadedModules
  | callMethod (target : Handle) (name : String) (args : List Handle)
  | getProperty (target : Handle) (name : String)
  | getString (h : Handle)
  | newString (text : String)
  | getNumber (h : Handle)
  | newNumber (x : Float)
  | toJson (h : Handle)
  | fromJson (j : Json)
  | valueKind (h : Handle)
  | release (h : Handle)
  | liveHandles
  | promiseResult (h : Handle)
  | promiseStatus (h : Handle)
  | awaitPromise (h : Handle)
  | registerHost (name : String) (arity : Nat) (f : HostFunction)
  | hostFunctions
  | setDispatcher (on : Bool)
  | takeRequests
  | takeDispatched
  | pendingCalls
  | completeCall (id : Nat) (outcome : CallOutcome)
  | drain
  | takeFailures
  | takeOutput
  | takeStdout

/-- What an operation yields. -/
inductive Answer
  | done
  | handle (h : Handle)
  | text (s : String)
  | texts (l : List String)
  | number (x : Float)
  | count (n : Nat)
  | json (j : Json)
  | kind (k : ValueKind)
  | status (s : PromiseStatus)
  | replaced (d : Option HostDescriptor)
  | functions (ds : List HostDescriptor)
  | requests (rs : List AsyncRequest)
  | deliveries (ds : List Delivery)
  | ids (l : List Nat)
  | ended (e : CallEnd)
  | drained (r : BridgeM.DrainReport)
  | failures (fs : List ScriptException)

/-- The program of an operation. -/
def Operation.program : Operation → BridgeM Answer
  | createNamespace name => .handle <$> BridgeM.createNamespace name
  | globalObject => .handle <$> BridgeM.globalObject
  | hostNamespace => .handle <$> BridgeM.hostNamespace
  | evalSource filename source isModule => .handle <$> BridgeM.evalSource filename source isModule
  | eval source => .handle <$> BridgeM.eval source
  | evaluateUnit u => .handle <$> BridgeM.evaluateUnit u
  | evalBlob blob => .handle <$> BridgeM.evalBlob blob
  | loadBlob blob => .handle <$> BridgeM.loadBlob blob
  | loadSource filename source => .handle <$> BridgeM.loadSource filename source
  | registerModule blob => .text <$> BridgeM.registerModule blob
  | loadedModules => .texts <$> BridgeM.loadedModules
  | callMethod target name args => .handle <$> BridgeM.callMethod target name args
  | getProperty target name => .handle <$> BridgeM.getProperty target name
  | getString h => .text <$> BridgeM.getString h
  | newString text => .handle <$> BridgeM.newString text
  | getNumber h => .number <$> BridgeM.getNumber h
  | newNumber x => .handle <$> BridgeM.newNumber x
  | toJson h => .json <$> BridgeM.toJson h
  | fromJson j => .handle <$> BridgeM.fromJson j
  | valueKind h => .kind <$> BridgeM.valueKind h
  | release h => (fun _ => .done) <$> BridgeM.release h
  | liveHandles => .count <$> BridgeM.liveHandles
  | promiseResult h => .handle <$> BridgeM.promiseResult h
  | promiseStatus h => .status <$> BridgeM.promiseStatus h
  | awaitPromise h => .handle <$> BridgeM.awaitPromise h
  | registerHost name arity f => .replaced <$> BridgeM.registerHost name arity f
  | hostFunctions => .functions <$> BridgeM.hostFunctions
  | setDispatcher on => (fun _ => .done) <$> BridgeM.setDispatcher on
  | takeRequests => .requests <$> BridgeM.takeRequests
  | takeDispatched => .deliveries <$> BridgeM.takeDeliveries
  | pendingCalls => .ids <$> BridgeM.pendingCalls
  | completeCall id outcome => .ended <$> BridgeM.completeCall id outcome
  | drain => .drained <$> BridgeM.drain
  | takeFailures => .failures <$> BridgeM.takeFailures
  | takeOutput => .texts <$> BridgeM.takeOutput
  | takeStdout => .texts <$> BridgeM.takeStdout

/-- One operation: what it came to, and the bridge after it. -/
def step (b : Bridge) (op : Operation) : Except BridgeError Answer × Bridge := exec op.program b

namespace Operation

/-- Whether an operation changes the ledger of async calls by itself. -/
def handlesCalls : Operation → Bool
  | setDispatcher _ | takeRequests | takeDispatched | completeCall .. => true
  | _ => false

/-- Whether an operation changes what the bridge knows of modules by itself. -/
def handlesModules : Operation → Bool
  | evalSource .. | evaluateUnit _ | evalBlob _ | loadBlob _ | loadSource .. | registerModule _ =>
    true
  | _ => false

/-- Whether an operation installs a host function. -/
def isRegistration : Operation → Bool
  | registerHost .. => true
  | _ => false

section core

variable {R : Bridge → Bridge → Prop} [IsPreorder Bridge R] (F : BridgeM.CoreFrame R)
  (op : Operation)

include F

theorem keeps_of_handlesCalls (h : op.handlesCalls = true)
    (ledger : ∀ b l, R b { b with ledger := l })
    (settle : ∀ b p v, R b { b with world := b.world.conclude p v }) : Keeps R op.program := by
  cases op with
  | setDispatcher on => exact (BridgeM.Core.updateLedger ledger _).map
  | takeRequests => exact (BridgeM.Core.updateLedger ledger _).map
  | takeDispatched => exact (BridgeM.Core.updateLedger ledger _).map
  | completeCall id o => exact (F.completeCall ledger settle id o).map
  | _ => cases h

theorem keeps_of_handlesModules (h : op.handlesModules = true)
    (table : ∀ b t, R b { b with modules := { b.modules with table := t } })
    (evaluations : ∀ b es, R b { b with modules := { b.modules with evaluations := es } })
    (namespaces : ∀ b ns, R b { b with modules := { b.modules with namespaces := ns } }) :
    Keeps R op.program := by
  cases op with
  | evalSource filename source isModule =>
    exact (F.keeps (F.evalSource table evaluations _ _ _)).map
  | evaluateUnit u => exact (F.keeps (F.evaluateUnit table _)).map
  | evalBlob blob => exact (F.keeps (F.evalBlob table evaluations _)).map
  | loadBlob blob => exact (F.keeps (F.loadBlob table evaluations namespaces _)).map
  | loadSource filename source => exact (F.keeps (F.loadSource table evaluations _ _)).map
  | registerModule blob => exact (BridgeM.Core.registerModule table _).map
  | _ => cases h

/-- Every other operation keeps what it may not see. -/
theorem keeps_of_core (hregister : op.isRegistration = true → Keeps R op.program)
    (hcalls : op.handlesCalls = true → Keeps R op.program)
    (hmodules : op.handlesModules = true → Keeps R op.program) : Keeps R op.program := by
  cases op with
  | createNamespace name => exact (F.keeps (F.createNamespace _)).map
  | globalObject => exact (F.keep _).map
  | hostNamespace => exact (Keeps.get.bind fun _ => F.keep _).map
  | evalSource filename source isModule => exact hmodules rfl
  | eval source => exact (F.keeps (F.eval _)).map
  | evaluateUnit u => exact hmodules rfl
  | evalBlob blob => exact hmodules rfl
  | loadBlob blob => exact hmodules rfl
  | loadSource filename source => exact hmodules rfl
  | registerModule blob => exact hmodules rfl
  | loadedModules => exact (Keeps.get.bind fun _ => .pure _).map
  | callMethod target name args => exact (F.keeps (F.callMethod _ _ _)).map
  | getProperty target name => exact (F.keeps (F.getProperty _ _)).map
  | getString h => exact (F.getString _).map
  | newString text => exact (F.keep _).map
  | getNumber h => exact (F.getNumber _).map
  | newNumber x => exact (F.keep _).map
  | toJson h => exact (F.toJson _).map
  | fromJson j => exact (F.keeps (F.fromJson _)).map
  | valueKind h => exact (F.valueKind _).map
  | release h => exact (F.release _).map
  | liveHandles => exact (Keeps.get.bind fun _ => .pure _).map
  | promiseResult h => exact (F.keeps (F.promiseResult _)).map
  | promiseStatus h => exact (F.promiseStatus _).map
  | awaitPromise h => exact (F.keeps (F.awaitPromise _)).map
  | registerHost name arity f => exact hregister rfl
  | hostFunctions => exact (Keeps.get.bind fun _ => .pure _).map
  | setDispatcher on => exact hcalls rfl
  | takeRequests => exact hcalls rfl
  | takeDispatched => exact hcalls rfl
  | pendingCalls => exact (Keeps.get.bind fun _ => .pure _).map
  | completeCall id outcome => exact hcalls rfl
  | drain => exact F.drain.map
  | takeFailures => exact F.takeFailures.map
  | takeOutput => exact F.takeOutput.map
  | takeStdout => exact F.takeStdout.map

end core

/-- If host functions are not seen either, there is nothing to show for their installation. -/
theorem keeps {R : Bridge → Bridge → Prop} [IsPreorder Bridge R] (F : BridgeM.Frame R)
    (op : Operation) (hcalls : op.handlesCalls = true → Keeps R op.program)
    (hmodules : op.handlesModules = true → Keeps R op.program) : Keeps R op.program := by
  refine op.keeps_of_core F.toCoreFrame (fun h => ?_) hcalls hmodules
  cases op with
  | registerHost name arity f => exact (F.registerHost name arity f).map
  | _ => cases h

end Operation

/-! ### Runs -/

/-- An operation with what it came to. -/
structure Event where
  operation : Operation
  answer : Except BridgeError Answer

/-- The runs of a bridge from its creation on: what happened, and the bridge after that. -/
inductive Run (c : BridgeConfig) : List Event → Bridge → Prop
  | create {tags tags' : TagSource} {b : Bridge} (h : create c tags = .ok (b, tags')) : Run c [] b
  | step {events : List Event} {b : Bridge} (run : Run c events b) (op : Operation) :
    Run c (events ++ [⟨op, (b.step op).1⟩]) (b.step op).2

/-- The bridge after operations, one after the other. -/
def after (b : Bridge) (ops : List Operation) : Bridge :=
  ops.foldl (fun b op => (b.step op).2) b

/-- What happens when operations are done one after the other. -/
def history (b : Bridge) : List Operation → List Event
  | [] => []
  | op :: ops => ⟨op, (b.step op).1⟩ :: (b.step op).2.history ops

theorem map_operation_history (b : Bridge) (ops : List Operation) :
    (b.history ops).map (·.operation) = ops := by
  induction ops generalizing b with
  | nil => rfl
  | cons op ops ih => rw [history, List.map_cons, ih]

theorem after_append (b : Bridge) (ops ops' : List Operation) :
    b.after (ops ++ ops') = (b.after ops).after ops' := List.foldl_append

theorem history_append (b : Bridge) (ops ops' : List Operation) :
    b.history (ops ++ ops') = b.history ops ++ (b.after ops).history ops' := by
  induction ops generalizing b with
  | nil => rfl
  | cons op ops ih => exact congrArg (List.cons _) (ih (b.step op).2)

/-- A run goes on with whatever the host does. -/
theorem Run.goes_on {c : BridgeConfig} {events : List Event} {b : Bridge} (run : Run c events b)
    (ops : List Operation) : Run c (events ++ b.history ops) (b.after ops) := by
  induction ops generalizing events b with
  | nil => simpa [history, Bridge.after] using run
  | cons op ops ih => simpa [history, Bridge.after] using ih (run.step op)

theorem Run.after {c : BridgeConfig} {events : List Event} {b : Bridge} (run : Run c events b)
    (ops : List Operation) : ∃ more, more.map (·.operation) = ops ∧
      Run c (events ++ more) (b.after ops) :=
  ⟨b.history ops, b.map_operation_history ops, run.goes_on ops⟩

end Bridge

end ScriptBridge
