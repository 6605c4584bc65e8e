import ScriptBridge.Proofs.Bridge.Registration
import ScriptBridge.Proofs.Bridge.Run

/-!
# The books of host functions

A host may install functions under any names, again and again, and do anything else in between.  As
long as scripts leave the namespace object alone, and no name leads to a setter, the namespace
object has the async entry point and one property for every descriptor: that of the function that
was installed last under the name.

* `HostRun b₀ events b` : a run of that kind.
* `HostRun.books` : every step of it keeps the books.
* `Bridge.hostRun_history` : installing functions under any names but that of the prototype, and
  nothing else, is such a run.
* `Bridge.registrations_keep_books` : **throughout such a run the books are right**, and what comes
  next is refused or done.
-/

namespace ScriptBridge

open Script

namespace Bridge

variable {b b' b₀ : Bridge} {events : List Event} {name : String}

/-! ### Everything else that a host does -/

/-- What the bridge itself knows of host functions is as it was, but for the number of calls. -/
structure SameFunctions (b b' : Bridge) : Prop where
  config : b'.config = b.config
  namespaceObject : b'.namespaceObject = b.namespaceObject
  descriptors : b'.descriptors = b.descriptors
  functions : ∀ id : Nat, (b'.functions[id]?).map (·.run) = (b.functions[id]?).map (·.run)

instance : IsPreorder Bridge SameFunctions where
  refl _ := ⟨rfl, rfl, rfl, fun _ => rfl⟩
  trans _ _ _ h h' := ⟨h'.config.trans h.config, h'.namespaceObject.trans h.namespaceObject,
    h'.descriptors.trans h.descriptors, fun id => (h'.functions id).trans (h.functions id)⟩

theorem SameFunctions.of_eq (hconfig : b'.config = b.config)
    (hnamespaceObject : b'.namespaceObject = b.namespaceObject)
    (hdescriptors : b'.descriptors = b.descriptors) (hfunctions : b'.functions = b.functions) :
    SameFunctions b b' :=
  ⟨hconfig, hnamespaceObject, hdescriptors, fun id => by rw [hfunctions]⟩

/-- Scripts only count calls. -/
theorem coreFrame_sameFunctions : BridgeM.CoreFrame SameFunctions where
  toCore := BridgeM.CoreEngine.core {
    world := fun _ _ => .of_eq rfl rfl rfl rfl
    suspended := fun _ _ => .of_eq rfl rfl rfl rfl
    halt := fun _ _ _ => .of_eq rfl rfl rfl rfl
    called := fun b id => ⟨rfl, rfl, rfl, fun i => by
      rw [Array.getElem?_modify]
      split_ifs
      · rw [Option.map_map]
        rfl
      · rfl⟩
    output := fun _ _ => .of_eq rfl rfl rfl rfl
    stdout := fun _ _ => .of_eq rfl rfl rfl rfl
    failures := fun _ _ => .of_eq rfl rfl rfl rfl
    issue := fun _ _ _ => .of_eq rfl rfl rfl rfl
    table := fun _ _ => .of_eq rfl rfl rfl rfl }
  insert _ _ := .of_eq rfl rfl rfl rfl
  released _ _ _ _ := .of_eq rfl rfl rfl rfl

/-- Whatever the host does apart from installing functions. -/
theorem sameFunctions_step {op : Operation} (hop : op.isRegistration = false) (b : Bridge) :
    SameFunctions b (b.step op).2 := by
  have F := coreFrame_sameFunctions
  refine op.keeps_of_core F (fun h => ?_) (fun h => ?_) (fun h => ?_) b
  · rw [hop] at h
    cases h
  · exact op.keeps_of_handlesCalls F h (fun _ _ => .of_eq rfl rfl rfl rfl)
      fun _ _ _ => .of_eq rfl rfl rfl rfl
  · exact op.keeps_of_handlesModules F h (fun _ _ => .of_eq rfl rfl rfl rfl)
      (fun _ _ => .of_eq rfl rfl rfl rfl) fun _ _ => .of_eq rfl rfl rfl rfl

/-! ### Runs -/

theorem LeavesNamespace.undisturbed (h : b.LeavesNamespace b') (hsame : SameFunctions b b') :
    b.Undisturbed b' where
  toLeavesNamespace := h
  config := hsame.config
  namespaceObject := hsame.namespaceObject
  descriptors := hsame.descriptors
  functions id _ hf := (hsame.functions id).trans hf

/-- An assignment to the name leads to no setter. -/
def FindsNoSetter (b : Bridge) (name : String) : Prop := ∃ writable, b.Assigns name writable

/-- What a host does from a bridge on, where names lead to no setters and scripts leave the
namespace object alone. -/
inductive HostRun (b₀ : Bridge) : List Event → Bridge → Prop
  | start : HostRun b₀ [] b₀
  | register {events : List Event} {b : Bridge} (run : HostRun b₀ events b) {name : String}
    (hfree : b.FindsNoSetter name) (arity : Nat) (f : HostFunction) :
    HostRun b₀ (events ++ [⟨.registerHost name arity f, (b.step (.registerHost name arity f)).1⟩])
      (b.step (.registerHost name arity f)).2
  | other {events : List Event} {b : Bridge} (run : HostRun b₀ events b) {op : Operation}
    (hop : op.isRegistration = false) (hleaves : b.LeavesNamespace (b.step op).2) :
    HostRun b₀ (events ++ [⟨op, (b.step op).1⟩]) (b.step op).2

/-- The function that was installed under a name, with its arity. -/
def Event.registers? (name : String) : Event → Option (Nat × HostFunction)
  | ⟨.registerHost name' arity f, .ok _⟩ => if name' = name then some (arity, f) else none
  | _ => none

/-- The function that was installed last under a name. -/
def installedBy (events : List Event) (name : String) : Option (Nat × HostFunction) :=
  (events.filterMap (·.registers? name)).getLast?

theorem installedBy_append (events : List Event) (event : Event) (name : String) :
    installedBy (events ++ [event]) name =
      (event.registers? name).or (installedBy events name) := by
  rw [installedBy, List.filterMap_append, List.getLast?_append]
  refine congrArg (Option.or · _) ?_
  cases h : event.registers? name with
  | none => rw [List.filterMap_cons_none h]; rfl
  | some x => rw [List.filterMap_cons_some h]; rfl

theorem installedBy_of_none {event : Event} (h : ∀ name, event.registers? name = none)
    (events : List Event) : installedBy (events ++ [event]) = installedBy events := by
  funext name
  rw [installedBy_append, h, Option.none_or]

theorem installedBy_registered (events : List Event) (name : String) (arity : Nat)
    (f : HostFunction) (a : Answer) :
    installedBy (events ++ [⟨.registerHost name arity f, .ok a⟩]) =
      Function.update (installedBy events) name (some (arity, f)) := by
  funext name'
  rw [installedBy_append, Event.registers?]
  by_cases h : name' = name
  · subst h
    rw [if_pos rfl, Function.update_self, Option.some_or]
  · rw [if_neg (Ne.symm h), Function.update_of_ne h, Option.none_or]

theorem step_registerHost (b : Bridge) (name : String) (arity : Nat) (f : HostFunction) :
    b.step (.registerHost name arity f) =
      ((exec (BridgeM.registerHost name arity f) b).1.map .replaced,
        (exec (BridgeM.registerHost name arity f) b).2) := exec_map _ _ b

/-! ### One more step -/

namespace HostBooks

variable {entry : Ref}

/-- An installation, whatever it comes to, keeps the books. -/
theorem step_registerHost (h : b.HostBooks entry (installedBy events))
    (hfree : b.FindsNoSetter name) (arity : Nat) (f : HostFunction) :
    (b.step (.registerHost name arity f)).2.HostBooks entry (installedBy
        (events ++ [⟨.registerHost name arity f, (b.step (.registerHost name arity f)).1⟩])) := by
  obtain ⟨writable, hassigns⟩ := hfree
  have hends := ends_registerHost hassigns h.ordinary arity f
  rw [Ends] at hends
  rw [Bridge.step_registerHost]
  cases hresult : (exec (BridgeM.registerHost name arity f) b).1 with
  | error e =>
    -- a failure does not count as an installation
    rw [hresult] at hends
    have hevent : ∀ name', Event.registers? name'
        ⟨.registerHost name arity f, (.error e : Except _ _).map Answer.replaced⟩ = none :=
      fun _ => rfl
    rw [installedBy_of_none hevent]
    exact h.undisturbed hends.undisturbed
  | ok d =>
    rw [hresult] at hends
    obtain ⟨hentry, -, hafter⟩ := hends.eq_of_ok
    rw [hafter, Except.map, installedBy_registered]
    exact h.withFunction hentry arity f

/-- Everything else keeps the books if scripts leave the namespace object alone. -/
theorem step_other (h : b.HostBooks entry (installedBy events)) {op : Operation}
    (hop : op.isRegistration = false) (hleaves : b.LeavesNamespace (b.step op).2) :
    (b.step op).2.HostBooks entry (installedBy (events ++ [⟨op, (b.step op).1⟩])) := by
  have hevent : ∀ name, Event.registers? name ⟨op, (b.step op).1⟩ = none := by
    intro name
    cases op with
    | registerHost => cases hop
    | _ => rfl
  rw [installedBy_of_none hevent]
  exact h.undisturbed (hleaves.undisturbed (sameFunctions_step hop b))

end HostBooks

/-! ### New bridges -/

/-- The books of a new bridge: nothing was installed. -/
theorem Installed.books {c : BridgeConfig} {w : World} {ns : Ref}
    (h : Installed c w b.world ns) (hconfig : b.config = c) (hns : b.namespaceObject = ns)
    (hdescriptors : b.descriptors = []) :
    ∃ entry, b.HostBooks entry (fun _ => none) := by
  obtain ⟨entry, hrecord, hentry⟩ := h.entry
  subst hns hconfig
  have hget : b.namespaceRecord = namespaceOf b.config entry := World.getD_of_getElem? hrecord
  have hlt := (Array.getElem?_eq_some_iff.1 hrecord).1
  refine ⟨entry, hlt, ?_, ?_, ?_, ?_, ?_, ?_, fun name arity f hf => ?_⟩
  · rw [hget, ← assigned_emptyObject]
    exact isOrdinary_emptyObject.assigned _ _
  · rw [bound, hget, ← assigned_emptyObject, Object.assigned, Object.find?_put rfl, if_pos rfl,
      find?_emptyObject]
  · exact Option.map_eq_some_iff.2 ⟨_, hentry, rfl⟩
  · rw [hget, hdescriptors]
    exact .refl _
  · rw [hdescriptors]
    exact .nil
  · rw [hdescriptors]
    exact List.forall_mem_nil _
  · cases hf

theorem exists_books_create {c : BridgeConfig} {tags tags' : TagSource}
    (h : create c tags = .ok (b, tags')) (hentry : c.asyncEntry ≠ "__proto__")
    (hns : c.hostNamespace ≠ "__proto__") : b.config = c ∧ b.world.Ordinary ∧ b.isHalted = false ∧
      ∃ entry, b.HostBooks entry (fun _ => none) := by
  obtain ⟨ns, w, hinstalled, rfl⟩ := create_eq_ok h hentry hns
  exact ⟨rfl, hinstalled.ordinary, rfl, hinstalled.books rfl rfl rfl⟩

/-! ### Whole runs -/

/-- Throughout a run the books are right, of the same object and with the same entry point. -/
theorem HostRun.books {entry : Ref} (run : HostRun b₀ events b)
    (h : b₀.HostBooks entry (fun _ => none)) : b.HostBooks entry (installedBy events) ∧
      b.config = b₀.config ∧ b.namespaceObject = b₀.namespaceObject := by
  -- along the run; beside the books, the entry point keeps its name and the object its place
  induction run with
  | start => exact ⟨h, rfl, rfl⟩
  | @register events b _ name hfree arity f ih =>
    obtain ⟨hbooks, hconfig, hobject⟩ := ih
    obtain ⟨writable, hassigns⟩ := hfree
    obtain ⟨hsame, hplace⟩ := (ends_registerHost hassigns hbooks.ordinary arity f).settings
    refine ⟨hbooks.step_registerHost ⟨writable, hassigns⟩ arity f, ?_, ?_⟩
    · rw [step_registerHost]
      exact hsame.trans hconfig
    · rw [step_registerHost]
      exact hplace.trans hobject
  | @other events b _ op hop hleaves ih =>
    obtain ⟨hbooks, hconfig, hobject⟩ := ih
    have hsame := sameFunctions_step hop b
    exact ⟨hbooks.step_other hop hleaves, hsame.config.trans hconfig,
      hsame.namespaceObject.trans hobject⟩

/-- What an attempt to install a function comes to. -/
structure Installs (b : Bridge) (name : String) (r : Except BridgeError (Option HostDescriptor))
    (b' : Bridge) : Prop where
  empty : name = "" → r = .error (.invalidArgument .emptyFunctionName)
  reserved : name ≠ "" → name = b.config.asyncEntry →
    r = .error (.invalidArgument (.reservedName name))
  /-- Nothing else is refused, unless the engine was cut off or the property cannot be written. -/
  done : name ≠ "" → name ≠ b.config.asyncEntry → b.isHalted = false → b.Assigns name true →
    ∃ d, r = .ok d
  replaced : ∀ d, r = .ok d → d = b.descriptors.find? fun d => d.name = name
  failed : ∀ e, r = .error e → b'.namespaceObject = b.namespaceObject ∧
    b'.namespaceRecord = b.namespaceRecord ∧ b'.descriptors = b.descriptors

theorem HostBooks.ends_installs {entry : Ref} {installed : String → Option (Nat × HostFunction)}
    (h : b.HostBooks entry installed) (hfree : b.FindsNoSetter name) (arity : Nat)
    (f : HostFunction) : Ends (BridgeM.registerHost name arity f) b (b.Installs name) := by
  obtain ⟨writable, hassigns⟩ := hfree
  have hr := ends_registerHost hassigns h.ordinary arity f
  rw [Ends] at hr ⊢
  refine ⟨hr.eq_of_empty, hr.eq_of_reserved, fun hne hentry hb hwritable => ?_, fun d hd => ?_,
    fun e he => ?_⟩
  · exact (ends_registerHost hwritable h.ordinary arity f).exists_ok hne hentry hb
  · rw [hd] at hr
    exact hr.eq_of_ok.2.1
  · rw [he] at hr
    have hsame := hr.undisturbed
    exact ⟨hsame.namespaceObject, hsame.namespaceRecord h.inWorld, hsame.descriptors⟩

/-! ### Installing functions and nothing else -/

/-- A run goes on with whatever functions the host installs, under any names but one. -/
theorem HostRun.history {entry : Ref} {ops : List Operation} (run : HostRun b₀ events b)
    (h : b.HostBooks entry (installedBy events)) (hw : b.world.Ordinary) (hb : b.isHalted = false)
    (hops : ∀ op ∈ ops, ∃ name arity f, op = .registerHost name arity f ∧ name ≠ "__proto__") :
    HostRun b₀ (events ++ b.history ops) (b.after ops) ∧ (b.after ops).world.Ordinary ∧
      (b.after ops).isHalted = false := by
  induction ops generalizing events b with
  | nil =>
    rw [Bridge.history, List.append_nil]
    exact ⟨run, hw, hb⟩
  | cons op ops ih =>
    obtain ⟨⟨name, arity, f, rfl, hname⟩, hrest⟩ := List.forall_mem_cons.1 hops
    have hassigns := h.assigns hw hname
    obtain ⟨hw', hb'⟩ := (ends_registerHost hassigns h.ordinary arity f).ordinary h hw
    have hnext := ih (run.register ⟨true, hassigns⟩ arity f)
      (h.step_registerHost ⟨true, hassigns⟩ arity f) (by rwa [step_registerHost])
      (by rw [step_registerHost, hb', hb]) hrest
    -- the first event of the history is the last one of the run before
    rwa [List.append_assoc] at hnext

/-- The books tell the descriptor of a name. -/
theorem HostBooks.find?_descriptors {entry : Ref} {installed : String → Option (Nat × HostFunction)}
    (h : b.HostBooks entry installed) (name : String) :
    (b.descriptors.find? fun d => d.name = name) = (installed name).map fun p => ⟨name, p.1⟩ := by
  cases hfind : b.descriptors.find? fun d => d.name = name with
  | none =>
    rw [List.find?_eq_none] at hfind
    cases hinstalled : installed name with
    | none => rfl
    | some p => exact absurd (decide_eq_true rfl) (hfind _ (h.listed name p.1 p.2 hinstalled))
  | some d =>
    have hname := List.find?_some hfind
    obtain rfl : d.name = name := of_decide_eq_true hname
    obtain ⟨f, hf, -⟩ := h.binds d (List.mem_of_find?_eq_some hfind)
    rw [hf]
    rfl

/-- **On a new bridge a host may install whatever functions it likes**, under any names but that of
the prototype: the books are right, only the empty and the reserved name are refused, and otherwise
the host is told what was replaced. -/
theorem hostRun_history {c : BridgeConfig} {tags tags' : TagSource} {ops : List Operation}
    (hcreate : create c tags = .ok (b₀, tags')) (hentry : c.asyncEntry ≠ "__proto__")
    (hns : c.hostNamespace ≠ "__proto__")
    (hops : ∀ op ∈ ops, ∃ name arity f, op = .registerHost name arity f ∧ name ≠ "__proto__") :
    HostRun b₀ (b₀.history ops) (b₀.after ops) ∧ ∀ name arity f, name ≠ "__proto__" →
      ((b₀.after ops).step (.registerHost name arity f)).1 =
        if name = "" then .error (.invalidArgument .emptyFunctionName)
        else if name = c.asyncEntry then .error (.invalidArgument (.reservedName name))
        else .ok (.replaced ((installedBy (b₀.history ops) name).map fun p => ⟨name, p.1⟩)) := by
  obtain ⟨hconfig, hw, hb, entry, hnew⟩ := exists_books_create hcreate hentry hns
  obtain ⟨run, hw', hb'⟩ := HostRun.history .start hnew hw hb hops
  rw [List.nil_append] at run
  refine ⟨run, fun name arity f hname => ?_⟩
  obtain ⟨hbooks, hsame, -⟩ := run.books hnew
  have hassigns := hbooks.assigns hw' hname
  have hinstalls : Ends _ _ _ := hbooks.ends_installs ⟨true, hassigns⟩ arity f
  rw [step_registerHost, ← hconfig, ← hsame, ← hbooks.find?_descriptors]
  split_ifs with hempty hreserved
  · rw [hinstalls.empty hempty]
    rfl
  · rw [hinstalls.reserved hempty hreserved]
    rfl
  · obtain ⟨d, hd⟩ := hinstalls.done hempty hreserved hb' hassigns
    rw [hd, hinstalls.replaced d hd]
    rfl

/-! ### What a host can rely on -/

/-- The books of a bridge after what happened since it was created. -/
structure KeepsBooks (c : BridgeConfig) (b₀ : Bridge) (events : List Event) (b : Bridge) :
    Prop where
  config : b.config = c
  namespaceObject : b.namespaceObject = b₀.namespaceObject
  books : ∃ entry, b₀.HostBooks entry (fun _ => none) ∧ b.HostBooks entry (installedBy events)
  told : b.step .hostFunctions = (.ok (.functions b.descriptors), b)
  next : ∀ name, b.FindsNoSetter name → ∀ arity f,
    Ends (BridgeM.registerHost name arity f) b (b.Installs name)

/-- **The books of host functions are right throughout every run** where names lead to no setters
and scripts leave the namespace object alone. -/
theorem registrations_keep_books {c : BridgeConfig} {tags tags' : TagSource}
    (hcreate : create c tags = .ok (b₀, tags')) (hentry : c.asyncEntry ≠ "__proto__")
    (hns : c.hostNamespace ≠ "__proto__") (run : HostRun b₀ events b) :
    KeepsBooks c b₀ events b := by
  obtain ⟨hconfig, -, -, entry, hnew⟩ := exists_books_create hcreate hentry hns
  obtain ⟨hbooks, hsame, hobject⟩ := run.books hnew
  exact ⟨hsame.trans hconfig, hobject, ⟨entry, hnew, hbooks⟩, rfl,
    fun name hfree => hbooks.ends_installs hfree⟩

/-- It holds of a new bridge on which a function was installed, then another one under the same
name, and then one under the reserved name, which was refused. -/
theorem registrations_keep_books_created : ∃ b₀ tags events b f g,
    create {} {} = .ok (b₀, tags) ∧ HostRun b₀ events b ∧
    events = [⟨.registerHost "f" 2 f, .ok (.replaced none)⟩,
      ⟨.registerHost "f" 3 g, .ok (.replaced (some ⟨"f", 2⟩))⟩,
      ⟨.registerHost "callHostAsync" 1 f,
        .error (.invalidArgument (.reservedName "callHostAsync"))⟩] ∧
    KeepsBooks {} b₀ events b ∧
    b.descriptors.find? (fun d => d.name = "f") = some ⟨"f", 3⟩ ∧
    b.descriptors.find? (fun d => d.name = "callHostAsync") = none := by
  obtain ⟨b₀, tags, hcreate⟩ := exists_create
  let f : HostFunction := fun _ _ => .ok .null
  let g : HostFunction := fun calls _ => .ok (.ofInt calls)
  let ops : List Operation :=
    [.registerHost "f" 2 f, .registerHost "f" 3 g, .registerHost "callHostAsync" 1 f]
  have hops : ∀ op ∈ ops, ∃ name arity f, op = .registerHost name arity f ∧ name ≠ "__proto__" := by
    simp [ops]
  have hnext (n : Nat) := hostRun_history hcreate (by decide) (by decide)
    fun op (hop : op ∈ ops.take n) => hops op (List.mem_of_mem_take hop)
  -- what each of the three comes to is told by what was installed before it
  have hfirst : (b₀.step (.registerHost "f" 2 f)).1 = .ok (.replaced none) :=
    (hnext 0).2 "f" 2 f (by decide)
  let b₁ := (b₀.step (.registerHost "f" 2 f)).2
  have hsecond : (b₁.step (.registerHost "f" 3 g)).1 = .ok (.replaced (some ⟨"f", 2⟩)) := by
    have hanswer := (hnext 1).2 "f" 3 g (by decide)
    simp only [ops, List.take_succ_cons, List.take_zero, Bridge.history, hfirst] at hanswer
    exact hanswer
  let b₂ := (b₁.step (.registerHost "f" 3 g)).2
  have hthird : (b₂.step (.registerHost "callHostAsync" 1 f)).1 =
      .error (.invalidArgument (.reservedName "callHostAsync")) :=
    (hnext 2).2 "callHostAsync" 1 f (by decide)
  have hevents : b₀.history ops = [⟨.registerHost "f" 2 f, .ok (.replaced none)⟩,
      ⟨.registerHost "f" 3 g, .ok (.replaced (some ⟨"f", 2⟩))⟩,
      ⟨.registerHost "callHostAsync" 1 f,
        .error (.invalidArgument (.reservedName "callHostAsync"))⟩] := by
    change [Event.mk _ (b₀.step _).1, Event.mk _ (b₁.step _).1, Event.mk _ (b₂.step _).1] = _
    rw [hfirst, hsecond, hthird]
  obtain ⟨run, -⟩ := hnext 3
  have hkeeps := registrations_keep_books hcreate (by decide) (by decide) run
  obtain ⟨entry, -, hbooks⟩ := hkeeps.books
  rw [show b₀.history (ops.take 3) = _ from hevents] at hbooks
  refine ⟨b₀, tags, _, _, f, g, hcreate, run, hevents, hkeeps, ?_, ?_⟩
  · rw [hbooks.find?_descriptors]
    rfl
  · rw [hbooks.find?_descriptors]
    rfl

end Bridge

end ScriptBridge
