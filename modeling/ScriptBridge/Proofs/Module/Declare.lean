import ScriptBridge.Bridge.Units
import ScriptBridge.Proofs.Module.Evaluation
import ScriptBridge.Proofs.Module.Genuine
import ScriptBridge.Proofs.Module.Tidy

/-!
# Declaring modules

A module that the bridge gives to the engine is live before its name is declared.  Each stage of
declaring it either fails, and then the module is given up or the engine is cut off, or goes on with
that one module excepted (`Bridge.Declaring`); in the end its name is declared.

* `BridgeM.ends_declareModule` : declaring a module **leaves all settled**, whatever it comes to.
-/

namespace ScriptBridge

open Script

namespace ModuleRegistry

variable {r : ModuleRegistry} {name : String} {payload : List UInt8}

/-- The static imports of a payload are only told if it holds a module of the name. -/
theorem readModule_of_staticImports {imports : List String}
    (h : staticImports name payload = .ok imports) :
    ∃ program, readModule payload = .ok (name, program) := by
  unfold staticImports at h
  split at h
  · cases h
  · rename_i recordName program hread
    split at h
    · cases h
    · rename_i hname
      obtain rfl : recordName = name := not_not.1 hname
      exact ⟨program, hread⟩

/-- A payload that passed the check holds a module of the name. -/
theorem readModule_of_checkLinkable {a : Unit} (h : r.checkLinkable name payload = .ok a) :
    ∃ program, readModule payload = .ok (name, program) := by
  rw [checkLinkable, checkAll] at h
  obtain ⟨imports, himports, -⟩ := bind_eq_ok.1 h
  exact readModule_of_staticImports himports

end ModuleRegistry

namespace Bridge

variable {α : Type} {b b₀ : Bridge} {name : String} {id : Nat}

/-- The one module of a number, under its name. -/
def IsModule (id : Nat) (name : String) : Nat → String → Prop := fun i n => i = id ∧ n = name

/-- How a stage of declaring a module ends: all is settled, or the stage succeeded with `X`. -/
def Declaring (b₀ : Bridge) (X : α → Bridge → Prop) (r : Except BridgeError α) (b : Bridge) :
    Prop :=
  b₀.Moves b ∧ (b.Settled ∨ ∃ a, r = .ok a ∧ X a b)

variable {X : α → Bridge → Prop}

theorem Declaring.settled {e : BridgeError} (h : Declaring b₀ X (.error e) b) :
    b.Settled ∧ b₀.Moves b := by
  obtain ⟨hmoves, hb | ⟨a, ⟨⟩, -⟩⟩ := h
  exact ⟨hb, hmoves⟩

theorem Declaring.cases {a : α} (h : Declaring b₀ X (.ok a) b) :
    b₀.Moves b ∧ (b.Settled ∨ X a b) := by
  obtain ⟨hmoves, hb | ⟨a', heq, hX⟩⟩ := h
  · exact ⟨hmoves, .inl hb⟩
  · cases heq
    exact ⟨hmoves, .inr hX⟩

/-- A module that was given up is not excepted any more. -/
theorem Tidy.settled_of_givenUp (h : b.Tidy (IsModule id name))
    (hid : Loading.GivenUp id b.modules.table) : b.Settled := by
  refine ⟨h.table, fun hrun i m hm hlive => ?_, h.namespaces⟩
  obtain hdeclared | ⟨rfl, -⟩ := h.declared hrun i m hm hlive
  · exact .inl hdeclared
  · exact absurd hlive (hid m hm)

/-- A declared module is not excepted any more. -/
theorem Tidy.settled_of_declared (h : b.Tidy (IsModule id name))
    (hname : b.modules.isDeclared name = true) : b.Settled := by
  refine ⟨h.table, fun hrun i m hm hlive => .inl ?_, h.namespaces⟩
  obtain hdeclared | ⟨-, hm'⟩ := h.declared hrun i m hm hlive
  · exact hdeclared
  · exact hm' ▸ hname

theorem Settled.tidy (h : b.Settled) {excepted : Nat → String → Prop} : b.Tidy excepted :=
  h.mono fun _ _ => False.elim

/-- A module may be added under a name that is not declared. -/
theorem Settled.push (h : b.Settled) (hrun : b.isHalted = false)
    (hname : b.modules.isDeclared name = false) (program : Program) :
    let t := { b.modules.table with
      records := b.modules.table.records.push { name, program } }
    (b.withTable t).Tidy (IsModule b.modules.table.records.size name) ∧
      Loading.Unlinked b.modules.table.records.size t := by
  refine ⟨⟨h.table.push program fun {id m} hm hlive heq => ?_, fun _ i m hm hlive => ?_,
    h.namespaces⟩, fun m hm => ?_⟩
  · have hdeclared := (h.declared hrun id m hm hlive).resolve_right not_false
    rw [heq, hname] at hdeclared
    cases hdeclared
  · obtain hm | ⟨hi, rfl⟩ := ModuleTable.of_getElem?_push hm
    · exact .inl ((h.declared hrun i m hm hlive).resolve_right not_false)
    · exact .inr ⟨hi, rfl⟩
  · obtain hm | ⟨-, rfl⟩ := ModuleTable.of_getElem?_push hm
    · simp at hm
    · rfl

/-- The payload of a unit that names itself may be kept. -/
theorem Tidy.keep {excepted : Nat → String → Prop} {u : CompiledUnit} (h : b.Tidy excepted)
    (hu : u.NamesItself) : (b.withTable (b.modules.table.keep u.name u.payload)).Tidy excepted :=
  ⟨h.table.keep fun hread => hu _ _ hread, h.declared, h.namespaces⟩

theorem moves_keep (b : Bridge) (name : String) (payload : List UInt8) :
    b.Moves (b.withTable (b.modules.table.keep name payload)) :=
  moves_withTable ⟨(ModuleTable.Extends.refl _).records, List.suffix_refl _, List.Subset.refl _⟩

end Bridge

namespace BridgeM

open Bridge

variable {α : Type} {b b₀ : Bridge} {name : String} {id : Nat} {X : α → Bridge → Prop}

theorem exec_updateTable (p : Loading α) (b : Bridge) : exec (updateTable p) b =
    if b.isHalted then (.error (.engine .exhausted), b)
    else (.ok (exec p b.modules.table).1, b.withTable (exec p b.modules.table).2) := by
  rw [updateTable, exec_bind, exec_checkRunning]
  split_ifs <;> rfl

/-- How a program on the table ends as a stage of loading a module: if it fails, the engine runs
once more, for the error. -/
inductive Staged (R : Bridge → Bridge → Prop) (Q : Except ModuleFault α → ModuleTable → Prop)
    (b : Bridge) : Except BridgeError α → Bridge → Prop
  | cutOff (e : BridgeError) (hhalted : b.isHalted = true) : Staged R Q b (.error e) b
  | passed (a : α) (t : ModuleTable) (h : Q (.ok a) t) : Staged R Q b (.ok a) (b.withTable t)
  | failed (f : ModuleFault) (t : ModuleTable) (e : BridgeError) (b' : Bridge) (h : Q (.error f) t)
    (hrun : R (b.withTable t) b') : Staged R Q b (.error e) b'

theorem ends_staged {R : Bridge → Bridge → Prop} (F : Inner R) {p : Loading α}
    {Q : Except ModuleFault α → ModuleTable → Prop} (stageName : String) (s : ModuleStage)
    (hp : b.isHalted = false → Ends p b.modules.table Q) :
    Ends (tableStage stageName s p) b (Staged R Q b) := by
  have hupdate : Ends (updateTable p) b fun r b₁ =>
      b.isHalted = true ∧ (∃ e, r = .error e) ∧ b₁ = b ∨
        ∃ o t, r = .ok o ∧ b₁ = b.withTable t ∧ Q o t := by
    unfold Ends
    rw [exec_updateTable]
    split_ifs with hb
    · exact .inl ⟨hb, ⟨_, rfl⟩, rfl⟩
    · exact .inr ⟨_, _, rfl, rfl, hp (Bool.eq_false_iff.2 hb)⟩
  refine hupdate.bind ?_ ?_
  · rintro o b₁ (⟨-, ⟨_, ⟨⟩⟩, -⟩ | ⟨_, t, ⟨⟩, rfl, hQ⟩)
    cases o with
    | ok a => exact .pure (.passed a t hQ)
    | error f =>
      refine ((ends_stage_throwFault stageName s f _).and ((F.stage stageName s _).ends _)).mono ?_
      rintro _ b' ⟨⟨e, rfl⟩, hrun⟩
      exact .failed f t e b' hQ hrun
  · rintro e b₁ (⟨hb, -, rfl⟩ | ⟨_, _, ⟨⟩, -, -⟩)
    exact .cutOff e hb

/-- If a program on the table fails and all is settled then, all stays settled. -/
theorem ends_tableStage {p : Loading α} (stageName : String) (s : ModuleStage)
    (hmoves : b₀.Moves b) (hhalted : b.isHalted = true → b.Settled)
    (hp : b.isHalted = false → Ends p b.modules.table fun r t => b₀.Moves (b.withTable t) ∧
      ((b.withTable t).Settled ∨ ∃ a, r = .ok a ∧ X a (b.withTable t))) :
    Ends (tableStage stageName s p) b (Declaring b₀ X) := by
  refine (ends_staged (frame_orderly fun _ _ => False).toInner stageName s hp).mono ?_
  rintro _ _ (⟨e, hb⟩ | ⟨a, t, hmoves₁, hb₁⟩ | ⟨f, t, e, b', ⟨hmoves₁, hb₁⟩, hrun⟩)
  · exact ⟨hmoves, .inl (hhalted hb)⟩
  · refine ⟨hmoves₁, hb₁.imp_right ?_⟩
    rintro ⟨_, ⟨⟩, hX⟩
    exact ⟨a, rfl, hX⟩
  · obtain hsettled | ⟨_, ⟨⟩, -⟩ := hb₁
    obtain ⟨hsettled', hmoves'⟩ := hrun hsettled
    exact ⟨hmoves₁.trans hmoves', .inl hsettled'⟩

/-- A module that the bridge adds is the excepted one. -/
theorem ends_tableStage_add {p : Loading Nat} (stageName : String) (s : ModuleStage)
    (hb : b.Settled) (hname : b.modules.isDeclared name = false)
    (hp : Ends p b.modules.table fun r t => (∃ f, r = .error f) ∧ t = b.modules.table ∨
      ∃ program, r = .ok b.modules.table.records.size ∧
        t = { b.modules.table with records := b.modules.table.records.push { name, program } }) :
    Ends (tableStage stageName s p) b (Declaring b fun id b' =>
      b'.Tidy (IsModule id name) ∧ Loading.Unlinked id b'.modules.table) := by
  refine ends_tableStage stageName s (.refl b) (fun _ => hb) fun hrun => hp.mono ?_
  rintro r t (⟨-, rfl⟩ | ⟨program, rfl, rfl⟩)
  · exact ⟨.refl b, .inl hb⟩
  · refine ⟨moves_withTable (ModuleTable.extends_push _ _), .inr ⟨_, rfl, ?_⟩⟩
    exact hb.push hrun hname program

/-- A stage that is about the excepted module: if it fails, that one is given up. -/
theorem ends_tableStage_giveUp {p : Loading α} {P : ModuleTable → Prop} (stageName : String)
    (s : ModuleStage) (hmoves : b₀.Moves b)
    (hb : b.Settled ∨ b.Tidy (IsModule id name) ∧ Loading.Unlinked id b.modules.table)
    (hp : Ends p b.modules.table fun r t => b.modules.table.Serves t ∧
      (Loading.Unlinked id b.modules.table → Loading.After P (Loading.GivenUp id) r t)) :
    Ends (tableStage stageName s p) b (Declaring b₀ fun _ b' =>
      b'.Tidy (IsModule id name) ∧ P b'.modules.table) := by
  have htidy : b.Tidy (IsModule id name) := hb.elim (fun h => h.tidy) And.left
  refine ends_tableStage stageName s hmoves htidy.settled_of_isHalted fun _ => hp.mono ?_
  rintro r t ⟨hserves, hafter⟩
  refine ⟨hmoves.trans (moves_withTable hserves.grown), ?_⟩
  obtain hb | ⟨-, hid⟩ := hb
  · exact .inl (hb.withTable hserves)
  · cases r with
    | ok a => exact .inr ⟨a, rfl, htidy.withTable hserves, hafter hid⟩
    | error f => exact .inl ((htidy.withTable hserves).settled_of_givenUp (hafter hid))

/-- The evaluation of the excepted module starts, or the engine is cut off. -/
theorem ends_stage_declaring (stageName : String) (s : ModuleStage) (order : List Nat)
    (hmoves : b₀.Moves b) (hb : b.Settled ∨ b.Tidy (IsModule id name)) :
    Ends (stage stageName s (Proc.evaluateLinked id order)) b (Declaring b₀ fun _ b' =>
      b'.Tidy (IsModule id name)) := by
  have htidy : b.Tidy (IsModule id name) := hb.elim (fun h => h.tidy) fun h => h
  have hstage := ((frame_orderly (IsModule id name)).stage stageName s
    (Proc.evaluateLinked id order)).ends b
  refine ((ends_stage_evaluateLinked stageName s id order b).and hstage).mono ?_
  rintro r b' ⟨hended, horderly⟩
  obtain ⟨htidy', hmoves'⟩ := horderly htidy
  obtain hhalted | ⟨promise, rfl⟩ := hended
  · exact ⟨hmoves.trans hmoves', .inl (htidy'.settled_of_isHalted hhalted)⟩
  · exact ⟨hmoves.trans hmoves', .inr ⟨promise, rfl, htidy'⟩⟩

/-- The name of the excepted module is declared at the end. -/
theorem ends_noteEvaluation (promise : Value) (hmoves : b₀.Moves b)
    (hb : b.Settled ∨ b.Tidy (IsModule id name)) :
    Ends (noteEvaluation name promise) b fun _ b' => b'.Settled ∧ b₀.Moves b' := by
  have htidy : b.Tidy (IsModule id name) := hb.elim (fun h => h.tidy) fun h => h
  let noted : ModuleRegistry :=
    { b.modules with evaluations := (name, promise) :: b.modules.evaluations }
  have hold : ∀ n, b.modules.isDeclared n = true → noted.isDeclared n = true := by
    intro n hn
    simp only [ModuleRegistry.isDeclared, Bool.or_eq_true] at hn ⊢
    exact hn.imp_left fun hn => hn.imp_right fun hn => (lookup_cons_isSome promise).2 (.inr hn)
  have hnew : noted.isDeclared name = true := by
    simp only [ModuleRegistry.isDeclared, Bool.or_eq_true]
    exact .inl (.inr ((lookup_cons_isSome promise).2 (.inl rfl)))
  have htidy' : { b with modules := noted }.Tidy (IsModule id name) :=
    ⟨htidy.table, fun hrun i m hm hlive => (htidy.declared hrun i m hm hlive).imp_left (hold _),
      htidy.namespaces⟩
  have hmoves' : b.Moves { b with modules := noted } :=
    ⟨fun h => h, .refl _, fun _ _ h => h, hold⟩
  exact ⟨htidy'.settled_of_declared hnew, hmoves.trans hmoves'⟩

/-- The last stages of declaring a module. -/
theorem ends_evaluation (stageName : String) (s : ModuleStage) (hmoves : b₀.Moves b)
    (hb : b.Settled ∨ b.Tidy (IsModule id name) ∧ Loading.Unlinked id b.modules.table)
    {next : Value → BridgeM α}
    (hnext : ∀ promise b', b'.Settled ∧ b₀.Moves b' →
      Ends (next promise) b' fun _ b'' => b''.Settled ∧ b₀.Moves b'') :
    Ends (do
      let order ← tableStage stageName s ((Loading.link id).orAbandon id)
      let promise ← stage stageName s (Proc.evaluateLinked id order)
      noteEvaluation name promise
      next promise) b fun _ b' => b'.Settled ∧ b₀.Moves b' := by
  refine (ends_tableStage_giveUp stageName s hmoves hb
    (Loading.ends_orAbandon (Loading.ends_link_after id _))).bind ?_ fun _ _ h => h.settled
  intro order b₁ h₁
  obtain ⟨hmoves₁, hb₁⟩ := h₁.cases
  refine (ends_stage_declaring stageName s order hmoves₁ (hb₁.imp_right And.left)).bind ?_
    fun _ _ h => h.settled
  intro promise b₂ h₂
  obtain ⟨hmoves₂, hb₂⟩ := h₂.cases
  exact (ends_noteEvaluation promise hmoves₂ hb₂).bind (fun _ b₃ h₃ => hnext promise b₃ h₃)
    fun _ _ h => h

/-- **Declaring a unit leaves all settled**, whether it succeeds or fails. -/
theorem ends_declareModule {u : CompiledUnit} (hb : b.Settled)
    (hname : b.modules.isDeclared u.name = false) :
    Ends (declareModule u) b fun _ b' => b'.Settled ∧ b.Moves b' := by
  refine .get_bind ?_
  split
  · exact .throw ⟨hb, .refl b⟩
  · rename_i hcheck
    obtain ⟨program, hread⟩ := ModuleRegistry.readModule_of_checkLinkable hcheck
    have hu : u.NamesItself := fun name p h => by
      rw [hread] at h
      cases h
      rfl
    refine (ends_tableStage_add u.name .nameExtraction hb hname ?_).bind ?_ fun _ _ h => h.settled
    · unfold Ends
      rw [Loading.exec_read, hread]
      exact .inr ⟨program, rfl, rfl⟩
    · intro id b₁ h₁
      obtain ⟨hmoves₁, hb₁⟩ := h₁.cases
      refine .modify_bind ?_
      have hmoves₂ := hmoves₁.trans (moves_keep b₁ u.name u.payload)
      have hb₂ := hb₁.imp (fun h => h.keep hu) (And.imp_left fun h => h.keep hu)
      refine (ends_tableStage_giveUp u.name .resolution hmoves₂ hb₂
        (Loading.ends_orAbandon (Loading.ends_resolve id _))).bind ?_ fun _ _ h => h.settled
      intro _ b₃ h₃
      obtain ⟨hmoves₃, hb₃⟩ := h₃.cases
      exact ends_evaluation u.name .evaluation hmoves₃ hb₃ fun _ _ h => .pure h

end BridgeM

end ScriptBridge
