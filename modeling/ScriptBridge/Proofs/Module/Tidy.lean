import ScriptBridge.Proofs.Bridge.Frame
import ScriptBridge.Proofs.Module.Loading

/-!
# Live modules are declared

A bridge gives a module to the engine only if its name is not declared.  That makes no second live
module of the name as long as the names of all live modules are declared (`Bridge.Tidy`).  While a
module is being declared it is live already, and its name is not declared yet: `excepted` are such
modules.

* `Bridge.Moves` : what later bridges keep of a bridge.
* `frame_orderly` : every run of the engine keeps a bridge tidy, but for the excepted modules.
-/

namespace ScriptBridge

open Script

namespace Bridge

variable {excepted : Nat → String → Prop} {b b' b'' : Bridge} {name : String}

/-- The names of live modules are declared, but for excepted ones. -/
structure Tidy (excepted : Nat → String → Prop) (b : Bridge) : Prop where
  table : b.modules.table.WellFormed
  declared : b.isHalted = false → ∀ (id : Nat) (m : ModuleRecord),
    b.modules.table.records[id]? = some m → m.fault = none →
    b.modules.isDeclared m.name = true ∨ excepted id m.name
  /-- The namespaces of loaded modules are objects. -/
  namespaces : ∀ name v, b.modules.namespaces.lookup name = some v → ∃ r, v = .object r

/-- The names of all live modules are declared. -/
abbrev Settled (b : Bridge) : Prop := b.Tidy fun _ _ => False

/-- The later bridge has what was known of modules before. -/
structure Moves (b b' : Bridge) : Prop where
  halted : b.isHalted = true → b'.isHalted = true
  table : b.modules.table.Extends b'.modules.table
  namespaces : ∀ name v, b.modules.namespaces.lookup name = some v →
    b'.modules.namespaces.lookup name = some v
  declared : ∀ name, b.modules.isDeclared name = true → b'.modules.isDeclared name = true

theorem Moves.refl (b : Bridge) : b.Moves b := ⟨id, .refl _, fun _ _ => id, fun _ => id⟩

theorem Moves.trans (h : b.Moves b') (h' : b'.Moves b'') : b.Moves b'' :=
  ⟨fun hb => h'.halted (h.halted hb), h.table.trans h'.table,
    fun name v hv => h'.namespaces name v (h.namespaces name v hv),
    fun name hd => h'.declared name (h.declared name hd)⟩

/-- A tidy bridge stays tidy. -/
def Orderly (excepted : Nat → String → Prop) (b b' : Bridge) : Prop :=
  b.Tidy excepted → b'.Tidy excepted ∧ b.Moves b'

instance : IsPreorder Bridge (Orderly excepted) where
  refl b hb := ⟨hb, .refl b⟩
  trans _ _ _ h h' hb := by
    obtain ⟨hb', hmoves⟩ := h hb
    obtain ⟨hb'', hmoves'⟩ := h' hb'
    exact ⟨hb'', hmoves.trans hmoves'⟩

theorem Tidy.mono {excepted' : Nat → String → Prop} (h : b.Tidy excepted)
    (hsub : ∀ id name, excepted id name → excepted' id name) : b.Tidy excepted' :=
  ⟨h.table, fun hb id m hm hlive => (h.declared hb id m hm hlive).imp_right (hsub id m.name),
    h.namespaces⟩

/-- A bridge whose engine was cut off takes in no modules. -/
theorem Tidy.settled_of_isHalted (h : b.Tidy excepted) (hb : b.isHalted = true) : b.Settled :=
  ⟨h.table, fun hb' => absurd (hb.symm.trans hb') nofun, h.namespaces⟩

/-- The order does not see what is not about modules. -/
theorem orderly_of_modules_eq (hmodules : b'.modules = b.modules)
    (hhalted : b'.isHalted = b.isHalted) : Orderly excepted b b' := by
  intro hb
  refine ⟨⟨?_, ?_, ?_⟩, ⟨?_, ?_, ?_, ?_⟩⟩
  · exact hmodules ▸ hb.table
  · rw [hhalted, hmodules]
    exact hb.declared
  · rw [hmodules]
    exact hb.namespaces
  · exact fun h => hhalted.trans h
  · rw [hmodules]
    exact .refl _
  · exact fun _ _ h => hmodules ▸ h
  · exact fun _ h => hmodules ▸ h

/-! ### Changes of the table -/

/-- The bridge with another table of modules. -/
def withTable (b : Bridge) (t : ModuleTable) : Bridge :=
  { b with modules := { b.modules with table := t } }

theorem isDeclared_withTable {t : ModuleTable} (ht : b.modules.table.imported ⊆ t.imported)
    (h : b.modules.isDeclared name = true) : (b.withTable t).modules.isDeclared name = true := by
  simp only [ModuleRegistry.isDeclared, Bool.or_eq_true, List.contains_eq_mem, decide_eq_true_eq]
    at h ⊢
  exact h.imp_right fun h => ht h

theorem isDeclared_of_imported (h : name ∈ b.modules.table.imported) :
    b.modules.isDeclared name = true := by
  simp [ModuleRegistry.isDeclared, h]

/-- Whatever is noted of a module declares its name, and no other name is affected. -/
theorem lookup_cons_isSome {notes : List (String × Value)} {n : String} (v : Value) :
    (List.lookup n ((name, v) :: notes)).isSome = true ↔
      n = name ∨ (notes.lookup n).isSome = true := by
  by_cases hn : n = name
  · simp [hn]
  · simp [List.lookup_cons, beq_eq_false_iff_ne.2 hn, hn]

theorem moves_withTable {t : ModuleTable} (h : b.modules.table.Extends t) :
    b.Moves (b.withTable t) :=
  ⟨id, h, fun _ _ hv => hv, fun _ => isDeclared_withTable h.imported⟩

/-- The live modules of a later table are those of the earlier one, and others that imports have
brought in. -/
theorem Tidy.withTable (hb : b.Tidy excepted) {t : ModuleTable} (ht : b.modules.table.Serves t) :
    (b.withTable t).Tidy excepted := by
  refine ⟨ht.wellFormed hb.table, fun hrun id m hm hlive => ?_, hb.namespaces⟩
  cases hold : b.modules.table.records[id]? with
  | none => exact .inl (isDeclared_of_imported (ht.imports hb.table.store_name id m hold hm))
  | some m₀ =>
    obtain ⟨m', hm', hages⟩ := ht.grown.records hold
    obtain rfl : m' = m := Option.some.inj (hm'.symm.trans hm)
    rw [hages.name]
    exact (hb.declared hrun id m₀ hold (hages.live hlive)).imp_left
      (isDeclared_withTable ht.grown.imported)

theorem orderly_withTable {t : ModuleTable} (ht : b.modules.table.Serves t) :
    Orderly excepted b (b.withTable t) :=
  fun hb => ⟨hb.withTable ht, moves_withTable ht.grown⟩

/-! ### Runs of the engine -/

theorem engineFrame_orderly (excepted : Nat → String → Prop) :
    BridgeM.EngineFrame (Orderly excepted) where
  world _ _ := orderly_of_modules_eq rfl rfl
  suspended _ _ := orderly_of_modules_eq rfl rfl
  halt _ _ hb htidy :=
    ⟨⟨htidy.table, fun _ => htidy.declared hb, htidy.namespaces⟩,
      ⟨fun h => absurd (hb.symm.trans h) nofun, .refl _, fun _ _ => id, fun _ => id⟩⟩
  insert _ _ := orderly_of_modules_eq rfl rfl
  released _ _ _ _ := orderly_of_modules_eq rfl rfl
  functions _ _ := orderly_of_modules_eq rfl rfl
  descriptors _ _ := orderly_of_modules_eq rfl rfl
  output _ _ := orderly_of_modules_eq rfl rfl
  stdout _ _ := orderly_of_modules_eq rfl rfl
  failures _ _ := orderly_of_modules_eq rfl rfl
  issue _ _ _ := orderly_of_modules_eq rfl rfl
  table b c := orderly_withTable (Loading.serves_serve b.modules.table c)

/-- **Every run of the engine keeps a bridge tidy.** -/
theorem frame_orderly (excepted : Nat → String → Prop) : BridgeM.Frame (Orderly excepted) :=
  (engineFrame_orderly excepted).frame

end Bridge

end ScriptBridge
