import ScriptBridge.Proofs.Module.Once
import ScriptBridge.Proofs.Module.Trace

/-!
# Declared modules and what they import

A module that is imported is declared before its own imports are found, so a declared module may ask
for names that are not declared: where its search broke off, and where what it found was given up.
These are the only gaps.

* `Bridge.declared_closed` : a declared module **has all its imports declared** if it has found them
  all and none was given up; so has each module that the bridge itself ran.
-/

namespace ScriptBridge

open Script ModuleTable

/-- The names that the imports of a module resolve to, in the order of its text. -/
def Script.ModuleRecord.importNames (m : ModuleRecord) : List String :=
  m.program.requests.map fun s => ModuleName.resolve m.name s.beforeNul.toStringLossy

/-- What a module has found at a place has the name that its import there resolves to. -/
theorem Script.ModuleTable.Answers.importNames {t : ModuleTable} {m : ModuleRecord}
    {place found : Nat} (h : t.Answers m place found) :
    ∃ n, t.records[found]? = some n ∧ m.importNames[place]? = some n.name := by
  obtain ⟨s, specifier, n, hs, hspecifier, hn, hname⟩ := h
  have htext : s.beforeNul.toStringLossy = specifier := by
    unfold specifierText at hspecifier
    split at hspecifier
    · rename_i t ht
      obtain rfl : t = specifier := Except.ok.inj hspecifier
      exact Str.toStringLossy_of_toString? ht
    · cases hspecifier
  refine ⟨n, hn, ?_⟩
  rw [ModuleRecord.importNames, List.getElem?_map, hs, Option.map_some, htext, hname]

namespace Bridge

variable {c : BridgeConfig} {events : List Event} {b : Bridge}

/-- All that the module imports is declared. -/
def HasImports (b : Bridge) (m : ModuleRecord) : Prop :=
  ∀ name ∈ m.importNames, b.modules.isDeclared name = true

/-- How far declared modules are closed under imports. -/
structure DeclaredClosed (b : Bridge) : Prop where
  /-- There is a module of each declared name. -/
  present : ∀ name, b.modules.isDeclared name = true → b.modules.table.HasName name
  /-- What a module has found at a place is what it imports there, and declared if it was not given
  up. -/
  found : ∀ {id : Nat} {m : ModuleRecord} {place target : Nat},
    b.modules.table.records[id]? = some m → (m.requested.getD [])[place]? = some target →
    ∃ n, b.modules.table.records[target]? = some n ∧ m.importNames[place]? = some n.name ∧
      (n.fault = none → b.modules.isDeclared n.name = true)
  /-- A module that has found all, and of that nothing was given up, has its imports declared. -/
  closed : ∀ {id : Nat} {m : ModuleRecord}, b.modules.table.records[id]? = some m → m.IsWhole →
    (∀ target ∈ m.requested.getD [], ∃ n, b.modules.table.records[target]? = some n ∧
      n.fault = none) → b.HasImports m
  /-- The modules that the bridge ran have their imports declared. -/
  ran : ∀ {name : String} {promise : Value}, b.modules.evaluations.lookup name = some promise →
    ∃ (id : Nat) (m : ModuleRecord), b.modules.table.records[id]? = some m ∧ m.name = name ∧
      b.HasImports m

theorem Traced.present (hb : b.Traced) {name : String} (h : b.modules.isDeclared name = true) :
    b.modules.table.HasName name := by
  have hbrought : b.Brought name := by
    cases hlookup : b.modules.namespaces.lookup name with
    | none => exact BridgeM.brought_of_isDeclared h hlookup
    | some ns => exact hb.loaded name (by simp [hlookup])
  obtain hran | himported := hbrought
  · obtain ⟨promise, hpromise⟩ := Option.isSome_iff_exists.1 hran
    obtain ⟨id, m, hm, hname, -⟩ := hb.ran name promise hpromise
    exact ⟨id, m, hm, hname⟩
  · exact hb.searched.imported name himported

/-- What a module imports is declared as far as it was found and not given up. -/
theorem Traced.found (hb : b.Traced) (hsettled : b.Settled) (hrun : b.isHalted = false) {id : Nat}
    {m : ModuleRecord} {place target : Nat} (hm : b.modules.table.records[id]? = some m)
    (htarget : (m.requested.getD [])[place]? = some target) :
    ∃ n, b.modules.table.records[target]? = some n ∧ m.importNames[place]? = some n.name ∧
      (n.fault = none → b.modules.isDeclared n.name = true) := by
  obtain ⟨n, hn, hname⟩ := (hb.searched.found id m place target hm htarget).importNames
  exact ⟨n, hn, hname, fun hlive => (hsettled.declared hrun target n hn hlive).resolve_right
    not_false⟩

theorem Traced.closed (hb : b.Traced) (hsettled : b.Settled) (hrun : b.isHalted = false) {id : Nat}
    {m : ModuleRecord} (hm : b.modules.table.records[id]? = some m) (hwhole : m.IsWhole)
    (hlive : ∀ target ∈ m.requested.getD [], ∃ n, b.modules.table.records[target]? = some n ∧
      n.fault = none) : b.HasImports m := by
  intro name hname
  obtain ⟨place, hplace, rfl⟩ := List.mem_iff_getElem.1 hname
  obtain ⟨l, hl, hlength⟩ := hwhole
  have hlt : place < l.length := by
    rw [ModuleRecord.importNames, List.length_map] at hplace
    omega
  have htarget : (m.requested.getD [])[place]? = some l[place] := by simp [hl, hlt]
  obtain ⟨n, hn, hat, hdeclared⟩ := hb.found hsettled hrun hm htarget
  rw [List.getElem?_eq_getElem hplace, Option.some_inj] at hat
  rw [hat]
  obtain ⟨n', hn', hfault⟩ := hlive l[place] (List.mem_of_getElem? htarget)
  obtain rfl : n' = n := Option.some.inj (hn'.symm.trans hn)
  exact hdeclared hfault

/-- **Declared modules are closed under imports**, but for searches that broke off and for modules
that were given up. -/
theorem declared_closed (run : Run c events b) (h : ∀ e ∈ events, e.operation.Honest)
    (hrun : b.isHalted = false) : DeclaredClosed b := by
  have htraced : b.Traced := run.traced fun e he => (h e he).names
  have hsettled : b.Settled := (run.ordered h).settled
  refine ⟨fun name => htraced.present, htraced.found hsettled hrun,
    htraced.closed hsettled hrun, fun {name promise} hpromise => ?_⟩
  obtain ⟨id, m, hm, hname, hwhole, -, hlinked⟩ := htraced.ran name promise hpromise
  refine ⟨id, m, hm, hname, htraced.closed hsettled hrun hm hwhole fun target htarget => ?_⟩
  obtain ⟨n, hn, hlinked⟩ := hlinked target htarget
  exact ⟨n, hn, (run.sane.sound hn).linked hlinked⟩

/-! ### A bridge with modules -/

/-- A module that exports a function. -/
def exporting : CompiledUnit := .ofText "b.js" .module "export function f() \x7b\x7d"

/-- A module that imports something else from it, which cannot be linked. -/
def misled : CompiledUnit := .ofText "m.js" .module "import \x7b g \x7d from './b.js'"

/-- A module that imports what there is not. -/
def unresolvable : CompiledUnit := .ofText "n.js" .module "import './gone.js'"

theorem deserialize_exporting : CompiledUnit.deserialize exporting.serialize = .ok exporting :=
  CompiledUnit.deserialize_eq_ok_iff.2 ⟨⟨by decide, by decide⟩, rfl⟩

/-- What a host does to have the first one registered, and run by an import of another module. -/
def importing : List Operation :=
  [.registerModule exporting.serialize, .loadSource "a.js" "import './b.js'"]

theorem after_importing (b : Bridge) : b.after importing =
    ((b.withTable (b.modules.table.keep exporting.name exporting.payload)).step
      (.loadSource "a.js" "import './b.js'")).2 := by
  have hregister : (b.step (.registerModule exporting.serialize)).2 =
      b.withTable (b.modules.table.keep exporting.name exporting.payload) := by
    rw [step, Operation.program, exec_map, BridgeM.exec_registerModule deserialize_exporting rfl]
  rw [importing, after, List.foldl_cons, List.foldl_cons, List.foldl_nil, hregister]

set_option maxRecDepth 100000 in
/-- The two modules are declared then, and the engine knows them and no other.  The check refuses
the unresolvable one; it passes the misled one, and loading that leaves it undeclared. -/
theorem links_importing : (create {} {}).toOption.map (fun r =>
    let b := (((r.1.withTable (r.1.modules.table.keep exporting.name exporting.payload)).step
      (.loadSource "a.js" "import './b.js'")).2)
    let failed := (exec (do BridgeM.keep (← BridgeM.loadNamespace misled)) b).2
    ([b.isHalted, b.modules.isDeclared "b.js", (b.modules.evaluations.lookup "a.js").isSome,
      b.modules.isDeclared unresolvable.name, b.modules.isDeclared misled.name,
      (b.modules.table.named? misled.name).isSome,
      (b.modules.checkLinkable unresolvable.name unresolvable.payload).toOption.isSome,
      (b.modules.checkLinkable misled.name misled.payload).toOption.isSome,
      failed.isHalted, failed.modules.isDeclared misled.name],
      b.modules.table.records.toList.map fun m => (m.name, m.requested))) =
    some ([false, true, true, false, false, false, false, true, false, false],
      [("a.js", some [1]), ("b.js", some [])]) := by
  decide +kernel

/-- It holds where the bridge has run a module that imports another one: it has found that, and both
are declared. -/
theorem declared_closed_importing : ∃ (b : Bridge) (events : List Event) (m : ModuleRecord),
    Run {} events b ∧ events.map (·.operation) = importing ∧
      (∀ e ∈ events, e.operation.Honest) ∧ b.isHalted = false ∧ DeclaredClosed b ∧
      b.modules.isDeclared "a.js" = true ∧ b.modules.isDeclared "b.js" = true ∧
      b.modules.table.records[0]? = some m ∧ m.name = "a.js" ∧ m.importNames[0]? = some "b.js" ∧
      ∃ promise, b.modules.evaluations.lookup "a.js" = some promise := by
  have hlinks := links_importing
  obtain ⟨b, tags, hcreate⟩ := exists_create
  obtain ⟨events, hops, run⟩ := (Run.create hcreate).after importing
  rw [List.nil_append] at run
  rw [hcreate] at hlinks
  simp only [Except.toOption, Option.map, Option.some.injEq, ← after_importing, Prod.mk.injEq,
    List.cons.injEq, Option.isSome_iff_exists] at hlinks
  generalize b.after importing = b at hlinks run
  obtain ⟨⟨hhalted, hb, ha, -⟩, hrecords⟩ := hlinks
  have hhonest : ∀ e ∈ events, e.operation.Honest := by
    intro e he
    have hop := List.mem_map_of_mem (f := (·.operation)) he
    rw [hops, importing, List.mem_pair] at hop
    obtain hop | hop := hop
    all_goals rw [hop]
    · refine ⟨fun u hu => ?_, trivial⟩
      obtain rfl : exporting = u := Except.ok.inj (deserialize_exporting.symm.trans hu)
      exact (CompiledUnit.genuine_ofText (by decide)).namesItself
    · exact ⟨trivial, trivial⟩
  have hclosed := declared_closed run hhonest hhalted
  obtain ⟨m, rest, hlist, hm, hrest⟩ := List.map_eq_cons_iff.1 hrecords
  obtain ⟨n, rest', rfl, hn, hrest'⟩ := List.map_eq_cons_iff.1 hrest
  obtain ⟨hmname, hmrequested⟩ := Prod.mk.inj hm
  have hfirst : b.modules.table.records[0]? = some m := by rw [← Array.getElem?_toList, hlist]; rfl
  have hsecond : b.modules.table.records[1]? = some n := by rw [← Array.getElem?_toList, hlist]; rfl
  -- the first module has found the second one at the place of its import
  have hasked : (m.requested.getD [])[0]? = some 1 := by rw [hmrequested]; rfl
  obtain ⟨n', hn', hnames, -⟩ := hclosed.found hfirst hasked
  obtain rfl : n = n' := Option.some.inj (hsecond.symm.trans hn')
  have hdeclared : b.modules.isDeclared "a.js" = true := by
    obtain ⟨promise, hpromise⟩ := ha
    simp [ModuleRegistry.isDeclared, hpromise]
  exact ⟨b, events, m, run, hops, hhonest, hhalted, hclosed, hdeclared, hb, hfirst, hmname,
    (Prod.mk.inj hn).1 ▸ hnames, ha⟩

end Bridge

end ScriptBridge
