import ScriptBridge.Proofs.Module.Identity
import ScriptBridge.Proofs.Module.Names

/-!
# Imports and the names of units

A module is known by the canonical form of the path that it was compiled as, and a relative import
is resolved against the name of the module that makes it.  Both fold paths, and they agree.

* `ModuleName.relative_import_leads_to_joined_path` : a relative import in a module leads to **the
  unit that was compiled as the joined path**.
* `ModuleName.relative_import_folds` : from any importer, it leads to a canonical name **unless `.`
  or `..` is left of the importer's directory**; then it fails.

Only the specifier is folded.  The name of a module has nothing to fold, but a script keeps the name
that the host gives it.
-/

namespace ScriptBridge

open Script

variable {path filename importer specifier source : String} {u : CompiledUnit}

namespace ModuleName

/-- The folder of a file: what stands before the last slash, and that too. -/
def folder (filename : String) : String := String.ofList (folderChars filename.toList)

/-- From a module with a canonical name, a relative path is resolved as if it was joined to the
folder of that module, and compiled. -/
theorem resolve_canonical (h : isRelative specifier = true) :
    resolve (canonical filename) specifier =
    canonical (folder (canonical filename) ++ specifier) := by
  have hplain : IsPlain (canonical filename).toList := by
    rw [canonical, String.toList_ofList]
    exact isPlain_canonicalChars _
  have hjoined : (folder (canonical filename) ++ specifier).toList =
      folderChars (canonical filename).toList ++ specifier.toList := by
    rw [String.toList_append, folder, String.toList_ofList]
  rw [resolve, resolveChars_of_isPlain hplain h, ← hjoined]
  rfl

end ModuleName

namespace CompiledUnit

open ModuleName

/-- What a module is compiled to. -/
theorem compile_module_eq_ok_iff : compile path source .module = .ok u ↔
    checkSource (canonical path) source = .ok () ∧
      (∃ program specifiers, parse true source = .ok program ∧
        program.specifiers = .ok specifiers) ∧
      u = ⟨canonical path, .module, Payload.encode ⟨.module, canonical path, source⟩⟩ := by
  have hmodule : parse (decide (UnitKind.module = .module)) source = parse true source := rfl
  unfold compile
  dsimp only
  rw [bind_eq_ok, hmodule]
  constructor
  · rintro ⟨_, hcheck, h⟩
    split at h
    · cases h
    · rename_i program hparse
      cases hspecifiers : program.specifiers with
      | error f =>
        rw [hspecifiers] at h
        cases h
      | ok specifiers =>
        rw [hspecifiers] at h
        cases h
        exact ⟨hcheck, ⟨program, specifiers, hparse, hspecifiers⟩, rfl⟩
  · rintro ⟨hcheck, ⟨program, specifiers, hparse, hspecifiers⟩, rfl⟩
    refine ⟨(), hcheck, ?_⟩
    rw [hparse]
    simp only [hspecifiers]
    rfl

/-- A module is compiled under any path as under the canonical form of that. -/
theorem compile_canonical (h : compile (canonical path) source .module = .ok u) :
    compile path source .module = .ok u := by
  rw [compile_module_eq_ok_iff, canonical_canonical] at h
  exact compile_module_eq_ok_iff.2 h

/-- The engine reads a module as it was compiled. -/
theorem readModule_of_compile (h : compile path source .module = .ok u)
    (hlength : u.payload.length < 2 ^ 64) : ∃ program, parse true source = .ok program ∧
      readModule u.payload = .ok (canonical path, program) := by
  obtain ⟨-, ⟨program, -, hparse, -⟩, rfl⟩ := compile_module_eq_ok_iff.1 h
  refine ⟨program, hparse, ?_⟩
  rw [readModule, Payload.decode?_encode hlength]
  simp [hparse]

end CompiledUnit

namespace Script.Loading

variable {t t' : ModuleTable} {importer found : Nat} {text : Str}

/-- A module asks for what its specifier resolves to, and notes what is found. -/
theorem exec_request (htext : specifierText text = .ok specifier) {m : ModuleRecord}
    (hm : t.records[importer]? = some m)
    (hfind : exec (find (ModuleName.resolve m.name specifier)) t = (.ok found, t')) :
    exec (request importer text) t = (.ok found, t'.modifyRecord importer fun m =>
      { m with requested := some (m.requested.getD [] ++ [found]) }) := by
  rw [request, exec_bind, exec_get]
  simp only [ModuleTable.record_of_getElem? hm, htext]
  rw [exec_bind, exec_ofExcept]
  simp only
  rw [exec_bind, hfind]
  rfl

end Script.Loading

namespace ModuleName

/-- What the host registers as the joined path is what a relative import in the module comes to. -/
structure LeadsToJoinedPath (filename specifier : String) : Prop where
  /-- The import resolves to the name of the joined path. -/
  resolved : resolve (canonical filename) specifier =
    canonical (folder (canonical filename) ++ specifier)
  /-- A unit that was compiled as that path has the name, and is registered under it. -/
  stored : ∀ {source : String} {u : CompiledUnit} {blob : List UInt8} (b : Bridge),
    CompiledUnit.compile (folder (canonical filename) ++ specifier) source .module = .ok u →
    CompiledUnit.deserialize blob = .ok u →
    exec (BridgeM.registerModule blob) b = (.ok (resolve (canonical filename) specifier),
      b.withTable (b.modules.table.keep (resolve (canonical filename) specifier) u.payload))
  /-- From then on, unless the engine has another module of the name, the importing module gets the
  unit: its program, under the name. -/
  found : ∀ {source : String} {u : CompiledUnit} {blob : List UInt8} {t : ModuleTable}
    {importer : Nat} {m : ModuleRecord} {text : Str},
    CompiledUnit.compile (folder (canonical filename) ++ specifier) source .module = .ok u →
    CompiledUnit.deserialize blob = .ok u →
    t.records[importer]? = some m → m.name = canonical filename →
    specifierText text = .ok specifier →
    t.named? (resolve (canonical filename) specifier) = none →
    t.store.lookup (resolve (canonical filename) specifier) = some u.payload →
    ∃ program t', parse true source = .ok program ∧
      exec (Loading.request importer text) t = (.ok t.records.size, t') ∧
      t'.records[t.records.size]? =
        some { name := resolve (canonical filename) specifier, program }

/-- **A relative import leads to the unit that was compiled as the joined path**: the import
resolves to the name that this unit is registered under. -/
theorem relative_import_leads_to_joined_path (h : isRelative specifier = true) :
    LeadsToJoinedPath filename specifier := by
  have hresolved : resolve (canonical filename) specifier =
      canonical (folder (canonical filename) ++ specifier) := resolve_canonical h
  refine ⟨hresolved, fun {source u blob} b hcompile hblob => ?_, ?_⟩
  · obtain ⟨-, -, hu⟩ := CompiledUnit.compile_module_eq_ok_iff.1 hcompile
    have hname : u.name = resolve (canonical filename) specifier := by rw [hu, hresolved]
    have hkind : u.kind = .module := by rw [hu]
    rw [← hname]
    exact BridgeM.exec_registerModule hblob hkind
  · intro source u blob t importer m text hcompile hblob hm hmname htext hnamed hstore
    obtain ⟨hfits, -⟩ := CompiledUnit.deserialize_eq_ok_iff.1 hblob
    have hlength : u.payload.length < 2 ^ 64 := Nat.lt_trans hfits.payload_lt (by decide)
    obtain ⟨program, hparse, hread⟩ := CompiledUnit.readModule_of_compile hcompile hlength
    rw [← hresolved] at hread
    obtain ⟨t', hfind, hnew, -⟩ := Loading.exec_find_stored hnamed hstore hread
    rw [← hmname] at hfind
    refine ⟨program, _, hparse, Loading.exec_request htext hm hfind, ?_⟩
    -- the module that asks was there before
    have hlt : importer < t.records.size := (Array.getElem?_eq_some_iff.1 hm).1
    rw [ModuleTable.records_modifyRecord, hnew, Option.map_some, if_neg (Nat.ne_of_gt hlt)]

/-- A small module is found by an import beside it. -/
theorem relative_import_leads_to_sibling : isRelative "./m.js" = true ∧
    resolve (canonical "./lib/../main.js") "./m.js" = "m.js" ∧
      LeadsToJoinedPath "./lib/../main.js" "./m.js" ∧
      ∃ u, CompiledUnit.compile (folder (canonical "./lib/../main.js") ++ "./m.js")
          "export const x = 1" .module = .ok u ∧
        CompiledUnit.deserialize u.serialize = .ok u := by
  have hjoined : canonical (folder (canonical "./lib/../main.js") ++ "./m.js") = "m.js" := by
    decide
  obtain ⟨u, hcompile, -, -, -, hblob⟩ := CompiledUnit.exists_genuine
  refine ⟨by decide, by decide +kernel,
    relative_import_leads_to_joined_path (by decide), u, ?_, hblob⟩
  exact CompiledUnit.compile_canonical (hjoined ▸ hcompile)

/-! ### Importers of any name -/

/-- The segments of the importer's directory that are left where the specifier leads. -/
def left (importer specifier : String) : List (List Char) :=
  (directory importer.toList).take (lowest (directory importer.toList) (segments specifier.toList))

/-- Nothing is left of the importer's directory that a canonical name would not have. -/
def LeavesNames (importer specifier : String) : Prop :=
  ∀ p ∈ left importer specifier, p ≠ ['.'] ∧ p ≠ ['.', '.']

instance (importer specifier : String) : Decidable (LeavesNames importer specifier) := by
  unfold LeavesNames; infer_instance

/-- **A relative import resolves to a canonical name** exactly if the importer's directory leaves no
`.` and no `..` there. -/
theorem isCanonical_resolve_iff (h : isRelative specifier = true) :
    IsCanonical (resolve importer specifier) ↔ LeavesNames importer specifier := by
  rw [IsCanonical, canonical_eq_self_iff, resolve, String.toList_ofList]
  exact isPlain_resolveChars h

/-- Only modules of canonical names are found, so nothing is found under any other. -/
theorem exec_find_of_not_isCanonical {t : ModuleTable} (ht : t.NamesCanonical) {name : String}
    (hname : ¬ IsCanonical name) : exec (Loading.find name) t = (.error ⟨.referenceError,
      s!"Error loading module '{name}': no module registered under this name"⟩, t) := by
  have hnamed : t.named? name = none := by
    rw [ModuleTable.named?, Array.findIdx?_eq_none_iff]
    intro m hm
    have hne : m.name ≠ name := fun heq => hname (heq ▸ ht.records m hm)
    simp [hne]
  have hstore : t.store.lookup name = none := by
    rw [List.lookup_eq_none_iff]
    intro e he
    have hne : name ≠ e.1 := fun heq => hname (heq ▸ (ht.store e he).1)
    simp [hne]
  rw [Loading.find, exec_bind, exec_get]
  simp only [hnamed, hstore]
  rfl

/-- How a relative import from any importer comes out: only what the specifier leads along is
folded. -/
structure FoldsSpecifier (importer specifier : String) : Prop where
  /-- What it resolves to is canonical if and only if it has no `.` and no `..`. -/
  plain : IsCanonical (resolve importer specifier) ↔ IsPlain (resolve importer specifier).toList
  /-- That is so exactly if none is left of the importer's directory. -/
  names : IsCanonical (resolve importer specifier) ↔ LeavesNames importer specifier
  /-- It is so from every module. -/
  module : IsCanonical importer → IsCanonical (resolve importer specifier)
  /-- Otherwise the import fails, whatever units were compiled and given to the bridge. -/
  missing : ∀ {c : BridgeConfig} {events : List Bridge.Event} {b : Bridge}, Bridge.Run c events b →
    (∀ e ∈ events, e.operation.Compiled) → ¬ LeavesNames importer specifier →
    exec (Loading.find (resolve importer specifier)) b.modules.table = (.error ⟨.referenceError,
    s!"Error loading module '{resolve importer specifier}': no module registered under this name"⟩,
      b.modules.table)

/-- **A relative import folds what the specifier leads along**, and keeps the rest of the importer's
directory as it is: the result is canonical unless `.` or `..` is left there, and an import that
resolves to another name fails. -/
theorem relative_import_folds (h : isRelative specifier = true) :
    FoldsSpecifier importer specifier := by
  refine ⟨canonical_eq_self_iff, isCanonical_resolve_iff h, fun himporter => ?_,
    fun run hcompiled hleft => ?_⟩
  · have hresolved : resolve (canonical importer) specifier =
        canonical (folder (canonical importer) ++ specifier) := resolve_canonical h
    rw [himporter] at hresolved
    rw [hresolved]
    exact canonical_canonical _
  · exact exec_find_of_not_isCanonical (run.namesCanonical hcompiled)
      fun hname => hleft ((isCanonical_resolve_iff h).1 hname)

/-- A module is registered as `m.js`, and a script of the name `./main.js` that imports `./m.js`
does not find it. -/
theorem relative_import_folds_script : isRelative "./m.js" = true ∧
    FoldsSpecifier "./main.js" "./m.js" ∧ ¬ LeavesNames "./main.js" "./m.js" ∧
      ∃ (u : CompiledUnit) (b : Bridge) (events : List Bridge.Event), Bridge.Run {} events b ∧
        b.modules.table.store.lookup (canonical "./m.js") = some u.payload ∧
        exec (Loading.find (resolve "./main.js" "./m.js")) b.modules.table =
          (.error ⟨.referenceError,
            "Error loading module './m.js': no module registered under this name"⟩,
            b.modules.table) := by
  have hrelative : isRelative "./m.js" = true := by decide
  have hleft : ¬ LeavesNames "./main.js" "./m.js" := by decide
  have hfolds : FoldsSpecifier "./main.js" "./m.js" := relative_import_folds hrelative
  obtain ⟨u, hcompile, hname, hmodule, -, hblob⟩ := CompiledUnit.exists_genuine
  obtain ⟨b, tags, hb, -⟩ := Bridge.exists_create_idle
  obtain ⟨events, hops, run⟩ := (Bridge.Run.create hb).after [.registerModule u.serialize]
  have hcompiled : ∀ e ∈ events, e.operation.Compiled := by
    intro e he
    have hop := List.mem_map_of_mem (f := (·.operation)) he
    rw [hops, List.mem_singleton] at hop
    rw [hop]
    intro u' hu'
    obtain rfl : u = u' := Except.ok.inj (hblob.symm.trans hu')
    exact ⟨_, _, _, hcompile⟩
  refine ⟨hrelative, hfolds, hleft, u, _, events, run, ?_, ?_⟩
  · have hcanonical : canonical "./m.js" = u.name := by rw [hname]; decide
    rw [Bridge.after, List.foldl_cons, List.foldl_nil, Bridge.step, Bridge.Operation.program,
      exec_map, BridgeM.exec_registerModule hblob hmodule, hcanonical]
    exact List.lookup_cons_self
  · have hresolved : resolve "./main.js" "./m.js" = "./m.js" := by decide
    have hmissing := hfolds.missing run hcompiled hleft
    rw [hresolved] at hmissing ⊢
    exact hmissing

end ModuleName

end ScriptBridge
