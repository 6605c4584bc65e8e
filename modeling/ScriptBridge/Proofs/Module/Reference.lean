import ScriptBridge.Proofs.Module.Naming
import ScriptBridge.Proofs.Script.Crossing

/-!
# References from module to module

An import refers to a module by the name that the engine resolves it to, and the engine then looks
for that name, whoever asks (`Loading.found_request`, `Proc.importInto_congr`).  So it is enough to
compare names.

* `ModuleName.canonical_name_stands` : the name that a file is compiled under **stands for itself**:
  it is what units are kept under, and what every import of it asks for.
* `ModuleName.relative_imports_compose` : what a module imports that was itself imported by a
  relative path is what the first importer **would have reached by the joined path**.
-/

namespace ScriptBridge

open Script

variable {filename importer above file specifier : String}

/-! ### What is asked for -/

/-- A module finds what the name has that its specifier resolves to. -/
theorem Script.Loading.found_request {t : ModuleTable} {id : Nat} {m : ModuleRecord} {text : Str}
    (hm : t.records[id]? = some m) (htext : specifierText text = .ok specifier) :
    (exec (request id text) t).1 = (exec (find (ModuleName.resolve m.name specifier)) t).1 := by
  rw [request, exec_bind, exec_get]
  simp only [ModuleTable.record_of_getElem? hm, htext]
  rw [exec_bind, exec_ofExcept]
  simp only
  rw [exec_bind]
  rcases exec (find (ModuleName.resolve m.name specifier)) t with ⟨_ | _, _⟩ <;> rfl

/-- Imports of running code that resolve to one name are one import. -/
theorem Script.Proc.importInto_congr {importer' specifier' : String}
    (h : ModuleName.resolve importer specifier = ModuleName.resolve importer' specifier')
    (cap : Capability) :
    importInto importer (pure specifier) cap = importInto importer' (pure specifier') cap := by
  simp only [importInto, pure_bind, h]

namespace ModuleName

/-! ### Names that stand for themselves -/

/-- What is resolved as it stands. -/
theorem resolve_of_not_isRelative (h : isRelative specifier = false) (importer : String) :
    resolve importer specifier = specifier := by
  rw [isRelative] at h
  rw [resolve, resolveChars, h, if_neg Bool.false_ne_true, String.ofList_toList]

theorem isPlain_canonical (filename : String) : IsPlain (canonical filename).toList := by
  rw [canonical, String.toList_ofList]
  exact isPlain_canonicalChars _

/-- A plain path is not relative. -/
theorem isRelative_of_isPlain {name : String} (h : IsPlain name.toList) :
    isRelative name = false := by
  rw [isRelative, Bool.eq_false_iff]
  exact fun hrelative => not_isPlain_of_isRelativeChars hrelative h

/-- Whoever imports a canonical name asks for that name. -/
theorem resolve_canonical_name (importer filename : String) :
    resolve importer (canonical filename) = canonical filename :=
  resolve_of_not_isRelative (isRelative_of_isPlain (isPlain_canonical filename)) importer

/-- The name that a file is compiled under stands for itself, as a text and in a bridge. -/
structure StandsForItself (filename : String) : Prop where
  /-- It is its own canonical form. -/
  fixed : canonical (canonical filename) = canonical filename
  /-- It resolves to itself, whoever imports it. -/
  resolved : ∀ importer, resolve importer (canonical filename) = canonical filename
  /-- It is not relative. -/
  direct : isRelative (canonical filename) = false
  /-- No segment of it is `.` or `..`. -/
  plain : ∀ p ∈ segments (canonical filename).toList, p ≠ ['.'] ∧ p ≠ ['.', '.']
  /-- It begins with a slash exactly if the path of the file does. -/
  rooted : (canonical filename).toList.head? = some '/' ↔ filename.toList.head? = some '/'
  /-- Compiled modules have it, and they are kept under it when they are registered. -/
  stored : ∀ {source : String} {u : CompiledUnit} {blob : List UInt8} (b : Bridge),
    CompiledUnit.compile filename source .module = .ok u →
    CompiledUnit.deserialize blob = .ok u →
    u.name = canonical filename ∧ exec (BridgeM.registerModule blob) b = (.ok (canonical filename),
      b.withTable (b.modules.table.keep (canonical filename) u.payload))
  /-- When such a unit is loaded, its namespace is kept under it. -/
  cached : ∀ {c : BridgeConfig} {events : List Bridge.Event} {b b' : Bridge} {source : String}
    {u : CompiledUnit} {blob : List UInt8} {h : Handle}, Bridge.Run c events b →
    CompiledUnit.compile filename source .module = .ok u →
    CompiledUnit.deserialize blob = .ok u → exec (BridgeM.loadBlob blob) b = (.ok h, b') →
    ∃ ns, b'.modules.namespaces.lookup (canonical filename) = some ns ∧ b'.Names h ns
  /-- A module that imports it finds what the table has under it. -/
  requested : ∀ {t : ModuleTable} {id : Nat} {m : ModuleRecord} {text : Str},
    t.records[id]? = some m → specifierText text = .ok (canonical filename) →
    (exec (Loading.request id text) t).1 = (exec (Loading.find (canonical filename)) t).1
  /-- An import by running code is the import by name that loads the unit. -/
  imported : ∀ importer cap, Proc.importInto importer (pure (canonical filename)) cap =
    Proc.importInto "" (pure (canonical filename)) cap

/-- **The name that a file is compiled under stands for itself**, whatever the path of the file. -/
theorem canonical_name_stands (filename : String) : StandsForItself filename where
  fixed := canonical_canonical filename
  resolved importer := resolve_canonical_name importer filename
  direct := isRelative_of_isPlain (isPlain_canonical filename)
  plain := isPlain_canonical filename
  rooted := by
    have hrooted := isRooted_canonicalChars filename.toList
    rw [isRooted, isRooted, decide_eq_decide] at hrooted
    rwa [canonical, String.toList_ofList]
  stored {source u blob} b hcompile hblob := by
    obtain ⟨-, -, hu⟩ := CompiledUnit.compile_module_eq_ok_iff.1 hcompile
    have hname : u.name = canonical filename := by rw [hu]
    have hkind : u.kind = .module := by rw [hu]
    refine ⟨hname, ?_⟩
    rw [← hname]
    exact BridgeM.exec_registerModule hblob hkind
  cached {c events b b' source u blob h} run hcompile hblob hload := by
    obtain ⟨-, -, hu⟩ := CompiledUnit.compile_module_eq_ok_iff.1 hcompile
    have hname : u.name = canonical filename := by rw [hu]
    have hends : Ends (BridgeM.loadBlob blob) b _ := BridgeM.ends_loadBlob run.handled
    rw [Ends, hload] at hends
    obtain ⟨u', ns, hu', hns, hnames⟩ := hends h rfl
    obtain rfl : u = u' := Except.ok.inj (hblob.symm.trans hu')
    exact ⟨ns, hname ▸ hns, hnames⟩
  requested {t id m text} hm htext := by
    rw [Loading.found_request hm htext, resolve_canonical_name]
  imported importer cap := by
    refine Proc.importInto_congr ?_ cap
    rw [resolve_canonical_name, resolve_canonical_name]

/-! ### Relative imports in modules that were imported -/

/-- A file beside another is referred to through that other as through its folder. -/
theorem resolve_resolve (habove : isRelative (above ++ "/" ++ file) = true)
    (hfile : IsName file.toList) (hslash : '/' ∉ file.toList) (h : isRelative specifier = true) :
    resolve (resolve importer (above ++ "/" ++ file)) specifier =
      resolve importer (above ++ "/" ++ specifier) := by
  have hjoin (s : String) : (above ++ "/" ++ s).toList = above.toList ++ '/' :: s.toList := by
    simp
  rw [isRelative, hjoin] at habove
  simp only [resolve, hjoin, String.toList_ofList]
  rw [resolveChars_resolveChars habove hfile hslash h]

/-- An importer reaches through a file what it reaches by a path along the folder of the file. -/
structure ReachesThrough (importer above file : String) : Prop where
  /-- Names resolve alike. -/
  resolved : ∀ {specifier : String}, isRelative specifier = true →
    resolve (resolve importer (above ++ "/" ++ file)) specifier =
      resolve importer (above ++ "/" ++ specifier)
  /-- The module that the file is known as finds what the importer would have found. -/
  requested : ∀ {specifier : String} {t : ModuleTable} {first second : Nat} {m n : ModuleRecord}
    {text joined : Str}, isRelative specifier = true → t.records[first]? = some m →
    m.name = importer → t.records[second]? = some n →
    n.name = resolve importer (above ++ "/" ++ file) → specifierText text = .ok specifier →
    specifierText joined = .ok (above ++ "/" ++ specifier) →
    (exec (Loading.request second text) t).1 = (exec (Loading.request first joined) t).1
  /-- When code of it runs, what it imports is what the importer would have imported. -/
  imported : ∀ {specifier : String}, isRelative specifier = true → ∀ cap,
    Proc.importInto (resolve importer (above ++ "/" ++ file)) (pure specifier) cap =
      Proc.importInto importer (pure (above ++ "/" ++ specifier)) cap

/-- **Relative imports compose**: from whatever importer, through a relative path to any file. -/
theorem relative_imports_compose (habove : isRelative (above ++ "/" ++ file) = true)
    (hfile : IsName file.toList) (hslash : '/' ∉ file.toList) :
    ReachesThrough importer above file where
  resolved h := resolve_resolve habove hfile hslash h
  requested {specifier t first second m n text joined} h hm hmname hn hnname htext hjoined := by
    rw [Loading.found_request hn htext, Loading.found_request hm hjoined, hnname, hmname,
      resolve_resolve habove hfile hslash h]
  imported h := Proc.importInto_congr (resolve_resolve habove hfile hslash h)

/-- A path that leads past the root leads there also through a file on the way. -/
theorem relative_imports_compose_root :
    isRelative ("../.." ++ "/" ++ "lib.js") = true ∧ IsName "lib.js".toList ∧
      '/' ∉ "lib.js".toList ∧ ReachesThrough "/srv/main.js" "../.." "lib.js" ∧
      resolve (resolve "/srv/main.js" ("../.." ++ "/" ++ "lib.js")) ".././x.js" = "/x.js" := by
  have habove : isRelative ("../.." ++ "/" ++ "lib.js") = true := by decide
  have hfile : IsName "lib.js".toList := by decide
  have hslash : '/' ∉ "lib.js".toList := by decide
  exact ⟨habove, hfile, hslash, relative_imports_compose habove hfile hslash, by decide⟩

end ModuleName

end ScriptBridge
