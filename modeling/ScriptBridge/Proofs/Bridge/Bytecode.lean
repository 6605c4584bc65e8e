import ScriptBridge.Proofs.Bridge.SetUp
import ScriptBridge.Proofs.Envelope.Corruption
import ScriptBridge.Proofs.Module.Declare
import ScriptBridge.Proofs.Script.Description

/-!
# Scripts from source and from blobs

A script can be run from its source, or be compiled, carried as a blob and run from that.

* `CompiledUnit.compile_eq_ok_iff`, `CompiledUnit.compile_eq_error_iff` : what is compiled, and why
  something is not.
* `BridgeM.exec_evalBlob_serialize` : **running the blob is running the source**, on every bridge.
* `BridgeM.exec_outcome_scriptValue` : a text that is no program throws a syntax error, with
  the words of the compiler.
* `BridgeM.bytecode_agrees` : the two ways side by side.
-/

namespace ScriptBridge

open Script

/-! ### What is compiled -/

/-- Why a source text is not even looked at. -/
inductive Unusable (filename source : String) : BridgeError → Prop
  | longFilename (h : 65535 < filename.utf8ByteSize) :
    Unusable filename source (.invalidArgument .longFilename)
  | nulInFilename (hlength : filename.utf8ByteSize ≤ 65535) (h : '\x00' ∈ filename.toList) :
    Unusable filename source (.invalidArgument .nulInFilename)
  | nulInSource (hlength : filename.utf8ByteSize ≤ 65535) (hname : '\x00' ∉ filename.toList)
    (h : '\x00' ∈ source.toList) :
    Unusable filename source (.compile filename "source contains a NUL byte")

theorem checkSource_eq (filename source : String) : checkSource filename source =
    if 65535 < filename.utf8ByteSize then .error (.invalidArgument .longFilename)
    else if '\x00' ∈ filename.toList then .error (.invalidArgument .nulInFilename)
    else if '\x00' ∈ source.toList then .error (.compile filename "source contains a NUL byte")
    else .ok () := by
  simp only [checkSource, List.contains_iff_mem]
  split_ifs <;> rfl

theorem checkSource_eq_error_iff {filename source : String} {e : BridgeError} :
    checkSource filename source = .error e ↔ Unusable filename source e := by
  rw [checkSource_eq]
  constructor
  · intro h
    split_ifs at h with hlength hname hsource
    all_goals cases h
    · exact .longFilename hlength
    · exact .nulInFilename (Nat.le_of_not_lt hlength) hname
    · exact .nulInSource (Nat.le_of_not_lt hlength) hname hsource
  · intro h
    cases h with
    | longFilename h => rw [if_pos h]
    | nulInFilename hlength h => rw [if_neg (Nat.not_lt_of_le hlength), if_pos h]
    | nulInSource hlength hname h => rw [if_neg (Nat.not_lt_of_le hlength), if_neg hname, if_pos h]

/-- Every other text is looked at. -/
theorem checkSource_eq_ok_iff {filename source : String} :
    checkSource filename source = .ok () ↔ ∀ e, ¬ Unusable filename source e := by
  simp only [← checkSource_eq_error_iff]
  cases checkSource filename source with
  | error e => simp
  | ok u => simp

namespace CompiledUnit

variable {filename source : String} {u : CompiledUnit} {e : BridgeError}

/-- The unit for a script. -/
def ofScript (filename source : String) : CompiledUnit :=
  ⟨filename, .script, Payload.encode ⟨.script, filename, source⟩⟩

theorem compile_script_eq (filename source : String) : compile filename source .script =
    (checkSource filename source).bind fun _ =>
      ((parse false source).mapError fun f => .compile filename (syntaxMessage f)).map fun _ =>
        ofScript filename source := by
  unfold compile
  simp only [bind]
  cases checkSource filename source with
  | error e => rfl
  | ok u =>
    have hkind : decide (UnitKind.script = .module) = false := rfl
    simp only [Except.bind, hkind]
    cases parse false source <;> rfl

/-- **What is compiled.** -/
theorem compile_eq_ok_iff : compile filename source .script = .ok u ↔
    (∀ e, ¬ Unusable filename source e) ∧ (∃ p, parse false source = .ok p) ∧
      u = ofScript filename source := by
  rw [← checkSource_eq_ok_iff, compile_script_eq]
  cases checkSource filename source with
  | error e => simp [Except.bind, eq_comm]
  | ok v => cases parse false source <;> simp [Except.bind, Except.mapError, Except.map, eq_comm]

/-- **Why something is not compiled.** -/
theorem compile_eq_error_iff : compile filename source .script = .error e ↔
    Unusable filename source e ∨ (∀ e, ¬ Unusable filename source e) ∧
      ∃ f, parse false source = .error f ∧ e = .compile filename (syntaxMessage f) := by
  rw [← checkSource_eq_ok_iff, ← checkSource_eq_error_iff, compile_script_eq]
  cases checkSource filename source with
  | error e => simp [Except.bind, eq_comm]
  | ok v => cases parse false source <;> simp [Except.bind, Except.mapError, Except.map, eq_comm]

end CompiledUnit

namespace BridgeM

open CompiledUnit

variable {filename source : String}

/-- The jobs run after an operation, which comes to what it came to. -/
theorem exec_thenDrain {α : Type} (p : BridgeM α) (b : Bridge) :
    exec (thenDrain p) b = ((exec p b).1, (exec drain (exec p b).2).2) := by
  have hobserve : exec (thenDrain.observing p) b = (.ok (exec p b).1, (exec p b).2) := rfl
  obtain ⟨report, hdrain⟩ := succeeds_drain (exec p b).2
  have hdiscard : exec (discard drain) (exec p b).2 = (.ok (), (exec drain (exec p b).2).2) := by
    rw [exec_discard, hdrain]
    rfl
  rw [thenDrain, exec_bind, hobserve]
  simp only [exec_bind, hdiscard]
  cases (exec p b).1 <;> rfl

/-- A payload is run as its source is. -/
theorem runPayload_ofScript (hlength : (ofScript filename source).payload.length < 2 ^ 64)
    {program : Program} (h : parse false source = .ok program) :
    runPayload (ofScript filename source).payload = evalScript.scriptValue filename source := by
  have hread : Payload.decode? (ofScript filename source).payload = some _ :=
    Payload.decode?_encode hlength
  rw [runPayload, hread, evalScript.scriptValue]
  simp only [h]

/-- There is no module in the payload of a script. -/
theorem readModule_ofScript (hlength : (ofScript filename source).payload.length < 2 ^ 64)
    (module : String × Program) : readModule (ofScript filename source).payload ≠ .ok module := by
  have hread : Payload.decode? (ofScript filename source).payload = some _ :=
    Payload.decode?_encode hlength
  rw [readModule, hread]
  rintro ⟨⟩

/-- Looking for a module where there is none. -/
theorem exec_read_bind {α : Type} {payload : List UInt8}
    (h : ∀ module, readModule payload ≠ .ok module) (p : Crossing α) (b : Bridge) :
    exec (discard (updateTable (Loading.read payload)) >>= fun _ => evaluate p) b =
      exec (evaluate p) b := by
  rw [exec_bind, exec_discard, exec_updateTable, Loading.exec_read]
  cases hb : b.isHalted with
  | true =>
    rw [evaluate, exec_perform, hb]
    rfl
  | false =>
    cases hread : readModule payload with
    | error f => rfl
    | ok module => exact absurd hread (h module)

/-- **Running a unit is running its source.** -/
theorem exec_evaluateUnit_ofScript (hlength : (ofScript filename source).payload.length < 2 ^ 64)
    (husable : ∀ e, ¬ Unusable filename source e) {program : Program}
    (h : parse false source = .ok program) (b : Bridge) :
    exec (evaluateUnit (ofScript filename source)) b = exec (evalScript filename source) b := by
  let p : Crossing Value := .ofProc (evalScript.scriptValue filename source)
  -- both run the same procedure; only the unit is first looked at as a module, which it is not
  have hunit : evaluateUnit (ofScript filename source) = thenDrain (do
      discard (updateTable (Loading.read (ofScript filename source).payload))
      keep (← evaluate p)) := by
    rw [evaluateUnit, runPayload_ofScript hlength h]
    rfl
  have hsource : evalScript filename source = thenDrain (do keep (← evaluate p)) := by
    rw [evalScript, checkSource_eq_ok_iff.2 husable]
  have hrun : exec (do
      discard (updateTable (Loading.read (ofScript filename source).payload))
      keep (← evaluate p)) b = exec (do keep (← evaluate p)) b := by
    rw [← bind_assoc, exec_bind, exec_read_bind (readModule_ofScript hlength), ← exec_bind]
  rw [hunit, hsource, exec_thenDrain, exec_thenDrain, hrun]

/-- **Running the blob of a unit is running its source.** -/
theorem exec_evalBlob_serialize {u : CompiledUnit} (h : compile filename source .script = .ok u)
    (hlength : u.payload.length < 2 ^ 32) (b : Bridge) :
    deserialize u.serialize = .ok u ∧
      exec (evalBlob u.serialize) b = exec (evalScript filename source) b := by
  obtain ⟨husable, ⟨program, hparse⟩, rfl⟩ := compile_eq_ok_iff.1 h
  have hname := length_encode_le (checkSource_eq_ok_iff.2 husable)
  have hread : deserialize (ofScript filename source).serialize = .ok (ofScript filename source) :=
    deserialize_eq_ok_iff.2 ⟨⟨hname, hlength⟩, rfl⟩
  have hblob : evalBlob (ofScript filename source).serialize =
      evaluateUnit (ofScript filename source) := by
    rw [evalBlob, hread]
    rfl
  have hlength : (ofScript filename source).payload.length < 2 ^ 64 := by omega
  rw [hblob]
  exact ⟨hread, exec_evaluateUnit_ofScript hlength husable hparse b⟩

/-- A unit whose payload is too long for a blob is refused, and the bridge stays as it was. -/
theorem exec_evalBlob_oversized {u : CompiledUnit} (h : compile filename source .script = .ok u)
    (hlength : 2 ^ 32 ≤ u.payload.length) (b : Bridge) :
    ∃ fault, exec (evalBlob u.serialize) b = (.error (.deserialize fault), b) := by
  have hname : u.nameLength ≤ 65535 := (Made.compile _ _ _ h).nameLength_le
  obtain ⟨fault, hfault⟩ := deserialize_eq_error u.serialize fun u' hread => by
    obtain ⟨hfits, hsame⟩ := deserialize_eq_ok_iff.1 hread
    have hpayload := payload_eq_of_serialize hname hfits.name_le hsame
    have hlt := hfits.payload_lt
    rw [hpayload] at hlt
    omega
  exact ⟨fault, (refused_of_deserialize hfault b).evalBlob⟩

/-! ### Texts that are no programs -/

theorem message_ne_empty (f : SyntaxFault) : f.message ≠ "" := by
  have happend {s t : String} (h : s ≠ "") : s ++ t ≠ "" := fun hempty =>
    h (String.append_eq_empty_iff.1 hempty).1
  cases f with
  | badToken | badTarget | missingInit => decide
  | _ => exact happend (happend (by decide))

theorem cutMessage_ne_empty {s : String} (h : s ≠ "") : cutMessage s ≠ "" := by
  unfold cutMessage
  split_ifs with hs
  · exact h
  · intro hcut
    have hcut := congrArg String.toList hcut
    rw [String.toList_ofList] at hcut
    cases hlist : s.toList with
    | nil => exact h (String.toList_inj.1 hlist)
    | cons c rest =>
      have hsize : c.utf8Size ≤ 255 := Nat.le_trans c.utf8Size_le_four (by decide)
      rw [hlist, Key.shown.cut, if_pos hsize] at hcut
      cases hcut

/-- The error for a text that is no program. -/
def syntaxError (f : SyntaxFault) : Object :=
  newError (Intrinsic.errorProto .syntaxError) (cutMessage f.message) f.hasPlace

/-- Evaluating a text that is no program comes to a new error. -/
theorem comesTo_scriptValue (filename : String) {f : SyntaxFault}
    (h : parse false source = .error f) {b : Bridge} (hb : b.isHalted = false) :
    b.ComesTo (evalScript.scriptValue filename source) 2 (.error (.object b.world.objects.size))
      { b with world := b.world.push (syntaxError f) } := by
  refine ⟨hb, ?_⟩
  rw [evalScript.scriptValue, h, syntaxError]
  cases hplace : f.hasPlace with
  | true =>
    simp only [hplace, if_true]
    rfl
  | false =>
    simp only [hplace, Bool.false_eq_true, if_false]
    rfl

/-- **A text that is no program throws a new error with the words of the compiler.** -/
theorem exec_outcome_scriptValue {f : SyntaxFault} (h : parse false source = .error f) {b : Bridge}
    (hb : b.isHalted = false) : exec (outcome (evalScript.scriptValue filename source)) b =
      (.ok (.error (.object b.world.objects.size)),
        { b with world := b.world.push (syntaxError f) }) :=
  exec_outcome_of_comesTo (comesTo_scriptValue filename h hb) (by decide)

/-- What the new error is described as, in the world that it is thrown in. -/
def Reports (b : Bridge) (f : SyntaxFault) (e : ScriptException) (b' : Bridge) : Prop :=
  Bridge.runFor (Bridge.stepLimit - 1)
    (.top (Exchange.describe (.object b.world.objects.size) (b.world.push (syntaxError f))))
    { b with world := default } = (some (.ok e), b')

/-- **The failure of the run is what the new error is described as.** -/
theorem exec_evaluate_scriptValue {f : SyntaxFault} (h : parse false source = .error f)
    {b b' : Bridge} (hb : b.isHalted = false) {e : ScriptException} (hreports : Reports b f e b') :
    exec (evaluate (.ofProc (evalScript.scriptValue filename source))) b =
      (.error (.ofException e), { b' with isHalted := false }) := by
  have herror := comesTo_scriptValue filename h hb
  have hdescribe : ({ b with world := b.world.push (syntaxError f) } : Bridge).ComesTo
      (Exchange.describe (.object b.world.objects.size)) (Bridge.stepLimit - 1) (.ok e) b' := by
    refine ⟨hb, ?_⟩
    rw [Bridge.runFor_withWorld _ _ b, ← Bridge.runFor_withWorld _ _ b default]
    exact hreports
  have hsame : { b' with isHalted := false } = b' := by rw [← hdescribe.isHalted]
  rw [exec_evaluate (c := .ofProc _) (g := .ok) (fun _ => rfl), hsame]
  exact exec_told_of_error herror hdescribe (by decide)

/-- Where the new error tells what it is, it is described by the words of the compiler. -/
theorem reports_of_tellsError {f : SyntaxFault} {b : Bridge} {stack : String}
    (h : (b.world.push (syntaxError f)).TellsError b.world.objects.size "SyntaxError"
      (cutMessage f.message) stack) :
    Reports b f (errorDescription "SyntaxError" (cutMessage f.message) stack)
      { b with world := b.world.push (syntaxError f) } := by
  have hlimit : Bridge.stepLimit - 1 = Bridge.stepLimit - 4 + 3 := rfl
  rw [Reports, hlimit]
  exact Bridge.runFor_describe h (by decide) (cutMessage_ne_empty (message_ne_empty f)) _ _

/-! ### The two ways -/

/-- What a script that is compiled has to do with one that is run from its source. -/
structure Agreement (filename source : String) (b : Bridge) : Prop where
  /-- A unit is read from its blob, and running the blob comes to the same and leaves the same
  bridge as running the source. -/
  compiled : ∀ u, compile filename source .script = .ok u → u.payload.length < 2 ^ 32 →
    deserialize u.serialize = .ok u ∧
      exec (evalBlob u.serialize) b = exec (evalSource filename source false) b
  /-- Behind the lengths that a blob can tell, it is refused. -/
  oversized : ∀ u, compile filename source .script = .ok u → 2 ^ 32 ≤ u.payload.length →
    ∃ fault, exec (evalBlob u.serialize) b = (.error (.deserialize fault), b)
  /-- Compiling fails exactly for names and texts that cannot be used, and for texts that are no
  programs. -/
  uncompiled : ∀ e, compile filename source .script = .error e ↔
    Unusable filename source e ∨ (∀ e, ¬ Unusable filename source e) ∧
      ∃ f, parse false source = .error f ∧ e = .compile filename (syntaxMessage f)
  /-- What cannot be used is refused with the same error. -/
  unusable : ∀ e, Unusable filename source e →
    exec (evalSource filename source false) b = (.error e, b)
  /-- What is no program throws a new syntax error that has the words of the compiler. -/
  thrown : ∀ f, (∀ e, ¬ Unusable filename source e) → parse false source = .error f →
    b.isHalted = false → exec (outcome (evalScript.scriptValue filename source)) b =
      (.ok (.error (.object b.world.objects.size)),
        { b with world := b.world.push (syntaxError f) })
  /-- It is reported as the exception that it is described as then. -/
  reported : ∀ f, (∀ e, ¬ Unusable filename source e) → parse false source = .error f →
    b.isHalted = false → ∀ e b', Reports b f e b' →
      (exec (evalSource filename source false) b).1 = .error (.ofException e)
  /-- If it tells what it is, that is the exception the compiler tells of. -/
  told : ∀ f, (∀ e, ¬ Unusable filename source e) → parse false source = .error f →
    b.isHalted = false → ∀ stack,
      (b.world.push (syntaxError f)).TellsError b.world.objects.size "SyntaxError"
        (cutMessage f.message) stack →
      (exec (evalSource filename source false) b).1 = .error (.eval
        ⟨some "SyntaxError", syntaxMessage f, if stack.isEmpty then none else some stack⟩)

/-- The failure of a text that is no program. -/
theorem exec_evalSource_of_parse_eq_error {f : SyntaxFault}
    (husable : ∀ e, ¬ Unusable filename source e) (h : parse false source = .error f)
    {b b' : Bridge} (hb : b.isHalted = false) {e : ScriptException} (hreports : Reports b f e b') :
    (exec (evalSource filename source false) b).1 = .error (.ofException e) := by
  have hsource : evalSource filename source false = thenDrain (do
      keep (← evaluate (.ofProc (evalScript.scriptValue filename source)))) := by
    rw [evalSource, if_neg Bool.false_ne_true, evalScript, checkSource_eq_ok_iff.2 husable]
  rw [hsource, exec_thenDrain, exec_bind, exec_evaluate_scriptValue h hb hreports]

/-- **Running a script from its blob is running it from its source**, and it is not compiled exactly
where running the source fails before anything of it runs. -/
theorem bytecode_agrees (filename source : String) (b : Bridge) : Agreement filename source b where
  compiled _ h hlength := exec_evalBlob_serialize h hlength b
  oversized _ h hlength := exec_evalBlob_oversized h hlength b
  uncompiled _ := compile_eq_error_iff
  unusable e h := by
    rw [evalSource, if_neg Bool.false_ne_true, evalScript, checkSource_eq_error_iff.2 h, exec_throw]
  thrown _ _ h hb := exec_outcome_scriptValue h hb
  reported _ husable h hb _ _ hreports := exec_evalSource_of_parse_eq_error husable h hb hreports
  told f husable h hb stack htells := by
    have hmessage : syntaxMessage f = "SyntaxError" ++ ": " ++ cutMessage f.message := by
      have hwords : "SyntaxError" ++ ": " = "SyntaxError: " := by decide
      rw [hwords]
      rfl
    rw [exec_evalSource_of_parse_eq_error husable h hb (reports_of_tellsError htells), hmessage]
    rfl

/-- Errors of a new bridge tell what they are. -/
theorem create_tellsError : ((Bridge.create {} {}).toOption.map fun r => (r.1.isHalted, decide
    ((r.1.world.push (syntaxError (.unexpected ")"))).TellsError r.1.world.objects.size
      "SyntaxError" (cutMessage (SyntaxFault.unexpected ")").message) "    at <anonymous>\n"))) =
    some (false, true) :=
  Realm.check_world_and_create.2

/-- On a new bridge, a script is run from its blob, and a text that is no program is told of. -/
theorem bytecode_agrees_new : ∃ b tags u, Bridge.create {} {} = .ok (b, tags) ∧
    (compile "a.js" "6 * 7" .script = .ok u ∧
      exec (evalBlob u.serialize) b = exec (evalSource "a.js" "6 * 7" false) b) ∧
    (compile "a.js" ")" .script = .error (.compile "a.js" "SyntaxError: unexpected token: ')'") ∧
      (exec (evalSource "a.js" ")" false) b).1 = .error (.eval ⟨some "SyntaxError",
        "SyntaxError: unexpected token: ')'", some "    at <anonymous>\n"⟩)) := by
  have husable (source : String) (h : checkSource "a.js" source = .ok ()) :
      ∀ e, ¬ Unusable "a.js" source e := checkSource_eq_ok_iff.1 h
  have hparse : parse false ")" = .error (.unexpected ")") := by
    have hmap : (parse false ")").map (fun _ => ()) = .error (.unexpected ")") := by decide +kernel
    cases h : parse false ")" with
    | error f =>
      rw [h] at hmap
      exact congrArg Except.error (Except.error.inj hmap)
    | ok p =>
      rw [h] at hmap
      cases hmap
  have hfails := husable ")" (by decide +kernel)
  have hcompile :
      compile "a.js" "6 * 7" .script = .ok (ofScript "a.js" "6 * 7") := by decide +kernel
  have htells := create_tellsError
  generalize Bridge.create {} {} = created at htells ⊢
  rcases created with e | ⟨b, tags⟩
  · cases htells
  · obtain ⟨hhalted, htells⟩ := Prod.mk.inj (Option.some.inj htells)
    refine ⟨b, tags, _, rfl, ⟨hcompile, ?_⟩, ?_, ?_⟩
    · exact ((bytecode_agrees "a.js" "6 * 7" b).compiled _ hcompile (by decide +kernel)).2
    · exact ((bytecode_agrees "a.js" ")" b).uncompiled _).2 (.inr ⟨hfails, _, hparse, by decide⟩)
    · exact (bytecode_agrees "a.js" ")" b).told _ hfails hparse hhalted _ (of_decide_eq_true htells)

end BridgeM

end ScriptBridge
