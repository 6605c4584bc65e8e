import ScriptBridge.Export.Thread

/-!
# Exported calls

The exports as data: what a caller passes to each of them, and when that cannot be used
(`ExportCall.Malformed`).
-/

namespace ScriptBridge

/-- The exports, with what a caller passes. -/
inductive ExportCall
  | init (var : String → Option String)
  | initWithConfig (document : Buffer)
  | shutdown
  | compile (filename source : Buffer) (isModule : Bool) (outs : List OutPointer)
  | eval (filename source : Buffer) (isModule : Bool) (out : OutPointer)
  | evalBlob (blob : Buffer) (out : OutPointer)
  | loadBlob (blob : Buffer) (out : OutPointer)
  | globalObject (out : OutPointer)
  | call (target : Handle) (name : Buffer) (args : HandleArray) (out : OutPointer)
  | getProperty (target : Handle) (name : Buffer) (out : OutPointer)
  | getString (h : Handle) (outs : List OutPointer)
  | newString (text : Buffer) (out : OutPointer)
  | release (h : Handle)
  | promiseResult (h : Handle) (out : OutPointer)
  | endCall (id : Nat) (value : Handle) (rejected : Bool) (out : OutPointer)
  | registerHost (name : Buffer) (arity : Nat) (f : Option NativeCallback)
  | setDispatcher (on : Bool)
  | takeRequest (outs : List OutPointer)
  | lastErrorText (outs : List OutPointer)

/-- What a call yields. -/
inductive ExportResult
  | done
  | handle (h : Handle)
  | blob (bytes : List UInt8)
  | text (s : String)
  | ended (e : CallEnd)
  | request (r : Option AsyncRequest)

/-- Whether a result is a handle. -/
def ExportResult.isHandle : ExportResult → Bool
  | handle _ => true
  | _ => false

/-- An export with something made of its results. -/
def Export.map {α β : Type} (f : α → β) (e : Export α) : Export β := fun t =>
  let ((s, r), t') := e t
  ((s, r.map f), t')

namespace ExportCall

/-- Runs a call. -/
def perform : ExportCall → Export ExportResult
  | init var => (Thread.init var).map fun _ => .done
  | initWithConfig document => (Thread.initWithConfig document).map fun _ => .done
  | shutdown => Thread.shutdown.map fun _ => .done
  | compile filename source isModule outs =>
    (Thread.compile filename source isModule outs).map .blob
  | eval filename source isModule out => (Thread.eval filename source isModule out).map .handle
  | evalBlob blob out => (Thread.evalBlob blob out).map .handle
  | loadBlob blob out => (Thread.loadBlob blob out).map .handle
  | globalObject out => (Thread.globalObject out).map .handle
  | call target name args out => (Thread.call target name args out).map .handle
  | getProperty target name out => (Thread.getProperty target name out).map .handle
  | getString h outs => (Thread.getString h outs).map .text
  | newString text out => (Thread.newString text out).map .handle
  | release h => (Thread.release h).map fun _ => .done
  | promiseResult h out => (Thread.promiseResult h out).map .handle
  | endCall id value rejected out => (Thread.endCall id value rejected out).map .ended
  | registerHost name arity f => (Thread.registerHost name arity f).map fun _ => .done
  | setDispatcher on => (Thread.setDispatcher on).map fun _ => .done
  | takeRequest outs => (Thread.takeRequest outs).map .request
  | lastErrorText outs => (Thread.lastErrorText outs).map .text

/-- Whether a call puts another bridge, or none, in the place of the one that there is. -/
def setsUp : ExportCall → Bool
  | init _ | initWithConfig _ | shutdown => true
  | _ => false

/-- Whether a call yields a handle. -/
def givesHandle : ExportCall → Bool
  | eval .. | evalBlob .. | loadBlob .. | globalObject _ | call .. | getProperty .. | newString ..
  | promiseResult .. => true
  | _ => false

/-- The places that a call has to have for its results. -/
def outs : ExportCall → List OutPointer
  | compile _ _ _ outs | getString _ outs | takeRequest outs | lastErrorText outs => outs
  | eval _ _ _ out | evalBlob _ out | loadBlob _ out | globalObject out | call _ _ _ out
  | getProperty _ _ out | newString _ out | promiseResult _ out => [out]
  | _ => []

/-- The texts that are passed to a call. -/
def texts : ExportCall → List Buffer
  | compile filename source .. | eval filename source .. => [filename, source]
  | initWithConfig text | call _ text .. | getProperty _ text _ | newString text _
  | registerHost text .. => [text]
  | _ => []

/-- The blobs that are passed to a call. -/
def blobs : ExportCall → List Buffer
  | evalBlob blob _ | loadBlob blob _ => [blob]
  | _ => []

/-- The arrays of handles that are passed to a call. -/
def arrays : ExportCall → List HandleArray
  | call _ _ args _ => [args]
  | _ => []

end ExportCall

/-- A null pointer stands in the place of bytes. -/
def Buffer.IsMissing (b : Buffer) : Prop := ∃ n, b = .null (n + 1)

/-- The bytes are no text. -/
def Buffer.IsNoText (b : Buffer) : Prop :=
  b.IsMissing ∨ ∃ bytes reason, b = .bytes bytes ∧ Utf8.decode bytes = .error reason

/-- A null pointer stands in the place of handles. -/
def HandleArray.IsMissing (a : HandleArray) : Prop := ∃ n, a = .null (n + 1)

/-- A place for a result is missing, or an argument cannot be used. -/
def ExportCall.Malformed (c : ExportCall) : Prop :=
  .null ∈ c.outs ∨ (∃ b ∈ c.texts, b.IsNoText) ∨ (∃ b ∈ c.blobs, b.IsMissing) ∨
    ∃ a ∈ c.arrays, a.IsMissing

end ScriptBridge
