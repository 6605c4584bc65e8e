import ScriptBridge.CommandLine.Directory
import ScriptBridge.Export.Thread
import ScriptBridge.Main
import ScriptBridge.Proofs.Async.Completion
import ScriptBridge.Proofs.Async.Service
import ScriptBridge.Proofs.Bridge.Bytecode
import ScriptBridge.Proofs.Bridge.Conservation
import ScriptBridge.Proofs.Bridge.Failures
import ScriptBridge.Proofs.Bridge.HostFunctions
import ScriptBridge.Proofs.Bridge.Jobs
import ScriptBridge.Proofs.Bridge.Process
import ScriptBridge.Proofs.Bridge.Text
import ScriptBridge.Proofs.Envelope.Truncation
import ScriptBridge.Proofs.Exchange.Conversion
import ScriptBridge.Proofs.Exchange.RoundTrip
import ScriptBridge.Proofs.Export.Generation
import ScriptBridge.Proofs.Export.Polling
import ScriptBridge.Proofs.Handle.Refinement
import ScriptBridge.Proofs.Handle.Reuse
import ScriptBridge.Proofs.Module.Closure
import ScriptBridge.Proofs.Module.Identity
import ScriptBridge.Proofs.Module.Linkable
import ScriptBridge.Proofs.Module.Reference
import ScriptBridge.Proofs.Module.Poison
import ScriptBridge.Proofs.Module.Once
import ScriptBridge.Proofs.Module.Search
import ScriptBridge.Proofs.Module.Import
import ScriptBridge.Proofs.Module.Thrown
import ScriptBridge.Proofs.Repl.Brackets
import ScriptBridge.Proofs.Repl.Completion
import ScriptBridge.Proofs.Repl.Session
import ScriptBridge.Proofs.Repl.Settling
