import ScriptBridge.Engine.Run
import ScriptBridge.Host.TypedFn
import ScriptBridge.Proofs.Namespace
import ScriptBridge.Proofs.SettingLife
import ScriptBridge.Proofs.TypedCall
import ScriptBridge.Setting.Registry
import ScriptBridge.Value.Same
import ScriptBridge.Proofs.NameOrder
import ScriptBridge.Proofs.RegistryLife
import ScriptBridge.Proofs.PullBatch
import ScriptBridge.Proofs.PushBatch
import ScriptBridge.Proofs.Relocation
import ScriptBridge.Proofs.ScriptRun
import ScriptBridge.Proofs.ForeignError
import ScriptBridge.Proofs.EngineFrame
import ScriptBridge.Proofs.Listing
import ScriptBridge.Proofs.Rendering
import ScriptBridge.Proofs.RoundTrip
import ScriptBridge.Proofs.Reload
import ScriptBridge.Proofs.FirstWriter
import ScriptBridge.Proofs.TablesApart
import ScriptBridge.Engine.Typed
import ScriptBridge.Proofs.FailedRegistration
import ScriptBridge.Proofs.InferredType
import ScriptBridge.Proofs.ScopeLaws
import ScriptBridge.Proofs.AnyOutputs
import ScriptBridge.Proofs.ResultOutputs
import ScriptBridge.Proofs.MessageGrammar
import ScriptBridge.Proofs.Conversions
import ScriptBridge.Proofs.LineReading
import ScriptBridge.Proofs.NamedOnce
import ScriptBridge.Proofs.NormalForms
import ScriptBridge.Proofs.SecondRun
import ScriptBridge.Proofs.ParameterForms
import ScriptBridge.Proofs.UncheckedCall
import ScriptBridge.Proofs.ValueEquality
import ScriptBridge.Proofs.TableOrder
import ScriptBridge.Proofs.HiddenOrder
