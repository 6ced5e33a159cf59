import ArkClaw.Library.Program
import ArkClaw.Library.Runs
import ArkClaw.Pet.ActionSequence
import ArkClaw.Pet.State
import ArkClaw.Pet.ProductionActions
import ArkClaw.Pet.Geometry
import ArkClaw.Pet.Motion
import ArkClaw.Pet.MotionLaws
import ArkClaw.Pet.Track0
import ArkClaw.Pet.Track0Laws
import ArkClaw.Pet.Watchdog
import ArkClaw.Pet.Scheduler
import ArkClaw.Pet.Engine
import ArkClaw.Pet.EngineOperations
import ArkClaw.Pet.EngineLaws
import ArkClaw.Pet.EngineEvents
import ArkClaw.Pet.EngineInvariant
import ArkClaw.Pet.EngineCallbacks
import ArkClaw.Pet.EngineTick
import ArkClaw.Pet.EngineRuns
import ArkClaw.Provider.AdapterCleanup
import ArkClaw.Provider.ProviderTracking
import ArkClaw.Provider.ProfileServiceRuns
import ArkClaw.Provider.ProviderSettingsRuns
import ArkClaw.Domain.Models
import ArkClaw.Pet.StateRuns
import ArkClaw.Pet.EngineLifecycle
import ArkClaw.Pet.EngineClosing
import ArkClaw.Pet.EngineRecovery
import ArkClaw.Pet.EngineUnprompted
import ArkClaw.Pet.EngineHold
import ArkClaw.Pet.WindowTick
import ArkClaw.Agent.AgentLoopRuns
import ArkClaw.Agent.AgentLoopOutcomes
import ArkClaw.Presentation.FrontendPresentation
import ArkClaw.Autostart.AutostartRuns
import ArkClaw.Autostart.AutostartAnswers
import ArkClaw.Pet.Track0Runs
import ArkClaw.Pet.GroundRuns
import ArkClaw.Pet.ProtectedQueueRuns
import ArkClaw.Provider.JsonProfileRepositoryRuns
import ArkClaw.Presentation.EffectOverlayRuns
import ArkClaw.Pet.RolePackSwitchRuns
import ArkClaw.Presentation.Spine38Drawing
import ArkClaw.Presentation.Spine38Rendering
import ArkClaw.Bootstrap.RenderPreflight
import ArkClaw.Presentation.SurfaceOwner
import ArkClaw.Packaging.TransactionalArchiveRuns
import ArkClaw.Pet.ExternalAssetsLoading
import ArkClaw.Pet.Spine38Bridge
import ArkClaw.Provider.OpenAIStreamLaws
import ArkClaw.Provider.OpenAITranslation
import ArkClaw.Provider.DeepSeekTurns
import ArkClaw.Provider.ActivationFailures
import ArkClaw.Pet.RenderLimits
import ArkClaw.Pet.RenderPlacement
import ArkClaw.Pet.RenderReflection
import ArkClaw.Pet.RenderSettling
import ArkClaw.Pet.MotionFall
import ArkClaw.Presentation.SingleInstanceRuns
import ArkClaw.Presentation.RuntimeShutdownRuns
import ArkClaw.Presentation.AutostartFollowing
import ArkClaw.Presentation.SafeExitRuns
import ArkClaw.Pet.SequenceExit
import ArkClaw.Pet.PaceRuns
import ArkClaw.Agent.ContextSelection
import ArkClaw.Presentation.ConversationPlacement
import ArkClaw.Autostart.OperationJournalRuns
import ArkClaw.Provider.MetadataFile
import ArkClaw.Provider.OpenAIStreamingAgreement
import ArkClaw.Agent.RuntimeSessionOutcomes
