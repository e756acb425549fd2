import GotechDesk.PortForward.Target
import GotechDesk.PortForward.TunnelStreams
import GotechDesk.PortForward.ChannelCaps
import GotechDesk.PortForward.Listener
import GotechDesk.Connection.Admission
import GotechDesk.Connection.Following
import GotechDesk.VideoService.FreshEncoder
import GotechDesk.FileTransfer.Delivery
import GotechDesk.FileTransfer.DelegatedFreshness
import GotechDesk.Clipboard.PasteOrder
import GotechDesk.ClipboardService.CmRequests
import GotechDesk.ClipboardService.Updates
import GotechDesk.Controller.LocalRemovals
import GotechDesk.AudioCapture.Playback
import GotechDesk.Drm.Verdicts
import GotechDesk.Privacy.Ownership
import GotechDesk.PortableService.FrameHandoff
import GotechDesk.PortableService.LaunchToken
import GotechDesk.Downloader.Isolation
import GotechDesk.Keyboard.GrabOwnership
import GotechDesk.Keyboard.HeldKeys
import GotechDesk.Connection.LoginFailures
import GotechDesk.Uinput.Answers
import GotechDesk.HbbsHttp.Strategy
import GotechDesk.AudioPlayback.PlaybackLaws
import GotechDesk.AuthedConns.KeepAwake
import GotechDesk.DisplayService.SyncDisplays
import GotechDesk.Ipc.OwedScrub
import GotechDesk.Connection.OsCredential
import GotechDesk.TerminalService.Utf8Chunks
import GotechDesk.TerminalService.History
import GotechDesk.TerminalService.SessionTable
import GotechDesk.AudioResampler.Packets
import GotechDesk.VideoQos.SafeCalls
import GotechDesk.VideoQos.BitrateEvidence
import GotechDesk.VideoQos.RecoveryLevel
import GotechDesk.Codec.Consensus
import GotechDesk.VoiceCall.Agreement
import GotechDesk.VideoThread.DecodingOrder
import GotechDesk.AudioPlayback.Alignment
import GotechDesk.Connection.Wildcard
import GotechDesk.Clipboard.ServeContents
import GotechDesk.Clipboard.UntrustedList
import GotechDesk.Clipboard.FuseLookup
import GotechDesk.Drm.CoveredRequests
import GotechDesk.Drm.LosslessChannel
import GotechDesk.Drm.FrameOrder
import GotechDesk.Drm.GeometryAgreement
import GotechDesk.VideoService.PacedReports
import GotechDesk.RendezvousMediator.IceQueue
import GotechDesk.RendezvousMediator.PunchUntil
import GotechDesk.Keyboard.ModifierReleases
import GotechDesk.PortForward.OpenErrors
import GotechDesk.PortForward.OpenIds
import GotechDesk.Connection.RemoveLog
import GotechDesk.VirtualDisplay.AmyuniIdd
import GotechDesk.DisplayService.Resolutions
import GotechDesk.Connection.TemporaryPassword
