import FifiAlert.Concurrency.Protocol
import FifiAlert.Auth.TokenService
import FifiAlert.Auth.TokenProtocol
import FifiAlert.Auth.ReplacementBlob
import FifiAlert.Auth.TokenRotation
import FifiAlert.Auth.SingleUse
import FifiAlert.Auth.RevokeAll
import FifiAlert.Upload.ImageType
import FifiAlert.Upload.UploadService
import FifiAlert.Upload.SpoofedHeader
import FifiAlert.Concurrency.Ending
import FifiAlert.Upload.RejectedBatch
import FifiAlert.Upload.PublicId
import FifiAlert.Alert.AlertCalls
import FifiAlert.Alert.AlertService
import FifiAlert.Alert.Ownership
import FifiAlert.Alert.AlertProtocol
import FifiAlert.Alert.AlertClosing
import FifiAlert.Alert.FinalStatus
import FifiAlert.Invitation.InvitationText
import FifiAlert.Invitation.InvitationCalls
import FifiAlert.Invitation.InvitationService
import FifiAlert.Invitation.InvitationProtocol
import FifiAlert.Invitation.FinalInvitation
import FifiAlert.User.UserUpdate
import FifiAlert.User.Privileges
import FifiAlert.User.UserSearch
import FifiAlert.Js.Ident
import FifiAlert.Store.FirstKeys
import FifiAlert.I18n.LanguageService
import FifiAlert.I18n.Negotiation
import FifiAlert.Store.Assoc
import FifiAlert.Location.LocationService
import FifiAlert.Location.Matching
import FifiAlert.Location.UniqueRecipients
import FifiAlert.Notification.NotificationService
import FifiAlert.Notification.NotificationQueueProcessor
import FifiAlert.Notification.FanOut
import FifiAlert.Notification.WaveOutcome
import FifiAlert.Notification.PushFanOut
import FifiAlert.Notification.ReporterSpared
import FifiAlert.Notification.Escalation
import FifiAlert.Alert.AlertLookup
import FifiAlert.Alert.AnonymousView
import FifiAlert.Auth.SessionCalls
import FifiAlert.Auth.RotationOutcome
import FifiAlert.Auth.TokenCleanup
import FifiAlert.Auth.AuthController
import FifiAlert.Auth.PasswordChange
import FifiAlert.Auth.KeptDevice
import FifiAlert.Auth.LoginFlows
import FifiAlert.Auth.BanGate
import FifiAlert.Auth.SessionProtocol
import FifiAlert.Auth.SessionPool
import FifiAlert.Auth.RevocationPermanent
import FifiAlert.Auth.LogoutClosing
import FifiAlert.Admin.AutomaticUnban
import FifiAlert.User.Accounts
import FifiAlert.User.VerifiedAddress
import FifiAlert.Concurrency.Attempt
import FifiAlert.Notification.WaveCalls
import FifiAlert.Notification.WaveRetry
import FifiAlert.Notification.PushNotification
import FifiAlert.Notification.SuccessStory
import FifiAlert.Notification.StoryFanOut
import FifiAlert.Notification.QueueWorker
import FifiAlert.Notification.StoryOnce
import FifiAlert.Notification.StoryRetry
import FifiAlert.Notification.PushQueue
import FifiAlert.Notification.PushLedger
import FifiAlert.Notification.PushWorker
import FifiAlert.Notification.PushJobs
import FifiAlert.Notification.OnePush
import FifiAlert.Concurrency.Since
import FifiAlert.Invitation.SendLedger
import FifiAlert.Invitation.SendProtocol
import FifiAlert.Invitation.SendLimits
import FifiAlert.Invitation.InviteProtocol
import FifiAlert.Invitation.LiveToken
import FifiAlert.Alert.RenewalLedger
import FifiAlert.Alert.RenewalCount
import FifiAlert.Auth.UserThrottlerGuard
import FifiAlert.Location.BannedUsers
import FifiAlert.Auth.PasskeyLogin
import FifiAlert.Auth.ChallengeLedger
import FifiAlert.Auth.PasskeyChallenge
import FifiAlert.Notification.Receipts
import FifiAlert.Notification.StatusForward
import FifiAlert.Notification.ReceiptOrder
import FifiAlert.Notification.DailyCap
import FifiAlert.Sighting.OwnerNotice
import FifiAlert.Auth.SignupOnce
import FifiAlert.Adoption.AdoptionService
import FifiAlert.Adoption.AdoptionCycle
import FifiAlert.Pet.OpenAlerts
import FifiAlert.Alert.MemberView
import FifiAlert.Alert.RateLimitService
import FifiAlert.Alert.AlertLimits
import FifiAlert.Alert.AlertCreation
import FifiAlert.Pet.MissingFlag
import FifiAlert.Pet.FlagLedger
import FifiAlert.Pet.FlaggedAlerts
import FifiAlert.Location.LiveAlerts
import FifiAlert.Alert.ConfirmationMail
import FifiAlert.Alert.FailedCreation
import FifiAlert.Alert.LiveRenewal
import FifiAlert.Audit.AuditLogService
import FifiAlert.Audit.AuditRedaction
import FifiAlert.Audit.AuditFidelity
import FifiAlert.Shared.ExposedCredentials
import FifiAlert.Alert.AlertPhotos
import FifiAlert.Sighting.SightingPhotos
import FifiAlert.Sighting.PhotoUploads
import FifiAlert.Device.DeviceService
import FifiAlert.Device.DeviceWrites
import FifiAlert.Device.DeviceUpsert
import FifiAlert.Concurrency.Mirror
import FifiAlert.Device.DevicePositions
import FifiAlert.Pet.PetService
import FifiAlert.Pet.PetPhotos
import FifiAlert.Alert.ThankYouMessage
import FifiAlert.Location.BestDevice
import FifiAlert.Alert.RetryHint
import FifiAlert.Invitation.EscapedText
import FifiAlert.Invitation.InvitationBodies
import FifiAlert.Invitation.SenderFooter
import FifiAlert.Alert.ReunionReplacement
import FifiAlert.Pet.FoundReports
import FifiAlert.Concurrency.Forget
import FifiAlert.Invitation.PendingConflicts
import FifiAlert.Invitation.RealConflicts
import FifiAlert.Invitation.DeliveryBooks
import FifiAlert.Invitation.StaleDeliveries
import FifiAlert.Invitation.DeliveryTruth
import FifiAlert.Notification.PushAttempts
import FifiAlert.Notification.SentOnce
import FifiAlert.User.AlertZoneService
import FifiAlert.User.AlertZones
import FifiAlert.User.RoleLevels
import FifiAlert.Alert.ReunionCards
import FifiAlert.Alert.ReunionExpiry
import FifiAlert.Sighting.HiddenSightings
import FifiAlert.Adoption.HiddenListings
import FifiAlert.User.Deletions
import FifiAlert.User.StaleZones
import FifiAlert.Pet.TypeAnswers
import FifiAlert.Auth.PasskeyRequests
