import CeramicAnchor.Construction.RequestService
import CeramicAnchor.Proof.Witness
import CeramicAnchor.Proof.Replacement
import CeramicAnchor.Proof.ReplacedBy
import CeramicAnchor.Proof.Completion
import CeramicAnchor.Proof.SparedRequests
import CeramicAnchor.Proof.ProcessingTimeout
import CeramicAnchor.Proof.Publication
import CeramicAnchor.Proof.Redelivery
import CeramicAnchor.Proof.Anchoring
import CeramicAnchor.Proof.ExclusiveClaim
import CeramicAnchor.Proof.NoLostUpdate
import CeramicAnchor.Proof.FailedBatch
import CeramicAnchor.Proof.ReadyBatch
import CeramicAnchor.Proof.AnchorEvent
import CeramicAnchor.Proof.GasPrice
import CeramicAnchor.Proof.SentTransaction
import CeramicAnchor.Proof.Nonce
import CeramicAnchor.Proof.BodyDigest
import CeramicAnchor.Proof.CandidateSelection
import CeramicAnchor.Proof.OldestStreams
import CeramicAnchor.Proof.AllowList
import CeramicAnchor.Proof.ConfirmedTransaction
import CeramicAnchor.Proof.InsufficientFunds
import CeramicAnchor.Proof.WitnessMinimal
import CeramicAnchor.Proof.Presentation
import CeramicAnchor.Proof.TransactionMutex
import CeramicAnchor.Proof.ActiveCode
import CeramicAnchor.Proof.AdminCredentials
import CeramicAnchor.Proof.Admission
import CeramicAnchor.Proof.ApiKeys
import CeramicAnchor.Proof.DisabledKey
import CeramicAnchor.Proof.WorkerForks
import CeramicAnchor.Proof.WitnessTable
import CeramicAnchor.Proof.AnchorLookups
import CeramicAnchor.Proof.SchedulerSafety
import CeramicAnchor.Proof.NoOpCallback
import CeramicAnchor.Proof.PathLine
import CeramicAnchor.Proof.StatusAnswers
import CeramicAnchor.Proof.PostAnswers
import CeramicAnchor.Proof.NotaryRefinement
import CeramicAnchor.Proof.QueueDelivery
import CeramicAnchor.Proof.AdmittedRequests
import CeramicAnchor.Proof.PubsubResponses
import CeramicAnchor.Proof.Recovery
