import Questionnaire.Json.Writer
import Questionnaire.Json.Reader
import Questionnaire.Text.Blank
import Questionnaire.Form.Stored
import Questionnaire.Session
import Questionnaire.Numbering
import Questionnaire.Submission
import Questionnaire.Artifact.Files
import Questionnaire.Web.AddressLookup
import Questionnaire.Web.Webhook
import Questionnaire.Retry
import Questionnaire.Store.Versions
import Questionnaire.Service.App
import Questionnaire.Proofs.Visibility
import Questionnaire.Proofs.References
import Questionnaire.Proofs.NumberedSession
import Questionnaire.Proofs.ActiveSequence
import Questionnaire.Proofs.SessionInvariant
import Questionnaire.Proofs.RequiredAnswers
import Questionnaire.Proofs.StatelessPreview
import Questionnaire.Proofs.StoreRuns
import Questionnaire.Proofs.StoredVersions
import Questionnaire.Proofs.History
import Questionnaire.Proofs.Ownership
import Questionnaire.Proofs.Loading
import Questionnaire.Proofs.JsonReading
import Questionnaire.Proofs.ClassPrefixes
import Questionnaire.Proofs.ConfigurationLiteral
import Questionnaire.Proofs.MarkupReading
import Questionnaire.Proofs.ScriptData
import Questionnaire.Proofs.PageParts
import Questionnaire.Proofs.InlinedAssets
import Questionnaire.Proofs.MarkupStructure
import Questionnaire.Proofs.ReachingTheEnd
import Questionnaire.Proofs.Renumbering
import Questionnaire.Proofs.KeptAnswers
import Questionnaire.Proofs.Payload
import Questionnaire.Proofs.NumberedPayload
import Questionnaire.Proofs.RestoredVersions
import Questionnaire.Proofs.RelaxedRule
import Questionnaire.Proofs.HugeIntegers
import Questionnaire.Proofs.FailedRedirects
import Questionnaire.Proofs.LostAcknowledgements
import Questionnaire.Proofs.CompactReading
import Questionnaire.Proofs.Submissions
import Questionnaire.Proofs.WebhookIndependence
import Questionnaire.Proofs.RoundedRatios
import Questionnaire.Proofs.NearestDoubles
import Questionnaire.Proofs.ReadDecimals
import Questionnaire.Proofs.ShortestDecimals
import Questionnaire.Proofs.ChosenDecimals
import Questionnaire.Proofs.PrintedNumbers
import Questionnaire.Proofs.StoredValues
import Questionnaire.Proofs.StructuredTexts
import Questionnaire.Proofs.MoreAnswers
import Questionnaire.Proofs.Toggling
import Questionnaire.Proofs.ElementIds
import Questionnaire.Proofs.StyleReading
import Questionnaire.Proofs.StyleContents
import Questionnaire.Proofs.OpenParentheses
import Questionnaire.Proofs.ButtonColors
import Questionnaire.Proofs.AddressLookups
import Questionnaire.Proofs.DistinctNames
import Questionnaire.Proofs.LookupQueries
import Questionnaire.Proofs.Retries
