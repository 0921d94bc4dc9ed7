import HttpExchange.Configuration.Document
import HttpExchange.Exchange.Operation
import HttpExchange.Worker.Program
import HttpExchange.Worker.Script
import HttpExchange.Proofs.Calendar
import HttpExchange.Proofs.HttpDate
import HttpExchange.Proofs.Revalidation
import HttpExchange.Proofs.HostPort
import HttpExchange.Proofs.Request.Forwarding
import HttpExchange.Proofs.Request.FollowedHost
import HttpExchange.Proofs.Request.Creation
import HttpExchange.Proofs.Request.Identity
import HttpExchange.Proofs.Request.LiveForwarding
import HttpExchange.Proofs.Request.BodyDelivery
import HttpExchange.Proofs.CookieHistory
import HttpExchange.Proofs.CookieExpiry
import HttpExchange.Proofs.CookieRepeats
import HttpExchange.Proofs.CookieText
import HttpExchange.Proofs.HeaderHistory
import HttpExchange.Proofs.ChunkFanOut
import HttpExchange.Proofs.Lines
import HttpExchange.Proofs.HeaderReading
import HttpExchange.Proofs.ResponseHead
import HttpExchange.Proofs.StackDiscipline
import HttpExchange.Proofs.Request.HeaderReads
import HttpExchange.Proofs.Framing
import HttpExchange.Proofs.BufferedBody
import HttpExchange.Proofs.HandlerResults
import HttpExchange.Proofs.FailedCalls
import HttpExchange.Proofs.ExchangeHalves
import HttpExchange.Proofs.ErrorPages
import HttpExchange.Proofs.Base64
import HttpExchange.Proofs.Request.Credentials
import HttpExchange.Proofs.LanguageRanking
import HttpExchange.Proofs.FormatNegotiation
import HttpExchange.Proofs.ContentTypes
import HttpExchange.Proofs.EncodedText
import HttpExchange.Proofs.Lifetimes
import HttpExchange.Proofs.AllowLists
import HttpExchange.Proofs.Methods
