import GmStack.Crypto.CipherModes
import GmStack.Crypto.DerDecode
import GmStack.Crypto.Sm2Exchange
import GmStack.Sm9.Hash
import GmStack.Sm9.Pairing
import GmStack.Tls.Agreement
import GmStack.Tls.Chunking
import GmStack.Tls.Resumption
import GmStack.Tls.Sizes
import GmStack.Tls.Synchronisation
import GmStack.Tls.UpdateFailures
import GmStack.Tlcp.Certificates
import GmStack.Tlcp.EndOfStream
import GmStack.Tlcp.Framing
import GmStack.Tlcp.Nonces
import GmStack.Tlcp.Oracles
import GmStack.Tlcp.Resumption
import GmStack.Tlcp.Schedules
import GmStack.Tlcp.SessionCache
import GmStack.Ca.CrlNumbers
import GmStack.Ca.Extensions
import GmStack.Ca.Lifetimes
import GmStack.Ca.RateLimit
import GmStack.Http.Responses
import GmStack.Http.Ssrf
